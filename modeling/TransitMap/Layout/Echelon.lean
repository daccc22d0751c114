import TransitMap.Layout.Equality
import TransitMap.Layout.LinearSystem

/-!
Equalities reduced against each other: one row for each independent equality, with a pivot, the
coordinate it is solved for. Each row is free of the pivots of the rows before it.
-/

namespace TransitMap

/-- A reduced equality with coefficient one at its pivot. -/
structure PivotRow (K : Type) where
  coordinate : Nat
  row : Row K
  equality : Equality K
  deriving DecidableEq, Repr

namespace Equality

variable [Scalar K]

def dense (equality : Equality K) (coordinates : Nat) : Row K :=
  ⟨(List.range coordinates).map equality.coefficient, equality.constant⟩

end Equality

namespace Row

variable [Scalar K]

def coefficient (row : Row K) (coordinate : Nat) : K := row.coefficients.getD coordinate 0

def divide (row : Row K) (divisor : K) : Row K :=
  ⟨row.coefficients.map (· / divisor), row.constant / divisor⟩

def reduceBy (row : Row K) (pivot : PivotRow K) : Row K :=
  let factor := row.coefficient pivot.coordinate
  if factor == 0 then row else row.subtract factor pivot.row

/-- Takes the pivots of the rows out of this one, the first of them first. -/
def reduce (row : Row K) (pivots : List (PivotRow K)) : Row K := pivots.foldl reduceBy row

end Row

namespace Echelon

variable [Scalar K]

/-- A smaller coefficient counts as zero. -/
def coefficientTolerance : K := 1 / Scalar.ofNat 1000000000

/-- A larger constant is a contradiction in a row without coefficients. -/
def constantTolerance : K := 1 / Scalar.ofNat 1000000

def entries (coefficients : List K) : List (Nat × K) :=
  (coefficients.zipIdx.map fun entry => (entry.2, entry.1)).filter fun entry =>
    decide (coefficientTolerance ≤ Scalar.abs entry.2)

def isUnit (coefficient : K) : Bool :=
  decide (Scalar.abs (Scalar.abs coefficient - 1) < coefficientTolerance)

/-- The last of the entries with the largest size. -/
def largest (best : Nat × K) : List (Nat × K) → Nat × K
  | [] => best
  | entry :: rest =>
      largest (if Scalar.abs entry.2 < Scalar.abs best.2 then best else entry) rest

/-- The pivot of a row and its coefficient: the first unit, or else the largest coefficient. There
is none if all coefficients count as zero. -/
def pivot? (row : Row K) : Option (Nat × K) :=
  match (entries row.coefficients).find? fun entry => isUnit entry.2 with
  | some entry => some entry
  | none =>
      match entries row.coefficients with
      | [] => none
      | first :: rest => some (largest first rest)

/-- Adds an equality to rows that are reduced already. An equality that follows from them adds
nothing, one that contradicts them is returned. -/
def extend (coordinates : Nat) (pivots : List (PivotRow K)) (equality : Equality K) :
    Except (Equality K) (List (PivotRow K)) :=
  let row := (equality.dense coordinates).reduce pivots
  match pivot? row with
  | some (coordinate, value) => .ok (pivots ++ [⟨coordinate, row.divide value, equality⟩])
  | none =>
      if constantTolerance < Scalar.abs row.constant then .error equality else .ok pivots

/-- The reduced rows of equalities between this many coordinates, or the first equality that
contradicts those before it. -/
def ofEqualities (coordinates : Nat) (equalities : List (Equality K)) :
    Except (Equality K) (List (PivotRow K)) :=
  equalities.foldlM (extend coordinates) []

/-- The equalities that no others imply. -/
def independent (pivots : List (PivotRow K)) : List (Equality K) :=
  pivots.map PivotRow.equality

end Echelon

end TransitMap
