import TransitMap.Layout.Echelon

namespace TransitMap

inductive PlacementFault (K : Type) where
  | weightCount (targets weights : Nat)
  | weightNotPositive (weight : K)
  | unknownCoordinate (sourceLine : Nat)
  | contradiction (sourceLine : Nat)
  | singular
  | noCoordinates
  deriving DecidableEq, Repr

structure Placement (K : Type) where
  targets : List K
  weights : List K
  equalities : List (Equality K)
  deriving DecidableEq, Repr

namespace Placement

variable [Scalar K]

/-- Checks the parts of a placement: each target has a positive weight, and the equalities are about
its coordinates. -/
def ofParts (targets weights : List K) (equalities : List (Equality K)) :
    Except (PlacementFault K) (Placement K) :=
  if targets.length ≠ weights.length then
    .error (.weightCount targets.length weights.length)
  else
    match weights.find? fun weight => !decide (0 < weight) with
    | some weight => .error (.weightNotPositive weight)
    | none =>
        match equalities.find? fun equality =>
            equality.terms.any fun term => targets.length ≤ term.1 with
        | some equality => .error (.unknownCoordinate equality.sourceLine)
        | none => .ok ⟨targets, weights, equalities⟩

def size (placement : Placement K) : Nat := placement.targets.length

def reduced (coordinates : Nat) (equalities : List (Equality K)) :
    Except (PlacementFault K) (List (PivotRow K)) :=
  (Echelon.ofEqualities coordinates equalities).mapError fun equality =>
    .contradiction equality.sourceLine

/-- The row in which the derivative of the sum by one coordinate vanishes, up to multiples of the
equalities: their coefficients of the coordinate come behind its own. -/
def stationaryRow (size : Nat) (equalities : List (Equality K)) (coordinate : Nat)
    (target weight : K) : Row K :=
  ⟨((List.range size).map fun other => if other = coordinate then 2 * weight else 0) ++
      equalities.map fun equality => equality.coefficient coordinate,
    2 * weight * target⟩

/-- The row of an equality, with no part in the multiples of the `count` equalities. -/
def equalityRow (size count : Nat) (equality : Equality K) : Row K :=
  ⟨(equality.dense size).coefficients ++ List.replicate count 0, equality.constant⟩

/-- The conditions for the least weighted sum of squared deviations among all values for which the
equalities hold. The unknowns are the coordinates and a multiplier for each equality. -/
def conditions (placement : Placement K) (equalities : List (Equality K)) : List (Row K) :=
  ((placement.targets.zip placement.weights).zipIdx.map fun entry =>
    stationaryRow placement.size equalities entry.2 entry.1.1 entry.1.2) ++
  equalities.map (equalityRow placement.size equalities.length)

def solve (placement : Placement K) : Except (PlacementFault K) (List K) := do
  let pivots ← reduced placement.size placement.equalities
  if placement.targets.isEmpty then .error .noCoordinates
  else
    match LinearSystem.solve? (placement.conditions (Echelon.independent pivots)) with
    | some values => .ok (values.take placement.size)
    | none => .error .singular

end Placement

end TransitMap
