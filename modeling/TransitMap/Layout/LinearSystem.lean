import TransitMap.Scalar

/-!
Systems with as many linear equations as unknowns, solved by elimination. In each column the
equation with the largest coefficient is used, the first of several.
-/

namespace TransitMap

/-- An equation between unknowns in order, by their coefficients. -/
structure Row (K : Type) where
  coefficients : List K
  constant : K
  deriving DecidableEq, Repr

namespace Row

variable [Scalar K]

def leading (row : Row K) : K := row.coefficients.headD 0

def subtract (row : Row K) (factor : K) (other : Row K) : Row K :=
  ⟨row.coefficients.zipWith (fun own foreign => own - factor * foreign) other.coefficients,
    row.constant - factor * other.constant⟩

/-- The equation without its first unknown, after `pivot` took that out. -/
def eliminate (pivot row : Row K) : Row K :=
  let factor := row.leading * (1 / pivot.leading)
  (⟨row.coefficients.tail, row.constant⟩ : Row K).subtract factor
    ⟨pivot.coefficients.tail, pivot.constant⟩

def solveLeading (row : Row K) (others : List K) : K :=
  (row.coefficients.tail.zip others).foldr (fun entry rest => rest - entry.1 * entry.2)
    row.constant / row.leading

end Row

namespace LinearSystem

variable [Scalar K]

/-- The place of the first equation with the largest leading coefficient, if that is larger than
the coefficient `size` at `place`. `next` is the place of the first equation of the list. -/
def largest (place : Nat) (size : K) (next : Nat) : List (Row K) → Nat
  | [] => place
  | row :: rest =>
      if size < Scalar.abs row.leading then
        largest next (Scalar.abs row.leading) (next + 1) rest
      else largest place size (next + 1) rest

/-- The equation that is used to eliminate the first unknown, and the others, with the first one in
its place. -/
def choose (first : Row K) (rest : List (Row K)) : Row K × List (Row K) :=
  match largest 0 (Scalar.abs first.leading) 1 rest with
  | 0 => (first, rest)
  | place + 1 => (rest.getD place first, rest.set place first)

theorem length_choose (first : Row K) (rest : List (Row K)) :
    (choose first rest).2.length = rest.length := by
  unfold choose
  split <;> simp

/-- The unknowns, unless the elimination finds a column of zeros. -/
def solve? : List (Row K) → Option (List K)
  | [] => some []
  | first :: rest =>
      let pivot := (choose first rest).1
      if pivot.leading == 0 then none
      else (solve? ((choose first rest).2.map pivot.eliminate)).map fun values =>
        pivot.solveLeading values :: values
  termination_by rows => rows.length
  decreasing_by simp [length_choose]

end LinearSystem

end TransitMap
