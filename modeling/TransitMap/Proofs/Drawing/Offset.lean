import Mathlib.Tactic.FieldSimp
import TransitMap.Drawing.Offset
import TransitMap.Proofs.Plane.Cubic
import TransitMap.Proofs.Plane.Mirror

namespace TransitMap

namespace Offset

variable {K : Type} [ExactScalar K] {length : Point K → K} {curve : Cubic K}

section Even

variable (even : ∀ vector, length (-vector) = length vector)

include even

end Even

theorem length_samples (length : Point K → K) (curve : Cubic K) (outward : K) (intervals : Nat) :
    (samples length curve outward intervals).length = intervals + 1 := by
  simp [samples]

theorem getElem?_samples {outward : K} {intervals index : Nat} (within : index ≤ intervals) :
    (samples length curve outward intervals)[index]? =
      some (displaced length curve outward (index / intervals)) := by
  simp [samples, Nat.lt_succ_of_le within]

end Offset

end TransitMap
