import Mathlib.Algebra.Order.Archimedean.Real.Basic
import Mathlib.Analysis.Real.Sqrt
import Mathlib.Data.Rat.Floor
import TransitMap.Scalar

/-!
Exact scalars: what is computed with them is computed without error. The reals are exact, with lengths
and the golden section among them.
-/

namespace TransitMap

/-- An ordered field in which every number is below some whole number. -/
class ExactScalar (K : Type) extends Scalar K, Field K, LinearOrder K, IsStrictOrderedRing K,
    Archimedean K, LawfulBEq K where
  ofInt_eq : ∀ value : Int, ofInt value = (value : K)

namespace ExactScalar

variable {K : Type} [ExactScalar K]

@[simp] theorem ofNat_eq (value : Nat) : (Scalar.ofNat value : K) = (value : K) := by
  rw [Scalar.ofNat, ofInt_eq, Int.cast_natCast]

@[simp] theorem literal_eq (value : Nat) :
    @OfNat.ofNat K value (scalarLiteral value) = (value : K) :=
  ofNat_eq value

theorem abs_eq (value : K) : Scalar.abs value = |value| := by
  simp only [Scalar.abs, ofNat_eq, Nat.cast_zero]
  split
  · next negative => exact (abs_of_neg negative).symm
  · next positive => exact (abs_of_nonneg (not_lt.mp positive)).symm

theorem before_iff (left right : K) : Scalar.before left right = true ↔ left < right := by
  simp [Scalar.before]

-- The rationals and the reals keep the operations they come with where this is not asked for.

scoped instance rational : ExactScalar Rat where
  __ := (inferInstance : Scalar Rat)
  __ := (inferInstance : Field Rat)
  __ := (inferInstance : LinearOrder Rat)
  __ := (inferInstance : IsStrictOrderedRing Rat)
  __ := (inferInstance : Archimedean Rat)
  __ := (inferInstance : LawfulBEq Rat)
  ofInt_eq _ := rfl

end ExactScalar

/-- The nearest whole number; a half goes away from zero. -/
noncomputable def nearestReal (value : ℝ) : Int :=
  if value < 0 then -round (-value) else round value

@[reducible] noncomputable def Scalar.real : Scalar ℝ where
  decidableLT := inferInstance
  decidableLE := inferInstance
  toBEq := instBEqOfDecidableEq
  ofInt value := value
  isFinite _ := true
  round value := nearestReal value
  toGrid value := max leastGrid (min greatestGrid (nearestReal value))
  floorSide value := ⌊value / √(2 : Nat)⌋
  roundSide value := nearestReal (value / √(2 : Nat))

@[reducible] noncomputable def ExactScalar.real : ExactScalar ℝ where
  __ := Scalar.real
  __ := (inferInstance : Field ℝ)
  __ := (inferInstance : LinearOrder ℝ)
  __ := (inferInstance : IsStrictOrderedRing ℝ)
  __ := (inferInstance : Archimedean ℝ)
  __ := (inferInstance : LawfulBEq ℝ)
  ofInt_eq _ := rfl

end TransitMap
