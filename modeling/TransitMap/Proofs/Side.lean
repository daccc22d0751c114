import Mathlib.Analysis.Real.Sqrt
import Mathlib.NumberTheory.Real.Irrational
import TransitMap.Proofs.Scalar

namespace TransitMap

theorem Scalar.floor_side {width : Rat} (nonneg : 0 ≤ width) :
    ⌊(width : ℝ) / √2⌋ = sideFloor width := by
  have whole : ((width * width / 2).floor.toNat : Int) = ⌊width * width / 2⌋ :=
    Int.toNat_of_nonneg (show 0 ≤ ⌊width * width / 2⌋ from Int.floor_nonneg.mpr (by positivity))
  have below : (sideFloor width * sideFloor width : Int) ≤ ⌊width * width / 2⌋ := by
    rw [← whole]
    exact_mod_cast Nat.sqrt_le _
  have above : ⌊width * width / 2⌋ < ((sideFloor width + 1) * (sideFloor width + 1) : Int) := by
    rw [← whole]
    exact_mod_cast Nat.lt_succ_sqrt _
  rw [Int.le_floor] at below
  rw [Int.floor_lt] at above
  have low : ((sideFloor width : ℝ)) ^ 2 * 2 ≤ (width : ℝ) ^ 2 := by
    exact_mod_cast (by push_cast at below; linarith : (sideFloor width : Rat) ^ 2 * 2 ≤ width ^ 2)
  have high : (width : ℝ) ^ 2 < ((sideFloor width + 1 : ℝ)) ^ 2 * 2 := by
    exact_mod_cast (by push_cast at above; linarith :
      width ^ 2 < ((sideFloor width : Rat) + 1) ^ 2 * 2)
  have square : √(2 : ℝ) ^ 2 = 2 := Real.sq_sqrt (by norm_num)
  have positive : (0 : ℝ) ≤ width := by exact_mod_cast nonneg
  rw [Int.floor_eq_iff, le_div_iff₀ (by positivity), div_lt_iff₀ (by positivity)]
  constructor
  · rw [← pow_le_pow_iff_left₀ (by positivity) positive two_ne_zero, mul_pow, square]
    exact_mod_cast low
  · rw [← pow_lt_pow_iff_left₀ positive (by positivity) two_ne_zero, mul_pow, square]
    exact_mod_cast high

/-- The side is the diagonal divided by the square root of two, rounded down. -/
theorem Scalar.floorSide_eq (width : Rat) :
    Scalar.floorSide width = ((⌊(width : ℝ) / √2⌋ : Int) : Rat) := by
  simp only [Scalar.floorSide]
  split
  · next negative =>
      have positive : 0 < -width := by linarith
      have floored := Scalar.floor_side positive.le
      have irrational : Irrational ((-width : Rat) / √2) :=
        irrational_sqrt_two.ratCast_div positive.ne'
      have below : (sideFloor (-width) : ℝ) < ((-width : Rat) : ℝ) / √2 := by
        refine lt_of_le_of_ne ?_ (irrational.ne_nat _).symm
        exact_mod_cast floored ▸ Int.floor_le _
      have above : ((-width : Rat) : ℝ) / √2 < sideFloor (-width) + 1 := by
        exact_mod_cast floored ▸ Int.lt_floor_add_one (((-width : Rat) : ℝ) / √2)
      have side : ⌊(width : ℝ) / √2⌋ = -((sideFloor (-width) + 1 : Nat) : Int) := by
        rw [Rat.cast_neg, neg_div] at below above
        rw [Int.floor_eq_iff]
        push_cast
        constructor <;> linarith
      rw [side, Int.cast_neg, Int.cast_natCast]
  · next positive => rw [Scalar.floor_side (not_lt.mp positive), Int.cast_natCast]

theorem Scalar.floorSide_natCast (width : Nat) :
    Scalar.floorSide (width : Rat) = ((⌊(width : ℝ) / √2⌋ : Int) : Rat) := by
  rw [Scalar.floorSide_eq, Rat.cast_natCast]

end TransitMap
