import Mathlib.Tactic.Ring
import TransitMap.Layout.Snapping
import TransitMap.Proofs.Scalar

/-!
Rounding to whole numbers. A half goes away from zero, so that rounding follows a value that is moved
by a whole number, unless that takes the value from a half across zero.
-/

open TransitMap.Scalar (IsWhole)

namespace TransitMap.Snapping

theorem nearest_of_nonneg {value : Rat} (nonneg : 0 ≤ value) :
    Scalar.nearest value = ⌊value + 1 / 2⌋ := by
  rw [Scalar.nearest, if_neg (not_lt.mpr nonneg)]
  rfl

theorem nearest_neg (value : Rat) : Scalar.nearest (-value) = -Scalar.nearest value := by
  rcases lt_trichotomy value 0 with negative | zero | positive
  · have notNegative : ¬-value < 0 := by linarith
    rw [Scalar.nearest, Scalar.nearest, if_neg notNegative, if_pos negative, neg_neg, neg_add_eq_sub]
  · have atZero : Scalar.nearest 0 = 0 := by simpa using Scalar.nearest_intCast 0
    rw [zero, neg_zero, atZero, neg_zero]
  · have negative : -value < 0 := by linarith
    rw [Scalar.nearest, Scalar.nearest, if_pos negative, if_neg positive.le.not_gt, sub_neg_eq_add,
      add_comm]

/-- The whole number nearest to a value, the one farther from zero of two that are equally near. -/
def IsNearest (value : Rat) (whole : Int) : Prop :=
  |value - whole| ≤ 1 / 2 ∧ (|value - whole| = 1 / 2 → |value| < |(whole : Rat)|)

private theorem isNearest_neg {value : Rat} {whole : Int} :
    IsNearest (-value) (-whole) ↔ IsNearest value whole := by
  rw [IsNearest, IsNearest, Int.cast_neg, neg_sub_neg, abs_sub_comm, abs_neg, abs_neg]

private theorem isNearest_of_nonneg {value : Rat} (nonneg : 0 ≤ value) {whole : Int} :
    IsNearest value whole ↔ Scalar.nearest value = whole := by
  rw [nearest_of_nonneg nonneg, Int.floor_eq_iff, IsNearest, abs_le, abs_of_nonneg nonneg]
  constructor
  · rintro ⟨⟨low, high⟩, away⟩
    have notNegative : 0 ≤ whole := by
      have below : (-1 : Rat) < whole := by linarith
      exact_mod_cast Int.add_one_le_iff.mpr (by exact_mod_cast below : -1 < whole)
    refine ⟨by linarith, lt_of_le_of_ne (by linarith) fun same => ?_⟩
    have half : value - whole = 1 / 2 := by linarith
    have farther := away (by rw [half]; norm_num)
    rw [abs_of_nonneg (by exact_mod_cast notNegative)] at farther
    linarith
  · rintro ⟨low, high⟩
    refine ⟨⟨by linarith, by linarith⟩, fun half => ?_⟩
    rcases eq_or_eq_neg_of_abs_eq half with above | below
    · linarith
    · have positive : (0 : Rat) ≤ whole := by linarith
      rw [abs_of_nonneg positive]
      linarith

theorem isNearest_iff {value : Rat} {whole : Int} :
    IsNearest value whole ↔ Scalar.nearest value = whole := by
  rcases le_total 0 value with nonneg | negative
  · exact isNearest_of_nonneg nonneg
  · rw [← isNearest_neg, isNearest_of_nonneg (neg_nonneg.mpr negative), nearest_neg, neg_inj]

theorem snap_neg (value : Rat) : snap (-value) = -snap value := by
  rw [snap, denoise, neg_mul, Scalar.round_eq, Scalar.round_eq, nearest_neg, Int.cast_neg, neg_div,
    nearest_neg, Int.cast_neg]
  rfl

/-- The nearest whole number, the upper one of two that are equally near up to noise. -/
def upper (value : Rat) : Int := ⌊value + 1 / 2 + 1 / 2000000⌋

theorem snap_of_nonneg {value : Rat} (nonneg : 0 ≤ value) : snap value = upper value := by
  have scaled : (0 : Rat) ≤ value * 1000000 := by positivity
  generalize isParts : ⌊value * 1000000 + 1 / 2⌋ = parts
  have notNegative : 0 ≤ parts := isParts ▸ Int.floor_nonneg.mpr (by positivity)
  have denoised : (0 : Rat) ≤ parts / 1000000 := by positivity
  have snapped : snap value = (⌊(parts : Rat) / 1000000 + 1 / 2⌋ : Int) := by
    rw [← nearest_of_nonneg denoised, ← isParts, ← nearest_of_nonneg scaled]
    rfl
  have atParts := Int.floor_eq_iff.mp isParts
  generalize isUpper : upper value = whole
  have atUpper := Int.floor_eq_iff.mp isUpper
  have low : whole * 1000000 - 500000 < parts + 1 := by
    exact_mod_cast (by linarith : (whole : Rat) * 1000000 - 500000 < parts + 1)
  have low : (whole : Rat) * 1000000 - 500000 ≤ parts := by exact_mod_cast Int.lt_add_one_iff.mp low
  rw [snapped, Int.cast_inj, Int.floor_eq_iff]
  constructor <;> linarith

theorem snap_eq (value : Rat) :
    snap value = (if value < 0 then -upper (-value) else upper value : Int) := by
  split
  · next negative =>
      rw [Int.cast_neg, ← snap_of_nonneg (neg_nonneg.mpr negative.le), snap_neg, neg_neg]
  · next positive => exact snap_of_nonneg (not_lt.mp positive)

theorem upper_add_intCast (value : Rat) (whole : Int) :
    upper (value + whole) = upper value + whole := by
  rw [upper, upper, ← Int.floor_add_intCast]
  congr 1
  ring

/-- The value lies halfway between two whole numbers, up to noise. -/
def IsHalfway (value : Rat) : Prop := ∃ whole : Int, |value - (whole + 1 / 2)| ≤ 1 / 2000000

theorem upper_eq_neg_upper_neg_iff (value : Rat) :
    upper value = -upper (-value) ↔ ¬IsHalfway value := by
  generalize isUpper : upper value = above
  generalize isLower : upper (-value) = below
  obtain ⟨upperLow, upperHigh⟩ := Int.floor_eq_iff.mp isUpper
  obtain ⟨lowerLow, lowerHigh⟩ := Int.floor_eq_iff.mp isLower
  constructor
  · rintro same ⟨whole, near⟩
    rw [abs_le] at near
    have first : whole + 1 < above + 1 := by
      exact_mod_cast (by linarith : (whole : Rat) + 1 < above + 1)
    have second : -whole < below + 1 := by
      exact_mod_cast (by linarith : -(whole : Rat) < below + 1)
    omega
  · intro notHalfway
    have few : above + below < 2 := by exact_mod_cast (by linarith : (above : Rat) + below < 2)
    have many : -1 < above + below := by exact_mod_cast (by linarith : (-1 : Rat) < above + below)
    by_contra apart
    have sum : above + below = 1 := by omega
    have sum : (above : Rat) + below = 1 := by exact_mod_cast sum
    refine notHalfway ⟨above - 1, abs_le.mpr ⟨?_, ?_⟩⟩ <;> push_cast <;> linarith

/-- The value lies halfway between two whole numbers, and the other one is on the other side of
zero. -/
def Crosses (value other : Rat) : Prop := IsHalfway value ∧ ¬(value < 0 ↔ other < 0)

theorem not_crosses_of_isWhole {value : Rat} (whole : IsWhole value) (other : Rat) :
    ¬Crosses value other := by
  obtain ⟨whole, rfl⟩ := whole
  rintro ⟨⟨half, near⟩, -⟩
  rw [abs_le] at near
  have above : half < whole := by exact_mod_cast (by linarith : (half : Rat) < whole)
  have below : whole < half + 1 := by exact_mod_cast (by linarith : (whole : Rat) < half + 1)
  omega

/-- Rounding moves a value as far as itself, unless that takes it from a half across zero. -/
theorem snap_add_eq_iff (value : Rat) {amount : Rat} (whole : IsWhole amount) :
    snap (value + amount) = snap value + amount ↔ ¬Crosses value (value + amount) := by
  obtain ⟨whole, rfl⟩ := whole
  have lower : upper (-(value + whole)) = upper (-value) - whole := by
    rw [neg_add, sub_eq_add_neg, ← upper_add_intCast, Int.cast_neg]
  have halfway := upper_eq_neg_upper_neg_iff value
  rw [snap_eq, snap_eq, lower, upper_add_intCast, ← Int.cast_add, Int.cast_inj, Crosses]
  by_cases before : value < 0 <;> by_cases after : value + whole < 0
  · rw [if_pos before, if_pos after]
    grind
  · rw [if_pos before, if_neg after]
    grind
  · rw [if_neg before, if_pos after]
    grind
  · rw [if_neg before, if_neg after]
    grind

end TransitMap.Snapping
