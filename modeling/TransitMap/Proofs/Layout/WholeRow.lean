import TransitMap.Proofs.Layout.Independence

open TransitMap.Scalar (IsWhole)

namespace TransitMap

open scoped ExactScalar

variable {size : Nat} {row : Row Rat} {pivots : List (PivotRow Rat)}
  {equalities : List (Equality Rat)}

theorem Scalar.IsWhole.one_le_abs {value : Rat} (whole : IsWhole value) (nonzero : value ≠ 0) :
    1 ≤ |value| := by
  obtain ⟨whole, rfl⟩ := whole
  exact_mod_cast Int.one_le_abs (by exact_mod_cast nonzero)

theorem Scalar.IsWhole.sum {items : Finset Nat} {value : Nat → Rat}
    (whole : ∀ item ∈ items, IsWhole (value item)) : IsWhole (∑ item ∈ items, value item) :=
  Finset.sum_induction value IsWhole (fun _ _ => IsWhole.add) (.natCast 0) whole

namespace Row

/-- A row of whole numbers, with a coefficient for each of the first `size` coordinates. -/
structure IsWhole (size : Nat) (row : Row Rat) : Prop where
  length : row.coefficients.length = size
  coefficient : ∀ coordinate, Scalar.IsWhole (row.coefficient coordinate)
  constant : Scalar.IsWhole row.constant

namespace IsWhole

theorem subtract {other : Row Rat} {factor : Rat} (whole : row.IsWhole size)
    (otherWhole : other.IsWhole size) (isFactor : Scalar.IsWhole factor) :
    (row.subtract factor other).IsWhole size := by
  have same := whole.length.trans otherWhole.length.symm
  refine ⟨(length_subtract row other factor same).trans whole.length, fun coordinate => ?_,
    whole.constant.sub (isFactor.mul otherWhole.constant)⟩
  rw [coefficient_subtract factor same]
  exact (whole.coefficient coordinate).sub (isFactor.mul (otherWhole.coefficient coordinate))

theorem reduce (whole : row.IsWhole size) (arePivots : ∀ pivot ∈ pivots, pivot.row.IsWhole size) :
    (row.reduce pivots).IsWhole size := by
  induction pivots generalizing row with
  | nil => exact whole
  | cons pivot rest ih =>
      rw [List.forall_mem_cons] at arePivots
      refine ih ?_ arePivots.2
      rw [reduceBy_eq_subtract (whole.length.trans arePivots.1.length.symm)]
      exact whole.subtract arePivots.1 (whole.coefficient pivot.coordinate)

theorem divide {value : Rat} (whole : row.IsWhole size) (unit : |value| = 1) :
    (row.divide value).IsWhole size := by
  have kept : ∀ other, Scalar.IsWhole other → Scalar.IsWhole (other / value) := by
    intro other isWhole
    rcases eq_or_eq_neg_of_abs_eq unit with rfl | rfl
    · rwa [div_one]
    · rw [div_neg, div_one]
      exact isWhole.neg
  refine ⟨(length_divide row value).trans whole.length, fun coordinate => ?_,
    kept _ whole.constant⟩
  rw [coefficient_divide]
  exact kept _ (whole.coefficient coordinate)

end IsWhole

end Row

structure Equality.HasWholes (equality : Equality Rat) : Prop where
  coefficient : ∀ term ∈ equality.terms, Scalar.IsWhole term.2
  constant : Scalar.IsWhole equality.constant

theorem Equality.HasWholes.dense {equality : Equality Rat} (whole : equality.HasWholes)
    (size : Nat) : (equality.dense size).IsWhole size := by
  refine ⟨equality.length_dense size, fun coordinate => ?_, whole.constant⟩
  by_cases bound : coordinate < size
  · rw [coefficient_dense bound, Equality.coefficient]
    cases found : equality.terms.lookup coordinate with
    | none => exact .natCast 0
    | some coefficient => exact whole.coefficient _ (Entries.mem_of_lookup_eq_some found)
  · rw [Row.coefficient_of_le (by simpa using bound)]
    exact .natCast 0

namespace Echelon

theorem coefficientTolerance_le_one : (coefficientTolerance : Rat) ≤ 1 := by
  simp only [coefficientTolerance, Scalar.literal_eq, Scalar.ofNat_eq]
  norm_num

theorem constantTolerance_lt_one : (constantTolerance : Rat) < 1 := by
  simp only [constantTolerance, Scalar.literal_eq, Scalar.ofNat_eq]
  norm_num

theorem coefficientsCount_of_isWhole
    (whole : ∀ row ∈ remainders size [] equalities, row.IsWhole size) :
    CoefficientsCount size equalities := by
  intro row member value isLeft
  obtain ⟨coordinate, atCoordinate⟩ := List.mem_iff_getElem?.mp isLeft
  have isCoefficient := (whole row member).coefficient coordinate
  rw [Row.coefficient_eq, atCoordinate, Option.getD_some] at isCoefficient
  rw [or_iff_not_imp_left]
  exact fun nonzero => coefficientTolerance_le_one.trans (isCoefficient.one_le_abs nonzero)

theorem constantsCount_of_isWhole
    (whole : ∀ row ∈ remainders size [] equalities, row.IsWhole size) :
    ConstantsCount size equalities := by
  intro row member
  rw [or_iff_not_imp_left]
  intro nonzero
  exact constantTolerance_lt_one.trans_le ((whole row member).constant.one_le_abs nonzero)

/-- Every pivot that elimination selects has a unit as its coefficient. -/
def SelectsUnits (size : Nat) (equalities : List (Equality Rat)) : Prop :=
  ∀ row ∈ remainders size [] equalities, ∀ coordinate value,
    pivot? row = some (coordinate, value) → |value| = 1

theorem isWhole_of_elimination (whole : ∀ equality ∈ equalities, equality.HasWholes)
    (units : SelectsUnits size equalities) :
    (∀ row ∈ remainders size [] equalities, row.IsWhole size) ∧
      ∀ pivots, ofEqualities size equalities = .ok pivots →
        ∀ pivot ∈ pivots, pivot.row.IsWhole size :=
  holds_of_elimination
    (fun equality member _ arePivots => ((whole equality member).dense size).reduce arePivots)
    (fun row member whole coordinate value found _ =>
      whole.divide (units row member coordinate value found))
    (by simp)

end Echelon

end TransitMap
