import Mathlib.Algebra.Order.BigOperators.Group.List
import TransitMap.Proofs.Layout.LinearSystem

/-!
Combinations of two functions that are closest to a target over samples. Elimination finds one just
if different combinations differ at a sample, and then all others are farther away.
-/

namespace TransitMap.LeastSquares

variable {K : Type} [ExactScalar K] {Sample : Type} {samples : List Sample} {first second target : Sample → K}

def pairing (samples : List Sample) (left right : Sample → K) : K :=
  (samples.map fun sample => left sample * right sample).sum

theorem pairing_comm (samples : List Sample) (left right : Sample → K) :
    pairing samples left right = pairing samples right left := by
  simp only [pairing, mul_comm]

theorem pairing_add (samples : List Sample) (left right other : Sample → K) :
    pairing samples left (fun sample => right sample + other sample) =
      pairing samples left right + pairing samples left other := by
  simp only [pairing, mul_add, List.sum_map_add]

theorem pairing_mul (samples : List Sample) (left right : Sample → K) (factor : K) :
    pairing samples left (fun sample => factor * right sample) =
      factor * pairing samples left right := by
  simp only [pairing, mul_left_comm _ factor, List.sum_map_mul_left]

theorem pairing_self_nonneg (samples : List Sample) (function : Sample → K) :
    0 ≤ pairing samples function function :=
  List.sum_nonneg (List.forall_mem_map.mpr fun _ _ => mul_self_nonneg _)

theorem pairing_self_eq_zero_iff {function : Sample → K} :
    pairing samples function function = 0 ↔ ∀ sample ∈ samples, function sample = 0 := by
  induction samples with
  | nil => simp [pairing]
  | cons sample rest ih =>
      have split : pairing (sample :: rest) function function =
          function sample * function sample + pairing rest function function := rfl
      rw [split, add_eq_zero_iff_of_nonneg (mul_self_nonneg _) (pairing_self_nonneg rest _),
        mul_self_eq_zero, ih, List.forall_mem_cons]

def combination (first second : Sample → K) (left right : K) (sample : Sample) : K :=
  left * first sample + right * second sample

def residual (first second target : Sample → K) (left right : K) (sample : Sample) : K :=
  target sample - combination first second left right sample

def deviation (samples : List Sample) (first second target : Sample → K) (left right : K) :
    K :=
  pairing samples (residual first second target left right)
    (residual first second target left right)

/-- Only the combination of nothing is zero at all samples. -/
def IsIndependent (samples : List Sample) (first second : Sample → K) : Prop :=
  ∀ left right, (∀ sample ∈ samples, combination first second left right sample = 0) →
    left = 0 ∧ right = 0

theorem pairing_combination (samples : List Sample) (function first second : Sample → K)
    (left right : K) :
    pairing samples function (combination first second left right) =
      left * pairing samples function first + right * pairing samples function second := by
  rw [← pairing_mul, ← pairing_mul, ← pairing_add]
  rfl

theorem pairing_residual (samples : List Sample) (function first second target : Sample → K)
    (left right : K) :
    pairing samples function (residual first second target left right) =
      pairing samples function target -
        (left * pairing samples function first + right * pairing samples function second) := by
  have whole := pairing_add samples function (residual first second target left right)
    (combination first second left right)
  simp only [residual, sub_add_cancel] at whole
  rw [← pairing_combination]
  exact eq_sub_of_add_eq whole.symm

/-- Where the residual is orthogonal to both functions, another combination is farther away by the
square of the step to it. -/
theorem deviation_eq {left right : K}
    (isFirst : pairing samples first (residual first second target left right) = 0)
    (isSecond : pairing samples second (residual first second target left right) = 0)
    (otherLeft otherRight : K) :
    deviation samples first second target otherLeft otherRight =
      deviation samples first second target left right +
        pairing samples (combination first second (otherLeft - left) (otherRight - right))
          (combination first second (otherLeft - left) (otherRight - right)) := by
  set rest := residual first second target left right with isRest
  set step := combination first second (otherLeft - left) (otherRight - right) with isStep
  have parts : residual first second target otherLeft otherRight =
      fun sample => rest sample + -1 * step sample := by
    funext sample
    simp only [isRest, isStep, residual, combination]
    ring
  have orthogonal : pairing samples rest step = 0 := by
    rw [isStep, pairing_combination, pairing_comm samples rest, pairing_comm samples rest, isFirst,
      isSecond]
    ring
  rw [deviation, deviation, parts, pairing_add, pairing_mul, pairing_comm samples _ rest,
    pairing_comm samples _ step, pairing_add, pairing_add, pairing_mul, pairing_mul,
    pairing_comm samples step rest, orthogonal]
  ring

/-- What the factors of the closest combination fulfil. -/
def equations (samples : List Sample) (first second target : Sample → K) : List (Row K) :=
  [⟨[pairing samples first first, pairing samples first second], pairing samples first target⟩,
    ⟨[pairing samples first second, pairing samples second second],
      pairing samples second target⟩]

theorem square_equations : ∀ row ∈ equations samples first second target,
    row.coefficients.length = (equations samples first second target).length := by
  simp [equations]

theorem total_pair (left right constant : K) (values : Nat → K) :
    (⟨[left, right], constant⟩ : Row K).total values = left * values 0 + right * values 1 := by
  simp [Row.total, Row.coefficient, Finset.sum_range_succ]

theorem totals_eq_zero_iff {values : Nat → K} :
    (∀ row ∈ equations samples first second target, row.total values = 0) ↔
      pairing samples first (combination first second (values 0) (values 1)) = 0 ∧
        pairing samples second (combination first second (values 0) (values 1)) = 0 := by
  simp only [equations, List.forall_mem_cons, List.not_mem_nil, IsEmpty.forall_iff, implies_true,
    and_true, total_pair, pairing_combination, pairing_comm samples second first,
    mul_comm (values 0), mul_comm (values 1)]

theorem excesses_eq_zero_iff {values : Nat → K} :
    (∀ row ∈ equations samples first second target, row.excess values = 0) ↔
      pairing samples first (residual first second target (values 0) (values 1)) = 0 ∧
        pairing samples second (residual first second target (values 0) (values 1)) = 0 := by
  simp only [equations, List.forall_mem_cons, List.not_mem_nil, IsEmpty.forall_iff, implies_true,
    and_true, Row.excess, total_pair, pairing_residual, pairing_comm samples second first,
    mul_comm (values 0), mul_comm (values 1), sub_eq_zero]
  rw [eq_comm, and_congr_right_iff]
  exact fun _ => eq_comm

theorem regular_equations_iff :
    LinearSystem.Regular (equations samples first second target) ↔
      IsIndependent samples first second := by
  constructor
  · intro regular left right zero
    let values := LinearSystem.prepend left fun _ => right
    have orthogonal (function : Sample → K) :
        pairing samples function (combination first second left right) = 0 := by
      refine List.sum_eq_zero (List.forall_mem_map.mpr fun sample member => ?_)
      rw [zero sample member, mul_zero]
    have zeros := regular values (totals_eq_zero_iff.mpr ⟨orthogonal first, orthogonal second⟩)
    exact ⟨zeros 0 (by simp [equations]), zeros 1 (by simp [equations])⟩
  · intro independent values totals
    obtain ⟨isFirst, isSecond⟩ := totals_eq_zero_iff.mp totals
    have square : pairing samples (combination first second (values 0) (values 1))
        (combination first second (values 0) (values 1)) = 0 := by
      rw [pairing_combination, pairing_comm samples _ first, pairing_comm samples _ second, isFirst,
        isSecond]
      ring
    obtain ⟨left, right⟩ := independent _ _ (pairing_self_eq_zero_iff.mp square)
    intro index bound
    obtain rfl | rfl : index = 0 ∨ index = 1 := by
      simp only [equations, List.length_cons, List.length_nil] at bound
      omega
    · exact left
    · exact right

theorem solve?_eq_none (dependent : ¬IsIndependent samples first second) :
    LinearSystem.solve? (equations samples first second target) = none := by
  rw [Option.eq_none_iff_forall_ne_some]
  intro values solved
  exact dependent (regular_equations_iff.mp
    (LinearSystem.regular_of_solve? square_equations solved))

/-- All other combinations are farther from the target. -/
def IsClosest (samples : List Sample) (first second target : Sample → K) (left right : K) :
    Prop :=
  ∀ otherLeft otherRight, otherLeft ≠ left ∨ otherRight ≠ right →
    deviation samples first second target left right <
      deviation samples first second target otherLeft otherRight

theorem IsClosest.le {left right : K} (closest : IsClosest samples first second target left right)
    (otherLeft otherRight : K) :
    deviation samples first second target left right ≤
      deviation samples first second target otherLeft otherRight := by
  by_cases same : otherLeft = left ∧ otherRight = right
  · rw [same.1, same.2]
  · exact (closest _ _ (not_and_or.mp same)).le

theorem isClosest_of_orthogonal (independent : IsIndependent samples first second)
    {left right : K}
    (isFirst : pairing samples first (residual first second target left right) = 0)
    (isSecond : pairing samples second (residual first second target left right) = 0) :
    IsClosest samples first second target left right := by
  intro otherLeft otherRight apart
  rw [deviation_eq isFirst isSecond otherLeft otherRight]
  refine lt_add_of_pos_right _ ((pairing_self_nonneg ..).lt_of_ne fun zero => ?_)
  obtain ⟨isLeft, isRight⟩ := independent _ _ (pairing_self_eq_zero_iff.mp zero.symm)
  rcases apart with apart | apart
  · exact apart (sub_eq_zero.mp isLeft)
  · exact apart (sub_eq_zero.mp isRight)

theorem exists_solve? (independent : IsIndependent samples first second)
    (target : Sample → K) :
    ∃ left right,
      LinearSystem.solve? (equations samples first second target) = some [left, right] ∧
      IsClosest samples first second target left right := by
  have regular : LinearSystem.Regular (equations samples first second target) :=
    regular_equations_iff.mpr independent
  obtain ⟨values, hold⟩ := regular.exists_values square_equations
  obtain ⟨isFirst, isSecond⟩ := excesses_eq_zero_iff.mp hold
  exact ⟨values 0, values 1, LinearSystem.solve?_eq_some values square_equations regular hold,
    isClosest_of_orthogonal independent isFirst isSecond⟩

end TransitMap.LeastSquares
