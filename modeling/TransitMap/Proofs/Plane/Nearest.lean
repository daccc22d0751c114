import Mathlib.Algebra.Order.Archimedean.Basic
import Mathlib.Order.Interval.Set.Defs
import Mathlib.Tactic.Linarith
import TransitMap.Plane.Nearest
import TransitMap.Proofs.ExactScalar

/-!
The search for the nearest parameter, over exact numbers. Each step of it keeps the same part of the
bracket, so that it ends, and it never leaves the bracket around the best sample.
-/

namespace TransitMap

variable {K : Type} [ExactScalar K]

namespace Bracket

variable {ratio tolerance : K} {measure : K → K} {bracket outer : Bracket K}

def shrunk (ratio : K) (measure : K → K) (bracket : Bracket K) (steps : Nat) : Bracket K :=
  (shrink ratio measure)^[steps] bracket

/-- The bracket has its ends in the right order, and both in the other one. -/
structure Within (bracket outer : Bracket K) : Prop where
  low : outer.low ≤ bracket.low
  ordered : bracket.low ≤ bracket.high
  high : bracket.high ≤ outer.high

/-- The search goes on for this many steps and then stops. -/
structure EndsAfter (ratio tolerance : K) (measure : K → K) (bracket : Bracket K) (steps : Nat) :
    Prop where
  wide : ∀ step < steps, tolerance < (bracket.shrunk ratio measure step).width
  narrow : (bracket.shrunk ratio measure steps).width ≤ tolerance

theorem width_eq (bracket : Bracket K) : bracket.width = bracket.high - bracket.low := rfl

theorem middle_eq (bracket : Bracket K) : bracket.middle = (bracket.low + bracket.high) / 2 := by
  rw [middle, ExactScalar.literal_eq]
  push_cast
  rfl

@[simp] theorem shrunk_zero (ratio : K) (measure : K → K) (bracket : Bracket K) :
    bracket.shrunk ratio measure 0 = bracket := rfl

theorem shrunk_succ (ratio : K) (measure : K → K) (bracket : Bracket K) (steps : Nat) :
    bracket.shrunk ratio measure (steps + 1) = (bracket.shrink ratio measure).shrunk ratio measure steps :=
  rfl

theorem shrunk_succ' (ratio : K) (measure : K → K) (bracket : Bracket K) (steps : Nat) :
    bracket.shrunk ratio measure (steps + 1) = (bracket.shrunk ratio measure steps).shrink ratio measure :=
  Function.iterate_succ_apply' ..

theorem width_shrink (ratio : K) (measure : K → K) (bracket : Bracket K) :
    (bracket.shrink ratio measure).width = ratio * bracket.width := by
  unfold shrink
  dsimp only
  split
  · simp only [width_eq]
    ring
  · simp only [width_eq]
    ring

theorem width_shrunk (ratio : K) (measure : K → K) (bracket : Bracket K) (steps : Nat) :
    (bracket.shrunk ratio measure steps).width = ratio ^ steps * bracket.width := by
  induction steps with
  | zero => rw [shrunk_zero, pow_zero, one_mul]
  | succ steps ih => rw [shrunk_succ', width_shrink, ih, pow_succ', mul_assoc]

theorem Within.shrink (within : bracket.Within outer) (nonneg : 0 ≤ ratio) (le_one : ratio ≤ 1)
    (measure : K → K) : (bracket.shrink ratio measure).Within outer := by
  have positive : 0 ≤ bracket.width := sub_nonneg.mpr within.ordered
  have part : ratio * bracket.width ≤ bracket.width := mul_le_of_le_one_left positive le_one
  have kept : 0 ≤ ratio * bracket.width := mul_nonneg nonneg positive
  have whole : bracket.low + bracket.width = bracket.high := by rw [width_eq]; ring
  unfold Bracket.shrink
  dsimp only
  split
  · exact ⟨within.low, by linarith, by linarith [within.high]⟩
  · exact ⟨by linarith [within.low], by linarith, within.high⟩

theorem Within.shrunk (within : bracket.Within outer) (nonneg : 0 ≤ ratio) (le_one : ratio ≤ 1)
    (measure : K → K) (steps : Nat) : (bracket.shrunk ratio measure steps).Within outer := by
  induction steps with
  | zero => exact within
  | succ steps ih =>
      rw [shrunk_succ']
      exact ih.shrink nonneg le_one measure

/-- The widths fall below every tolerance, since the powers of the ratio do. -/
theorem exists_endsAfter (below_one : ratio < 1) (positive : 0 < tolerance)
    (measure : K → K) (bracket : Bracket K) :
    ∃ steps, bracket.EndsAfter ratio tolerance measure steps := by
  have narrow : ∃ steps, (bracket.shrunk ratio measure steps).width ≤ tolerance := by
    rcases le_or_gt bracket.width 0 with none | some
    · exact ⟨0, none.trans positive.le⟩
    · obtain ⟨steps, small⟩ := exists_pow_lt_of_lt_one (div_pos positive some) below_one
      refine ⟨steps, ?_⟩
      rw [width_shrunk]
      exact ((lt_div_iff₀ some).mp small).le
  classical
  exact ⟨Nat.find narrow, fun step before => not_le.mp (Nat.find_min narrow before),
    Nat.find_spec narrow⟩

theorem narrow_eq (ratio tolerance : K) (measure : K → K) (bracket : Bracket K) :
    bracket.narrow ratio tolerance measure =
      if tolerance < bracket.width then
        (bracket.shrink ratio measure).narrow ratio tolerance measure
      else bracket := by
  have : Nonempty (Bracket K) := ⟨bracket⟩
  change repeatM _ bracket = _
  rw [repeatM_eq_of_monadTail]
  by_cases goesOn : tolerance < bracket.width
  · simp only [repeatM.body, goesOn, if_true]
    rfl
  · simp only [repeatM.body, goesOn, if_false]
    rfl

theorem narrow_eq_of_endsAfter {steps : Nat}
    (ends : bracket.EndsAfter ratio tolerance measure steps) :
    bracket.narrow ratio tolerance measure = bracket.shrunk ratio measure steps := by
  induction steps generalizing bracket with
  | zero =>
      have stops : ¬tolerance < bracket.width := not_lt.mpr ends.narrow
      rw [narrow_eq, if_neg stops, shrunk_zero]
  | succ steps ih =>
      have later : (bracket.shrink ratio measure).EndsAfter ratio tolerance measure steps :=
        ⟨fun step before => ends.wide (step + 1) (Nat.succ_lt_succ before), ends.narrow⟩
      have goesOn : tolerance < bracket.width := ends.wide 0 steps.succ_pos
      rw [narrow_eq, if_pos goesOn, ih later, shrunk_succ]

theorem Within.middle (within : bracket.Within outer) :
    outer.low ≤ bracket.middle ∧ bracket.middle ≤ outer.high := by
  rw [middle_eq]
  constructor
  · linarith [within.low, within.ordered]
  · linarith [within.ordered, within.high]

end Bracket

namespace Cubic

theorem leastParameter_spec (measure : K → K) (best : K) (parameters : List K) :
    leastParameter measure best parameters ∈ best :: parameters ∧
      ∀ t ∈ best :: parameters, measure (leastParameter measure best parameters) ≤ measure t := by
  induction parameters generalizing best with
  | nil => simp [leastParameter]
  | cons t rest ih =>
      rw [leastParameter]
      simp only [ExactScalar.before_iff]
      split
      · next less =>
          obtain ⟨member, least⟩ := ih t
          refine ⟨List.mem_cons_of_mem _ member, ?_⟩
          rw [List.forall_mem_cons]
          exact ⟨(least t List.mem_cons_self).trans less.le, least⟩
      · next notLess =>
          obtain ⟨member, least⟩ := ih best
          rw [List.forall_mem_cons] at least
          obtain ⟨own, later⟩ := least
          refine ⟨by grind, ?_⟩
          rw [List.forall_mem_cons, List.forall_mem_cons]
          exact ⟨own, own.trans (not_lt.mp notLess), later⟩

theorem bestSample_eq (measure : K → K) :
    bestSample measure = leastParameter measure 0 samples := by
  rw [bestSample, ExactScalar.literal_eq, Nat.cast_zero]

theorem mem_samples_iff {t : K} : t ∈ samples ↔ ∃ index : Nat, index ≤ 64 ∧ (index : K) / 64 = t := by
  simp only [samples, sampleStep, sampleIntervals, ExactScalar.ofNat_eq, ExactScalar.literal_eq,
    List.mem_map, List.mem_range, Nat.lt_succ_iff]
  simp only [Nat.cast_one, Nat.cast_ofNat, mul_one_div]

theorem exists_bestSample (measure : K → K) :
    ∃ index : Nat, index ≤ 64 ∧ bestSample measure = (index : K) / 64 ∧
      ∀ other : Nat, other ≤ 64 → measure ((index : K) / 64) ≤ measure ((other : K) / 64) := by
  obtain ⟨member, least⟩ := leastParameter_spec measure 0 (samples : List K)
  rw [← bestSample_eq] at member least
  have isSample : bestSample measure ∈ (samples : List K) := by
    rcases List.mem_cons.mp member with first | later
    · exact mem_samples_iff.mpr ⟨0, Nat.zero_le 64, by simp [first]⟩
    · exact later
  obtain ⟨index, bound, isBest⟩ := mem_samples_iff.mp isSample
  refine ⟨index, bound, isBest.symm, fun other isOther => ?_⟩
  rw [isBest]
  exact least _ (List.mem_cons_of_mem _ (mem_samples_iff.mpr ⟨other, isOther, rfl⟩))

theorem bracketAround_eq (t : K) :
    bracketAround t = ⟨max (t - 1 / 64) 0, min 1 (t + 1 / 64)⟩ := by
  have step : (sampleStep : K) = 1 / 64 := by
    rw [sampleStep, sampleIntervals, ExactScalar.literal_eq, ExactScalar.ofNat_eq]
    push_cast
    rfl
  rw [bracketAround, step, max_def_lt, min_def_lt]
  simp only [ExactScalar.literal_eq, Nat.cast_zero, Nat.cast_one]
  congr

theorem within_bracketAround {t : K} (nonneg : 0 ≤ t) (le_one : t ≤ 1) :
    (bracketAround t).Within ⟨0, 1⟩ ∧ (bracketAround t).Within ⟨t - 1 / 64, t + 1 / 64⟩ := by
  have low : max (t - 1 / 64) 0 ≤ t := max_le (by linarith) nonneg
  have high : t ≤ min 1 (t + 1 / 64) := le_min le_one (by linarith)
  rw [bracketAround_eq]
  exact ⟨⟨le_max_right .., low.trans high, min_le_left ..⟩,
    ⟨le_max_left .., low.trans high, min_le_right ..⟩⟩

theorem nearestTolerance_pos : 0 < (nearestTolerance : K) := by
  rw [nearestTolerance, ExactScalar.literal_eq, ExactScalar.ofNat_eq]
  positivity

/-- The search around the sample of this index, at which `measure` is least among all samples, ends
after this many steps at the parameter `t`. -/
structure Finds (ratio : K) (measure : K → K) (index steps : Nat) (t : K) : Prop where
  bound : index ≤ 64
  least : ∀ other : Nat, other ≤ 64 → measure ((index : K) / 64) ≤ measure ((other : K) / 64)
  ends : (bracketAround ((index : K) / 64)).EndsAfter ratio nearestTolerance measure steps
  inside : ∀ step, ((bracketAround ((index : K) / 64)).shrunk ratio measure step).Within ⟨0, 1⟩
  found : t = ((bracketAround ((index : K) / 64)).shrunk ratio measure steps).middle
  nonneg : 0 ≤ t
  le_one : t ≤ 1
  near : |t - (index : K) / 64| ≤ 1 / 64

/-- The search for the nearest parameter ends, stays within the curve and finds a parameter at most
one step away from a best sample. -/
theorem nearest_near_best_sample {ratio : K} (positive : 0 < ratio) (below_one : ratio < 1)
    (distance : Point K → Point K → K) (cubic : Cubic K) (target : Point K) :
    ∃ index steps, Finds ratio (fun t => distance (cubic.eval t) target) index steps
      (cubic.nearest ratio distance target) := by
  set measure := fun t => distance (cubic.eval t) target with isMeasure
  obtain ⟨index, bound, isBest, least⟩ := exists_bestSample measure
  obtain ⟨steps, ends⟩ := Bracket.exists_endsAfter below_one nearestTolerance_pos measure
    (bracketAround ((index : K) / 64))
  have isParameter : 0 ≤ (index : K) / 64 ∧ (index : K) / 64 ≤ 1 := by
    have bound : (index : K) ≤ 64 := by exact_mod_cast bound
    constructor
    · positivity
    · linarith
  obtain ⟨inside, near⟩ := within_bracketAround isParameter.1 isParameter.2
  have found : cubic.nearest ratio distance target =
      ((bracketAround ((index : K) / 64)).shrunk ratio measure steps).middle := by
    rw [nearest, ← isMeasure, isBest, Bracket.narrow_eq_of_endsAfter ends]
  have isWithin := (inside.shrunk positive.le below_one.le measure steps).middle
  have isNear := (near.shrunk positive.le below_one.le measure steps).middle
  rw [← found] at isWithin isNear
  refine ⟨index, steps, bound, least, ends, inside.shrunk positive.le below_one.le measure, found,
    isWithin.1, isWithin.2, ?_⟩
  rw [abs_le]
  constructor
  · linarith [isNear.1]
  · linarith [isNear.2]

theorem nearest_near_best_sample_golden :
    letI := ExactScalar.real
    let golden : ℝ := (√5 - 1) / 2
    let distance (left right : Point ℝ) : ℝ := √((left.x - right.x) ^ 2 + (left.y - right.y) ^ 2)
    let turn : Cubic ℝ := ⟨⟨0, 40⟩, ⟨0, 20⟩, ⟨20, 0⟩, ⟨40, 0⟩⟩
    (0 < golden ∧ golden < 1) ∧
      ∃ index steps, Finds golden (fun t => distance (turn.eval t) ⟨-100, 0⟩) index steps
        (turn.nearest golden distance ⟨-100, 0⟩) := by
  intro golden distance turn
  let := ExactScalar.real
  have positive : 0 < golden := by
    have root : 1 < √5 := (Real.lt_sqrt zero_le_one).mpr (by norm_num)
    exact div_pos (sub_pos.mpr root) two_pos
  have below_one : golden < 1 := by
    have root : √5 < 3 := (Real.sqrt_lt' three_pos).mpr (by norm_num)
    exact (div_lt_one two_pos).mpr (by linarith)
  exact ⟨⟨positive, below_one⟩,
    nearest_near_best_sample positive below_one distance turn ⟨-100, 0⟩⟩

end Cubic

end TransitMap
