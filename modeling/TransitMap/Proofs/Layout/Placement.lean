import Mathlib.Algebra.BigOperators.Fin
import Mathlib.Algebra.Order.BigOperators.Group.Finset
import TransitMap.Layout.Placement
import TransitMap.Proofs.Layout.Independence
import TransitMap.Proofs.Layout.LinearSystem
import TransitMap.Proofs.Layout.Snapping

open scoped TransitMap.ExactScalar
open TransitMap.Snapping (valueAt)

namespace TransitMap.Placement

variable {size : Nat} {equalities : List (Equality Rat)} {values : Nat → Rat} {row : Row Rat}
  {placement : Placement Rat} {pivots : List (PivotRow Rat)}

theorem ofParts_eq_ok {targets weights : List Rat} (same : targets.length = weights.length)
    (positive : ∀ weight ∈ weights, 0 < weight)
    (known : ∀ equality ∈ equalities, ∀ term ∈ equality.terms, term.1 < targets.length) :
    ofParts targets weights equalities = .ok ⟨targets, weights, equalities⟩ := by
  unfold ofParts
  split
  · next apart => exact absurd same apart
  · split
    · next weight found =>
        have refused : ¬(0 : Rat) < weight := by simpa using List.find?_some found
        exact absurd (positive weight (List.mem_of_find?_eq_some found)) refused
    · split
      · next equality found =>
          have unknown := List.find?_some found
          obtain ⟨term, isTerm, large⟩ := List.any_eq_true.mp unknown
          have small := known equality (List.mem_of_find?_eq_some found) term isTerm
          exact absurd small (Nat.not_lt.mpr (of_decide_eq_true large))
      · rfl

theorem of_ofParts {targets weights : List Rat}
    (checked : ofParts targets weights equalities = .ok placement) :
    placement = ⟨targets, weights, equalities⟩ ∧ targets.length = weights.length ∧
      (∀ weight ∈ weights, 0 < weight) ∧
      ∀ equality ∈ equalities, ∀ term ∈ equality.terms, term.1 < targets.length := by
  unfold ofParts at checked
  split at checked
  · cases checked
  · next sameLength =>
      split at checked
      · cases checked
      · next positive =>
          split at checked
          · cases checked
          · next known =>
              exact ⟨(Except.ok.inj checked).symm, not_not.mp sameLength, by simpa using positive,
                by simpa using known⟩

theorem total_append (first second : List Rat) (constant : Rat) (values : Nat → Rat) :
    (⟨first ++ second, constant⟩ : Row Rat).total values =
      (⟨first, constant⟩ : Row Rat).total values +
        ∑ index ∈ Finset.range second.length,
          second.getD index 0 * values (first.length + index) := by
  rw [Row.total, List.length_append, Finset.sum_range_add, Row.total]
  congr 1
  · refine Finset.sum_congr rfl fun index member => ?_
    simp [Row.coefficient_eq, List.getElem?_append_left (Finset.mem_range.mp member)]
  · refine Finset.sum_congr rfl fun index _ => ?_
    rw [Row.coefficient_eq, List.getElem?_append_right (Nat.le_add_right ..),
      Nat.add_sub_cancel_left, List.getD_eq_getElem?_getD]

theorem total_stationaryRow {coordinate : Nat} (bound : coordinate < size) (target weight : Rat) :
    (stationaryRow size equalities coordinate target weight).total values =
      2 * weight * values coordinate + ∑ index : Fin equalities.length,
        equalities[index].coefficient coordinate * values (size + index) := by
  have own : (⟨(List.range size).map fun other => if other = coordinate then 2 * weight else 0,
      2 * weight * target⟩ : Row Rat).total values = 2 * weight * values coordinate := by
    simp only [Row.total, List.length_map, List.length_range]
    rw [Finset.sum_eq_single_of_mem coordinate (Finset.mem_range.mpr bound)
      fun other inside apart => ?_]
    · simp [Row.coefficient_eq, bound]
    · simp [Row.coefficient_eq, Finset.mem_range.mp inside, apart]
  rw [stationaryRow, total_append, List.length_map, List.length_map, List.length_range,
    Finset.sum_range]
  refine congrArg₂ (· + ·) own (Finset.sum_congr rfl fun index _ => ?_)
  simp [List.getD_eq_getElem?_getD]

theorem total_equalityRow (count : Nat) (equality : Equality Rat) :
    (equalityRow size count equality).total values = (equality.dense size).total values := by
  rw [equalityRow, total_append, Finset.sum_eq_zero fun index inside => ?_, add_zero]
  · rfl
  · rw [List.length_replicate] at inside
    simp [List.getD_eq_getElem?_getD, Finset.mem_range.mp inside]

theorem mem_conditions :
    row ∈ placement.conditions equalities ↔
      (∃ coordinate target weight, placement.targets[coordinate]? = some target ∧
        placement.weights[coordinate]? = some weight ∧
        stationaryRow placement.size equalities coordinate target weight = row) ∨
      ∃ equality ∈ equalities, equalityRow placement.size equalities.length equality = row := by
  simp only [conditions, List.mem_append, List.mem_map, List.mem_zipIdx_iff_getElem?, Prod.exists,
    List.getElem?_zip_eq_some]
  grind

theorem length_conditions (same : placement.targets.length = placement.weights.length) :
    (placement.conditions equalities).length = placement.size + equalities.length := by
  simp [conditions, Placement.size, same]

theorem square_conditions (same : placement.targets.length = placement.weights.length) :
    ∀ row ∈ placement.conditions equalities,
      row.coefficients.length = (placement.conditions equalities).length := by
  intro row member
  rw [length_conditions same]
  rcases mem_conditions.mp member with ⟨coordinate, target, weight, -, -, rfl⟩ | ⟨equality, -, rfl⟩
  · simp [stationaryRow]
  · simp [equalityRow]

theorem sum_mul_multiples (multiples : Fin equalities.length → Rat) :
    ∑ coordinate ∈ Finset.range size, values coordinate *
        ∑ index : Fin equalities.length,
          equalities[index].coefficient coordinate * multiples index =
      ∑ index : Fin equalities.length,
        multiples index * (equalities[index].dense size).total values := by
  simp only [Finset.mul_sum]
  rw [Finset.sum_comm]
  refine Finset.sum_congr rfl fun index _ => ?_
  rw [Row.total, Equality.length_dense, Finset.mul_sum]
  refine Finset.sum_congr rfl fun coordinate inside => ?_
  rw [Equality.coefficient_dense (Finset.mem_range.mp inside)]
  ring

theorem stationaryRow_mem_conditions (same : placement.targets.length = placement.weights.length)
    {coordinate : Nat} (bound : coordinate < placement.size) :
    stationaryRow placement.size equalities coordinate (valueAt placement.targets coordinate)
      (valueAt placement.weights coordinate) ∈ placement.conditions equalities := by
  have weighed : coordinate < placement.weights.length := same ▸ bound
  refine mem_conditions.mpr (.inl ⟨coordinate, _, _, List.getElem?_eq_getElem bound,
    List.getElem?_eq_getElem weighed, ?_⟩)
  simp [valueAt, List.getD_eq_getElem?_getD, weighed, List.getElem?_eq_getElem bound]

/-- The sums of the stationary rows, weighted by a direction: the derivative in that direction. -/
theorem sum_total_stationaryRow (weights targets : List Rat) (values direction : Nat → Rat) :
    ∑ coordinate ∈ Finset.range size, direction coordinate *
        (stationaryRow size equalities coordinate (valueAt targets coordinate)
          (valueAt weights coordinate)).total values =
      ∑ coordinate ∈ Finset.range size,
        direction coordinate * (2 * valueAt weights coordinate * values coordinate) +
      ∑ index : Fin equalities.length, values (size + index) *
        (equalities[index].dense size).total direction := by
  rw [← sum_mul_multiples fun index => values (size + index), ← Finset.sum_add_distrib]
  refine Finset.sum_congr rfl fun coordinate inside => ?_
  rw [total_stationaryRow (Finset.mem_range.mp inside), mul_add]

/-- Where all conditions have the sum zero, the derivative in any direction vanishes. -/
theorem sum_eq_zero_of_conditions (same : placement.targets.length = placement.weights.length)
    (zero : ∀ row ∈ placement.conditions equalities, row.total values = 0)
    (direction : Nat → Rat) :
    ∑ coordinate ∈ Finset.range placement.size,
        direction coordinate * (2 * valueAt placement.weights coordinate * values coordinate) +
      ∑ index : Fin equalities.length, values (placement.size + index) *
        (equalities[index].dense placement.size).total direction = 0 := by
  rw [← sum_total_stationaryRow placement.weights placement.targets]
  refine Finset.sum_eq_zero fun coordinate inside => ?_
  rw [zero _ (stationaryRow_mem_conditions same (Finset.mem_range.mp inside)), mul_zero]

private theorem eq_zero_of_sum_squares {indices : Finset ι} (weights : ι → Rat) {numbers : ι → Rat}
    (positive : ∀ index ∈ indices, 0 < weights index)
    (zero : ∑ index ∈ indices, weights index * numbers index ^ 2 = 0) :
    ∀ index ∈ indices, numbers index = 0 := by
  rw [Finset.sum_eq_zero_iff_of_nonneg fun index member =>
    mul_nonneg (positive index member).le (sq_nonneg _)] at zero
  intro index member
  exact pow_eq_zero_iff two_ne_zero |>.mp
    ((mul_eq_zero.mp (zero index member)).resolve_left (positive index member).ne')

section Zeros

variable {equalities : List (Equality Rat)}
  (same : placement.targets.length = placement.weights.length)
  (zero : ∀ row ∈ placement.conditions equalities, row.total values = 0)

include same zero

theorem coordinates_eq_zero (positive : ∀ weight ∈ placement.weights, 0 < weight) :
    ∀ coordinate ∈ Finset.range placement.size, values coordinate = 0 := by
  have vanish : ∀ index : Fin equalities.length,
      (equalities[index].dense placement.size).total values = 0 := by
    intro index
    rw [← total_equalityRow equalities.length]
    exact zero _ (mem_conditions.mpr (.inr ⟨_, List.getElem_mem _, rfl⟩))
  -- Towards the values themselves the derivative is a weighted sum of their squares.
  have squares := sum_eq_zero_of_conditions same zero values
  simp only [vanish, mul_zero, Finset.sum_const_zero, add_zero] at squares
  apply eq_zero_of_sum_squares fun coordinate => 2 * valueAt placement.weights coordinate
  · intro coordinate inside
    have weighed : coordinate < placement.weights.length := same ▸ Finset.mem_range.mp inside
    simpa [valueAt, List.getD_eq_getElem?_getD, weighed] using positive _ (List.getElem_mem weighed)
  · rw [← squares]
    exact Finset.sum_congr rfl fun coordinate _ => by ring

theorem multiples_eq_zero
    (coordinates : ∀ coordinate ∈ Finset.range placement.size, values coordinate = 0)
    (attain : ∃ direction, ∀ index : Fin equalities.length,
      (equalities[index].dense placement.size).total direction = values (placement.size + index)) :
    ∀ index < equalities.length, values (placement.size + index) = 0 := by
  obtain ⟨direction, attained⟩ := attain
  -- In a direction in which each equality grows by its multiple, the derivative is the sum of the
  -- squares of the multiples.
  have squares := sum_eq_zero_of_conditions same zero direction
  rw [Finset.sum_eq_zero fun coordinate inside => by rw [coordinates coordinate inside]; ring,
    zero_add] at squares
  have multiples : ∀ index ∈ (Finset.univ : Finset (Fin equalities.length)),
      values (placement.size + index) = 0 := by
    apply eq_zero_of_sum_squares (fun _ => 1) (by simp)
    rw [← squares]
    refine Finset.sum_congr rfl fun index _ => ?_
    rw [attained index]
    ring
  exact fun index bound => multiples ⟨index, bound⟩ (Finset.mem_univ _)

end Zeros

theorem regular_conditions (same : placement.targets.length = placement.weights.length)
    (positive : ∀ weight ∈ placement.weights, 0 < weight)
    (independent : Echelon.Independent placement.size pivots) :
    LinearSystem.Regular (placement.conditions (Echelon.independent pivots)) := by
  intro values zero index bound
  rw [length_conditions same] at bound
  have coordinates := coordinates_eq_zero same zero positive
  by_cases isCoordinate : index < placement.size
  · exact coordinates index (Finset.mem_range.mpr isCoordinate)
  · obtain ⟨direction, attained⟩ :=
      independent.attain fun index => values (placement.size + index)
    have multiples := multiples_eq_zero same zero coordinates ⟨direction, fun index => ?_⟩
    · have multiple := multiples (index - placement.size) (by omega)
      rwa [Nat.add_sub_cancel' (not_lt.mp isCoordinate)] at multiple
    · obtain ⟨index, bound⟩ := index
      rw [Echelon.independent, List.length_map] at bound
      simpa [Echelon.independent] using
        attained index pivots[index] (List.getElem?_eq_getElem bound)

theorem conditions_hold_targets (hold : ∀ equality ∈ equalities,
      (equality.dense placement.size).excess (valueAt placement.targets) = 0) :
    ∀ row ∈ placement.conditions equalities, row.excess (valueAt placement.targets) = 0 := by
  intro row member
  rcases mem_conditions.mp member with
    ⟨coordinate, target, weight, found, -, rfl⟩ | ⟨equality, isOne, rfl⟩
  · have bound : coordinate < placement.size := (List.getElem?_eq_some_iff.mp found).1
    have own : valueAt placement.targets coordinate = target := by
      rw [valueAt, List.getD_eq_getElem?_getD, found, Option.getD_some]
    have behind : ∀ index, valueAt placement.targets (placement.size + index) = 0 := by
      simp [valueAt, Placement.size]
    simp only [Row.excess, total_stationaryRow bound, own, behind, mul_zero, Finset.sum_const_zero,
      add_zero]
    exact sub_self _
  · rw [Row.excess, total_equalityRow]
    exact hold equality isOne

theorem solve_eq_ok (same : placement.targets.length = placement.weights.length)
    (positive : ∀ weight ∈ placement.weights, 0 < weight) (nonempty : placement.targets ≠ [])
    (built : Echelon.ofEqualities placement.size placement.equalities = .ok pivots)
    (hold : ∀ row ∈ placement.conditions (Echelon.independent pivots), row.excess values = 0) :
    placement.solve = .ok ((List.range placement.size).map values) := by
  have isReduced : reduced placement.size placement.equalities = .ok pivots := by
    rw [reduced, built]
    rfl
  have regular := regular_conditions same positive (Echelon.independent_of_ofEqualities built)
  have solved := LinearSystem.solve?_eq_some values (square_conditions same) regular hold
  simp only [solve, isReduced, Outcome.bind_eq_ok, Except.ok.injEq, exists_eq_left', solved,
    List.isEmpty_iff, nonempty, if_false]
  rw [length_conditions same, ← List.map_take, List.take_range, Nat.min_eq_left (Nat.le_add_right ..)]

theorem exists_conditions_hold (same : placement.targets.length = placement.weights.length)
    (positive : ∀ weight ∈ placement.weights, 0 < weight)
    (built : Echelon.ofEqualities placement.size placement.equalities = .ok pivots) :
    ∃ values : Nat → Rat, ∀ row ∈ placement.conditions (Echelon.independent pivots),
      row.excess values = 0 :=
  (regular_conditions same positive (Echelon.independent_of_ofEqualities built)).exists_values
    (square_conditions same)

theorem length_of_solve (same : placement.targets.length = placement.weights.length)
    {values : List Rat} (solved : placement.solve = .ok values) :
    values.length = placement.size := by
  simp only [solve, Outcome.bind_eq_ok] at solved
  obtain ⟨pivots, -, solved⟩ := solved
  split at solved
  · cases solved
  · split at solved
    · next found =>
        obtain rfl := Except.ok.inj solved
        rw [List.length_take, LinearSystem.length_of_solve? found, length_conditions same,
          Nat.min_eq_left (Nat.le_add_right ..)]
    · cases solved

theorem solve_eq_targets (same : placement.targets.length = placement.weights.length)
    (positive : ∀ weight ∈ placement.weights, 0 < weight) (nonempty : placement.targets ≠ [])
    (fits : ∀ equality ∈ placement.equalities, equality.Fits placement.size)
    (hold : ∀ equality ∈ placement.equalities, equality.Holds (valueAt placement.targets))
    (count : Echelon.CoefficientsCount placement.size placement.equalities) :
    placement.solve = .ok placement.targets := by
  obtain ⟨pivots, built⟩ := Echelon.exists_ofEqualities fits hold count
  have kept : ∀ equality ∈ Echelon.independent pivots,
      (equality.dense placement.size).excess (valueAt placement.targets) = 0 := by
    intro equality isKept
    have member := Echelon.mem_of_ofEqualities built equality isKept
    exact (fits equality member).excess_dense_eq_zero.mpr (hold equality member)
  rw [solve_eq_ok same positive nonempty built (conditions_hold_targets kept)]
  exact congrArg Except.ok (Snapping.ext_valueAt (by simp [Placement.size])
    fun coordinate bound => Snapping.valueAt_map_range _ bound)

end TransitMap.Placement
