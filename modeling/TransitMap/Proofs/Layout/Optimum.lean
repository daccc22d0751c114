import TransitMap.Proofs.Layout.Elimination

open scoped TransitMap.ExactScalar
open TransitMap.Snapping (valueAt)

namespace TransitMap.Placement

variable {size : Nat} {equalities : List (Equality Rat)} {values others direction : Nat → Rat}
  {placement : Placement Rat} {pivots : List (PivotRow Rat)}

def deviation (placement : Placement Rat) (values : Nat → Rat) : Rat :=
  ∑ coordinate ∈ Finset.range placement.size, valueAt placement.weights coordinate *
    (values coordinate - valueAt placement.targets coordinate) ^ 2

/-- The equalities hold for the values, and all others for which they hold are farther from the
targets. -/
structure IsBest (placement : Placement Rat) (values : Nat → Rat) : Prop where
  hold : ∀ equality ∈ placement.equalities, equality.Holds values
  least : ∀ others : Nat → Rat, (∀ equality ∈ placement.equalities, equality.Holds others) →
    (∃ coordinate < placement.size, others coordinate ≠ values coordinate) →
    placement.deviation values < placement.deviation others

theorem IsBest.congr (best : placement.IsBest values)
    (fits : ∀ equality ∈ placement.equalities, equality.Fits placement.size)
    (same : ∀ coordinate < placement.size, others coordinate = values coordinate) :
    placement.IsBest others := by
  constructor
  · intro equality member
    exact ((fits equality member).holds_congr same).mpr (best.hold equality member)
  · rintro further hold ⟨coordinate, bound, apart⟩
    have deviation : placement.deviation others = placement.deviation values :=
      Finset.sum_congr rfl fun coordinate inside => by
        rw [same coordinate (Finset.mem_range.mp inside)]
    rw [same coordinate bound] at apart
    rw [deviation]
    exact best.least further hold ⟨coordinate, bound, apart⟩

theorem IsBest.unique (best : placement.IsBest values)
    (otherBest : IsBest { placement with equalities } others)
    (same : ∀ values, (∀ equality ∈ placement.equalities, equality.Holds values) ↔
      ∀ equality ∈ equalities, equality.Holds values) :
    ∀ coordinate < placement.size, values coordinate = others coordinate := by
  intro coordinate bound
  by_contra apart
  have othersHold := (same others).mpr otherBest.hold
  have valuesHold := (same values).mp best.hold
  have below := best.least others othersHold ⟨coordinate, bound, Ne.symm apart⟩
  exact below.not_gt (otherBest.least values valuesHold ⟨coordinate, bound, apart⟩)

theorem deviation_eq (values others : Nat → Rat) :
    placement.deviation others = placement.deviation values +
      (∑ coordinate ∈ Finset.range placement.size, valueAt placement.weights coordinate *
        (others coordinate - values coordinate) ^ 2) +
      ∑ coordinate ∈ Finset.range placement.size, (others coordinate - values coordinate) *
        (2 * valueAt placement.weights coordinate *
          (values coordinate - valueAt placement.targets coordinate)) := by
  rw [deviation, deviation, ← Finset.sum_add_distrib, ← Finset.sum_add_distrib]
  exact Finset.sum_congr rfl fun coordinate _ => by ring

section Conditions

variable (hold : ∀ row ∈ placement.conditions equalities, row.excess values = 0)

include hold

theorem excess_dense_of_conditions : ∀ equality ∈ equalities,
    (equality.dense placement.size).excess values = 0 := by
  intro equality member
  rw [Row.excess, ← total_equalityRow equalities.length]
  exact hold _ (mem_conditions.mpr (.inr ⟨equality, member, rfl⟩))

/-- Where the conditions hold, the derivative vanishes in the directions in which the equalities
stay as they are. -/
theorem derivative_eq_zero (same : placement.targets.length = placement.weights.length)
    (fixed : ∀ equality ∈ equalities, (equality.dense placement.size).total direction = 0) :
    ∑ coordinate ∈ Finset.range placement.size, direction coordinate *
      (2 * valueAt placement.weights coordinate *
        (values coordinate - valueAt placement.targets coordinate)) = 0 := by
  have stationary : ∀ coordinate ∈ Finset.range placement.size,
      (stationaryRow placement.size equalities coordinate (valueAt placement.targets coordinate)
        (valueAt placement.weights coordinate)).total values =
      2 * valueAt placement.weights coordinate * valueAt placement.targets coordinate :=
    fun coordinate inside => sub_eq_zero.mp
      (hold _ (stationaryRow_mem_conditions same (Finset.mem_range.mp inside)))
  have multiples : ∑ index : Fin equalities.length, values (placement.size + index) *
      (equalities[index].dense placement.size).total direction = 0 :=
    Finset.sum_eq_zero fun index _ =>
      mul_eq_zero_of_right _ (fixed _ (List.getElem_mem index.isLt))
  calc ∑ coordinate ∈ Finset.range placement.size, direction coordinate *
        (2 * valueAt placement.weights coordinate *
          (values coordinate - valueAt placement.targets coordinate))
      = ∑ coordinate ∈ Finset.range placement.size,
          direction coordinate * (2 * valueAt placement.weights coordinate * values coordinate) -
        ∑ coordinate ∈ Finset.range placement.size, direction coordinate *
          (stationaryRow placement.size equalities coordinate
            (valueAt placement.targets coordinate)
            (valueAt placement.weights coordinate)).total values := by
        rw [← Finset.sum_sub_distrib]
        refine Finset.sum_congr rfl fun coordinate inside => ?_
        rw [stationary coordinate inside]
        ring
    _ = 0 := by rw [sum_total_stationaryRow, multiples, add_zero, sub_self]

end Conditions

theorem isBest_of_conditions (same : placement.targets.length = placement.weights.length)
    (positive : ∀ weight ∈ placement.weights, 0 < weight)
    (fits : ∀ equality ∈ placement.equalities, equality.Fits placement.size)
    (hold : ∀ equality ∈ placement.equalities, equality.Holds values)
    (built : Echelon.ofEqualities placement.size placement.equalities = .ok pivots)
    (conditions : ∀ row ∈ placement.conditions (Echelon.independent pivots),
      row.excess values = 0) : placement.IsBest values := by
  refine ⟨hold, ?_⟩
  rintro others othersHold ⟨coordinate, bound, apart⟩
  have fixed : ∀ equality ∈ Echelon.independent pivots,
      (equality.dense placement.size).total
        (fun coordinate => others coordinate - values coordinate) = 0 := by
    intro equality member
    have isOne := Echelon.mem_of_ofEqualities built equality member
    have first := (fits equality isOne).excess_dense_eq_zero.mpr (othersHold equality isOne)
    have second := (fits equality isOne).excess_dense_eq_zero.mpr (hold equality isOne)
    rw [Row.excess, sub_eq_zero] at first second
    rw [Row.total_sub, first, second, sub_self]
  have weight : ∀ coordinate ∈ Finset.range placement.size,
      0 < valueAt placement.weights coordinate := by
    intro coordinate inside
    have weighed : coordinate < placement.weights.length := same ▸ Finset.mem_range.mp inside
    simpa [valueAt, List.getD_eq_getElem?_getD, weighed] using positive _ (List.getElem_mem weighed)
  have squares : 0 < ∑ coordinate ∈ Finset.range placement.size,
      valueAt placement.weights coordinate * (others coordinate - values coordinate) ^ 2 := by
    refine Finset.sum_pos' (fun coordinate inside => mul_nonneg (weight coordinate inside).le
      (sq_nonneg _)) ⟨coordinate, Finset.mem_range.mpr bound, ?_⟩
    exact mul_pos (weight coordinate (Finset.mem_range.mpr bound))
      (sq_pos_iff.mpr (sub_ne_zero.mpr apart))
  rw [deviation_eq values others, derivative_eq_zero conditions same fixed, add_zero]
  exact lt_add_of_pos_right _ squares

/-- If the equalities hold somewhere and nothing that is left of them is taken for zero without
being zero, the best values are found. -/
theorem exists_solve_eq_ok (same : placement.targets.length = placement.weights.length)
    (positive : ∀ weight ∈ placement.weights, 0 < weight) (nonempty : placement.targets ≠ [])
    (fits : ∀ equality ∈ placement.equalities, equality.Fits placement.size)
    (coefficients : Echelon.CoefficientsCount placement.size placement.equalities)
    (constants : Echelon.ConstantsCount placement.size placement.equalities)
    (hold : ∀ equality ∈ placement.equalities, equality.Holds values) :
    ∃ best, placement.solve = .ok best ∧ best.length = placement.size ∧
      placement.IsBest (valueAt best) := by
  obtain ⟨pivots, built⟩ := Echelon.exists_ofEqualities fits hold coefficients
  obtain ⟨solution, conditions⟩ := exists_conditions_hold same positive built
  have rows := Echelon.rows_hold_of_independent built (excess_dense_of_conditions conditions)
  have solutionHolds := (Echelon.rows_hold_iff fits coefficients constants built).mp rows
  have best := isBest_of_conditions same positive fits solutionHolds built conditions
  exact ⟨_, solve_eq_ok same positive nonempty built conditions, by simp,
    best.congr fits fun coordinate bound => Snapping.valueAt_map_range solution bound⟩

/-- The conditions are never singular, whatever elimination takes for zero. -/
theorem solve_ne_singular (same : placement.targets.length = placement.weights.length)
    (positive : ∀ weight ∈ placement.weights, 0 < weight) :
    placement.solve ≠ .error .singular := by
  intro failed
  cases built : Echelon.ofEqualities placement.size placement.equalities with
  | error refused =>
      rw [solve, reduced, built] at failed
      cases failed
  | ok pivots =>
      by_cases empty : placement.targets = []
      · rw [solve, reduced, built, empty] at failed
        cases failed
      · obtain ⟨solution, conditions⟩ := exists_conditions_hold same positive built
        rw [solve_eq_ok same positive empty built conditions] at failed
        cases failed

/-- Coordinates that are accepted are never found singular, and if their equalities have a solution,
the best of all solutions is found. -/
theorem exists_isBest_of_ofParts {targets weights : List Rat}
    (accepted : ofParts targets weights equalities = .ok placement)
    (merged : ∀ equality ∈ equalities, ∃ terms constant sourceLine,
      equality = .ofTerms terms constant sourceLine) :
    placement.solve ≠ .error .singular ∧
      (targets ≠ [] → Solvable equalities →
        Echelon.CoefficientsCount targets.length equalities →
        Echelon.ConstantsCount targets.length equalities →
        ∃ best, placement.solve = .ok best ∧ best.length = targets.length ∧
          placement.IsBest (valueAt best)) := by
  obtain ⟨rfl, same, positive, known⟩ := of_ofParts accepted
  refine ⟨solve_ne_singular same positive, ?_⟩
  rintro nonempty ⟨values, hold⟩ coefficients constants
  have fits : ∀ equality ∈ equalities, equality.Fits targets.length := by
    intro equality member
    obtain ⟨terms, constant, sourceLine, rfl⟩ := merged equality member
    exact ⟨Equality.distinct_ofTerms _ _ _, known _ member⟩
  exact exists_solve_eq_ok same positive nonempty fits coefficients constants hold

def repeated : List (Equality Rat) :=
  [.ofTerms [(0, 1), (1, -1), (0, 1)] 3 2, .ofTerms [(1, -2), (0, 4)] 6 5]

theorem exists_isBest_of_ofParts_repeated :
    ofParts [1, 2, 7] [1, 1 / 2, 3] repeated = .ok ⟨[1, 2, 7], [1, 1 / 2, 3], repeated⟩ ∧
      Solvable repeated ∧
      solve ⟨[1, 2, 7], [1, 1 / 2, 3], repeated⟩ = .ok [2, 1, 7] ∧
      IsBest ⟨[1, 2, 7], [1, 1 / 2, 3], repeated⟩ (valueAt [2, 1, 7]) := by
  have written : repeated = [⟨[(0, 2), (1, -1)], 3, 2⟩, ⟨[(1, -2), (0, 4)], 6, 5⟩] := by cbv
  have accepted :
      ofParts [1, 2, 7] [1, 1 / 2, 3] repeated = .ok ⟨[1, 2, 7], [1, 1 / 2, 3], repeated⟩ := by
    cbv
  have merged : ∀ equality ∈ repeated, ∃ terms constant sourceLine,
      equality = .ofTerms terms constant sourceLine := by
    simp only [repeated, List.forall_mem_cons]
    exact ⟨⟨_, _, _, rfl⟩, ⟨_, _, _, rfl⟩, by simp⟩
  have solvable : Solvable repeated := by
    refine ⟨fun coordinate => [3, 3, 0].getD coordinate 0, ?_⟩
    rw [written]
    norm_num [Equality.Holds]
  have remainders : Echelon.remainders 3 [] repeated = [⟨[2, -1, 0], 3⟩, ⟨[0, 0, 0], 0⟩] := by cbv
  have coefficients : Echelon.CoefficientsCount 3 repeated := by
    rw [Echelon.CoefficientsCount, remainders]
    simp only [Echelon.coefficientTolerance, Scalar.literal_eq, Scalar.ofNat_eq]
    norm_num
  have constants : Echelon.ConstantsCount 3 repeated := by
    rw [Echelon.ConstantsCount, remainders]
    simp only [Echelon.constantTolerance, Scalar.literal_eq, Scalar.ofNat_eq]
    norm_num
  have solved : solve ⟨[1, 2, 7], [1, 1 / 2, 3], repeated⟩ = .ok [2, 1, 7] := by cbv
  obtain ⟨best, found, -, isBest⟩ :=
    (exists_isBest_of_ofParts accepted merged).2 (by simp) solvable coefficients constants
  obtain rfl := Except.ok.inj (found.symm.trans solved)
  exact ⟨accepted, solvable, solved, isBest⟩

end TransitMap.Placement
