import TransitMap.Layout.Snapping
import TransitMap.Proofs.Layout.Echelon

open TransitMap.Echelon (Staircase)

namespace TransitMap

open scoped ExactScalar

namespace Snapping

variable {values : List Rat} {pivot : PivotRow Rat} {pivots : List (PivotRow Rat)}
  {equalities : List (Equality Rat)}

def valueAt (values : List Rat) (coordinate : Nat) : Rat := values.getD coordinate 0

theorem ext_valueAt {others : List Rat} (length : values.length = others.length)
    (same : ∀ coordinate < others.length, valueAt values coordinate = valueAt others coordinate) :
    values = others := by
  apply List.ext_getElem length
  intro coordinate bound inside
  simpa [valueAt, List.getD_eq_getElem?_getD, bound, inside] using same coordinate inside

theorem valueAt_map_range {count coordinate : Nat} (values : Nat → Rat) (bound : coordinate < count) :
    valueAt ((List.range count).map values) coordinate = values coordinate := by
  simp [valueAt, List.getD_eq_getElem?_getD, bound]

theorem snap_eq_self_iff {value : Rat} : snap value = value ↔ Scalar.IsWhole value := by
  refine ⟨fun same => same ▸ Scalar.IsWhole.round _, fun whole => ?_⟩
  have scaled : Scalar.IsWhole (value * precision) := whole.mul (.natCast 1000000)
  have notZero : (precision : Rat) ≠ 0 := by norm_num [precision]
  rw [snap, denoise, scaled.round_eq, mul_div_cancel_right₀ value notZero, whole.round_eq]

private theorem foldl_others (coefficients values : List Rat) (pivot next : Nat) (start : Rat)
    (same : coefficients.length = values.length) :
    (((coefficients.zip values).zipIdx next).filter fun entry => entry.2 != pivot).foldl
        (fun sum entry => sum + entry.1.1 * entry.1.2) start =
      start + ∑ coordinate ∈ Finset.range coefficients.length, if next + coordinate = pivot then 0
        else coefficients.getD coordinate 0 * values.getD coordinate 0 := by
  induction coefficients generalizing values next start with
  | nil => simp
  | cons coefficient rest ih =>
      cases values with
      | nil => simp at same
      | cons value others =>
          have later : ∑ coordinate ∈ Finset.range rest.length,
              (if next + (coordinate + 1) = pivot then 0
                else (coefficient :: rest).getD (coordinate + 1) 0 *
                  (value :: others).getD (coordinate + 1) 0) =
              ∑ coordinate ∈ Finset.range rest.length, if next + 1 + coordinate = pivot then 0
                else rest.getD coordinate 0 * others.getD coordinate 0 := by
            refine Finset.sum_congr rfl fun coordinate _ => ?_
            rw [← Nat.add_assoc, Nat.add_right_comm, List.getD_cons_succ, List.getD_cons_succ]
          rw [List.zip_cons_cons, List.zipIdx_cons, List.filter_cons, List.length_cons,
            Finset.sum_range_succ', later]
          have same : rest.length = others.length := by simpa using same
          by_cases isPivot : next = pivot
          · have skipped : (next != pivot) = false := by simp [isPivot]
            simp only [skipped, Bool.false_eq_true, if_false, ih others (next + 1) start same,
              if_pos isPivot, add_zero]
          · simp only [bne_iff_ne.mpr isPivot, if_true, List.foldl_cons, ih others (next + 1) _ same,
              Nat.add_zero, if_neg isPivot, List.getD_cons_zero]
            ring

theorem others_eq_sum (same : pivot.row.coefficients.length = values.length) :
    others values pivot = ∑ coordinate ∈ Finset.range values.length,
      if coordinate = pivot.coordinate then 0
      else pivot.row.coefficient coordinate * valueAt values coordinate := by
  rw [others, foldl_others _ _ _ _ _ same, same]
  simp [Row.coefficient, valueAt]

theorem others_eq (same : pivot.row.coefficients.length = values.length)
    (bound : pivot.coordinate < values.length) :
    others values pivot = pivot.row.total (valueAt values) -
      pivot.row.coefficient pivot.coordinate * valueAt values pivot.coordinate := by
  have split : ∀ coordinate, pivot.row.coefficient coordinate * valueAt values coordinate =
      (if coordinate = pivot.coordinate then
        pivot.row.coefficient pivot.coordinate * valueAt values pivot.coordinate else 0) +
      (if coordinate = pivot.coordinate then 0
        else pivot.row.coefficient coordinate * valueAt values coordinate) := by
    intro coordinate
    by_cases isPivot : coordinate = pivot.coordinate <;> simp [isPivot]
  rw [Row.total, same, Finset.sum_congr rfl fun coordinate _ => split coordinate,
    Finset.sum_add_distrib, Finset.sum_ite_eq', if_pos (Finset.mem_range.mpr bound),
    add_sub_cancel_left, others_eq_sum same]

/-- A row with coefficient one at its pivot misses what its pivot has beyond the value that fits. -/
theorem excess_eq (same : pivot.row.coefficients.length = values.length)
    (bound : pivot.coordinate < values.length)
    (unit : pivot.row.coefficient pivot.coordinate = 1) :
    pivot.row.excess (valueAt values) =
      valueAt values pivot.coordinate - pivotValue values pivot := by
  rw [pivotValue, others_eq same bound, unit, Row.excess]
  ring

@[simp] theorem length_fix (values : List Rat) (pivot : PivotRow Rat) :
    (fix values pivot).length = values.length := by
  simp [fix]

theorem valueAt_fix_of_ne {coordinate : Nat} (apart : pivot.coordinate ≠ coordinate) :
    valueAt (fix values pivot) coordinate = valueAt values coordinate := by
  simp [valueAt, fix, List.getD_eq_getElem?_getD, List.getElem?_set_ne apart]

theorem valueAt_fix (bound : pivot.coordinate < values.length) :
    valueAt (fix values pivot) pivot.coordinate = snap (pivotValue values pivot) := by
  simp [valueAt, fix, bound]

theorem pivotValue_congr {other : List Rat} (same : pivot.row.coefficients.length = values.length)
    (length : other.length = values.length)
    (agree : ∀ coordinate, coordinate ≠ pivot.coordinate →
      pivot.row.coefficient coordinate = 0 ∨ valueAt other coordinate = valueAt values coordinate) :
    pivotValue other pivot = pivotValue values pivot := by
  rw [pivotValue, pivotValue, others_eq_sum same, others_eq_sum (same.trans length.symm), length]
  congr 1
  refine Finset.sum_congr rfl fun coordinate _ => ?_
  split
  · rfl
  · next apart =>
      rcases agree coordinate apart with none | sameValue
      · rw [none, zero_mul, zero_mul]
      · rw [sameValue]

/-- Setting a pivot changes nothing that another pivot is computed from, if it is not in its row. -/
theorem pivotValue_fix {other : PivotRow Rat}
    (same : other.row.coefficients.length = values.length)
    (clear : pivot.coordinate = other.coordinate ∨ other.row.coefficient pivot.coordinate = 0) :
    pivotValue (fix values pivot) other = pivotValue values other := by
  refine pivotValue_congr same (length_fix values pivot) fun coordinate apart => ?_
  by_cases isSet : pivot.coordinate = coordinate
  · subst isSet
    exact .inl (clear.resolve_left apart)
  · exact .inr (valueAt_fix_of_ne isSet)

@[simp] theorem length_foldr_fix (pivots : List (PivotRow Rat)) (values : List Rat) :
    (pivots.foldr (fun pivot values => fix values pivot) values).length = values.length := by
  induction pivots with
  | nil => rfl
  | cons first rest ih => rw [List.foldr_cons, length_fix, ih]

/-- Every pivot has the whole number next to the value that fits the final values. -/
theorem valueAt_foldr_fix (staircase : Staircase values.length pivots) :
    ∀ pivot ∈ pivots,
      valueAt (pivots.foldr (fun pivot values => fix values pivot) values) pivot.coordinate =
        snap (pivotValue (pivots.foldr (fun pivot values => fix values pivot) values) pivot) := by
  induction pivots with
  | nil => simp
  | cons first rest ih =>
      have settled := ih staircase.tail
      have sameLength := length_foldr_fix rest values
      have lengths := List.forall_mem_cons.mp staircase.length
      rw [List.foldr_cons]
      generalize rest.foldr (fun pivot values => fix values pivot) values = after at *
      rw [← sameLength] at lengths
      refine List.forall_mem_cons.mpr ⟨?_, fun pivot member => ?_⟩
      · rw [valueAt_fix (sameLength ▸ staircase.bound first List.mem_cons_self),
          pivotValue_fix lengths.1 (.inl rfl)]
      · obtain ⟨clear, apart⟩ := staircase.apart pivot member
        rw [valueAt_fix_of_ne apart, settled pivot member,
          pivotValue_fix (lengths.2 pivot member) (.inr clear)]

theorem length_free (pivots : List (PivotRow Rat)) (values : List Rat) :
    (free pivots values).length = values.length := by
  simp [free]

theorem valueAt_free {coordinate : Nat} (isFree : ∀ pivot ∈ pivots, pivot.coordinate ≠ coordinate) :
    valueAt (free pivots values) coordinate = snap (valueAt values coordinate) := by
  have noPivot : pivots.any (fun pivot => pivot.coordinate == coordinate) = false := by
    simpa using isFree
  simp only [valueAt, List.getD_eq_getElem?_getD, free, List.getElem?_map, List.getElem?_zipIdx,
    Option.map_map, Function.comp_def, Nat.zero_add, noPivot, Bool.false_eq_true, if_false]
  cases values[coordinate]? with
  | none => exact (snap_eq_self_iff.mpr (.natCast 0)).symm
  | some value => rfl

theorem valueAt_foldr_fix_of_free {coordinate : Nat} {start : List Rat}
    (isFree : ∀ pivot ∈ pivots, pivot.coordinate ≠ coordinate) :
    valueAt (pivots.foldr (fun pivot values => fix values pivot) start) coordinate =
      valueAt start coordinate := by
  induction pivots with
  | nil => rfl
  | cons first rest ih =>
      rw [List.forall_mem_cons] at isFree
      rw [List.foldr_cons, valueAt_fix_of_ne isFree.1, ih isFree.2]

/-- Setting the pivots leads to any values whose pivots are the whole numbers next to the values that
fit. Coordinates that are pending are in none of the rows. -/
theorem valueAt_foldr_fix_eq {start : List Rat} (pending : Nat → Prop)
    (staircase : Staircase values.length pivots) (length : start.length = values.length)
    (settled : ∀ pivot ∈ pivots,
      valueAt values pivot.coordinate = snap (pivotValue values pivot))
    (clear : ∀ pivot ∈ pivots, ∀ coordinate, pending coordinate →
      pivot.row.coefficient coordinate = 0)
    (agree : ∀ coordinate, ¬pending coordinate →
      (∀ pivot ∈ pivots, pivot.coordinate ≠ coordinate) →
      valueAt start coordinate = valueAt values coordinate) :
    ∀ coordinate, ¬pending coordinate →
      valueAt (pivots.foldr (fun pivot values => fix values pivot) start) coordinate =
        valueAt values coordinate := by
  induction pivots generalizing pending with
  | nil => exact fun coordinate isKnown => agree coordinate isKnown (by simp)
  | cons first rest ih =>
      have sameLength := (length_foldr_fix rest start).trans length
      rw [List.forall_mem_cons] at settled clear
      have later := ih (fun coordinate => pending coordinate ∨ first.coordinate = coordinate)
        staircase.tail settled.2 ?clear ?agree
      case clear =>
        rintro pivot member coordinate (isPending | rfl)
        · exact clear.2 pivot member coordinate isPending
        · exact (staircase.apart pivot member).1
      case agree =>
        intro coordinate isKnown isFree
        rw [not_or] at isKnown
        exact agree coordinate isKnown.1 (List.forall_mem_cons.mpr ⟨isKnown.2, isFree⟩)
      rw [List.foldr_cons]
      generalize rest.foldr (fun pivot values => fix values pivot) start = after at *
      have own : pivotValue after first = pivotValue values first := by
        refine pivotValue_congr (staircase.length first List.mem_cons_self) sameLength
          fun coordinate apart => ?_
        by_cases isPending : pending coordinate
        · exact .inl (clear.1 coordinate isPending)
        · exact .inr (later coordinate (by simp [isPending, apart.symm]))
      intro coordinate isKnown
      by_cases isPivot : first.coordinate = coordinate
      · subst isPivot
        rw [valueAt_fix (sameLength ▸ staircase.bound first List.mem_cons_self), own, settled.1]
      · rw [valueAt_fix_of_ne isPivot, later coordinate (by simp [isKnown, isPivot])]

theorem integral_of_ofEqualities
    (built : Echelon.ofEqualities values.length equalities = .ok pivots) :
    integral values equalities =
      .ok (pivots.foldr (fun pivot values => fix values pivot) (free pivots values)) := by
  rw [integral, Placement.reduced, built]
  rfl

/-- The rounded values are those whose coordinates are rounded where they are no pivots, and next to
the value that fits where they are. -/
theorem integral_eq_ok_iff {final : List Rat}
    (built : Echelon.ofEqualities values.length equalities = .ok pivots) :
    integral values equalities = .ok final ↔ final.length = values.length ∧
      (∀ coordinate < values.length, (∀ pivot ∈ pivots, pivot.coordinate ≠ coordinate) →
        valueAt final coordinate = snap (valueAt values coordinate)) ∧
      ∀ pivot ∈ pivots, valueAt final pivot.coordinate = snap (pivotValue final pivot) := by
  have staircase := Echelon.staircase_of_ofEqualities built
  have length := (length_foldr_fix pivots (free pivots values)).trans (length_free pivots values)
  have settled := valueAt_foldr_fix (length_free pivots values ▸ staircase)
  rw [integral_of_ofEqualities built, Except.ok.injEq]
  constructor
  · rintro rfl
    refine ⟨length, fun coordinate _ isFree => ?_, settled⟩
    rw [valueAt_foldr_fix_of_free isFree, valueAt_free isFree]
  · rintro ⟨sameLength, isRounded, settled⟩
    -- Numbers from `values.length` on belong to no coordinate, and no row has them.
    refine ext_valueAt (length.trans sameLength.symm) fun coordinate bound =>
      valueAt_foldr_fix_eq (fun coordinate => values.length ≤ coordinate) (sameLength ▸ staircase)
        ((length_free pivots values).trans sameLength.symm) settled
        (fun pivot member coordinate behind => ?_) (fun coordinate inside isFree => ?_) coordinate
        (not_le.mpr (sameLength ▸ bound))
    · exact Row.coefficient_of_le (staircase.length pivot member ▸ behind)
    · rw [valueAt_free isFree, isRounded coordinate (not_le.mp inside) isFree]

theorem exists_pivots_of_integral {final : List Rat}
    (rounded : integral values equalities = .ok final) :
    ∃ pivots, Echelon.ofEqualities values.length equalities = .ok pivots := by
  simp only [integral, Placement.reduced, Outcome.bind_eq_ok, Outcome.mapError_eq_ok] at rounded
  obtain ⟨pivots, built, -⟩ := rounded
  exact ⟨pivots, built⟩

theorem excess_of_integral {final : List Rat}
    (rounded : integral values equalities = .ok final) :
    final.length = values.length ∧
      ∃ pivots, Echelon.ofEqualities values.length equalities = .ok pivots ∧
        ∀ pivot ∈ pivots, pivot.row.excess (valueAt final) =
          snap (pivotValue final pivot) - pivotValue final pivot := by
  obtain ⟨pivots, built⟩ := exists_pivots_of_integral rounded
  have staircase := Echelon.staircase_of_ofEqualities built
  obtain ⟨length, -, settled⟩ := (integral_eq_ok_iff built).mp rounded
  refine ⟨length, pivots, built, fun pivot member => ?_⟩
  rw [excess_eq, settled pivot member]
  · rw [staircase.length pivot member, length]
  · rw [length]
    exact staircase.bound pivot member
  · exact staircase.unit pivot member

theorem valueAt_integral_of_free {final : List Rat} {coordinate : Nat}
    (rounded : integral values equalities = .ok final)
    (built : Echelon.ofEqualities values.length equalities = .ok pivots)
    (bound : coordinate < values.length) (isFree : ∀ pivot ∈ pivots, pivot.coordinate ≠ coordinate) :
    valueAt final coordinate = snap (valueAt values coordinate) :=
  ((integral_eq_ok_iff built).mp rounded).2.1 coordinate bound isFree

/-- Whole values for which all rows hold are what is found if they are the rounded ones at the
coordinates that are no pivots. -/
theorem integral_eq_ok_of_rows_hold {final : List Rat}
    (built : Echelon.ofEqualities values.length equalities = .ok pivots)
    (length : final.length = values.length)
    (whole : ∀ coordinate < values.length, Scalar.IsWhole (valueAt final coordinate))
    (hold : ∀ pivot ∈ pivots, pivot.row.excess (valueAt final) = 0)
    (isRounded : ∀ coordinate < values.length, (∀ pivot ∈ pivots, pivot.coordinate ≠ coordinate) →
      valueAt final coordinate = snap (valueAt values coordinate)) :
    integral values equalities = .ok final := by
  have staircase := Echelon.staircase_of_ofEqualities built
  refine (integral_eq_ok_iff built).mpr ⟨length, isRounded, fun pivot member => ?_⟩
  have bound := staircase.bound pivot member
  have fits := excess_eq ((staircase.length pivot member).trans length.symm) (length ▸ bound)
    (staircase.unit pivot member)
  rw [hold pivot member, eq_comm, sub_eq_zero] at fits
  rw [← fits, snap_eq_self_iff.mpr (whole _ bound)]

theorem integral_eq_self
    (whole : ∀ coordinate < values.length, Scalar.IsWhole (valueAt values coordinate))
    (built : Echelon.ofEqualities values.length equalities = .ok pivots)
    (hold : ∀ pivot ∈ pivots, pivot.row.excess (valueAt values) = 0) :
    integral values equalities = .ok values :=
  integral_eq_ok_of_rows_hold built rfl whole hold fun coordinate bound _ =>
    (snap_eq_self_iff.mpr (whole coordinate bound)).symm

end Snapping

end TransitMap
