import TransitMap.Proofs.Layout.Exactness
import TransitMap.Proofs.Layout.Rounding
import TransitMap.Proofs.Layout.WholeRow

open TransitMap.Scalar (IsWhole)

namespace TransitMap.Snapping

variable {values : List Rat} {pivot : PivotRow Rat} {before behind : List (PivotRow Rat)}
  {equalities : List (Equality Rat)}

theorem isWhole_pivotValue {size : Nat} (row : pivot.row.IsWhole size)
    (length : values.length = size) (whole : ∀ value ∈ values, IsWhole value) :
    IsWhole (pivotValue values pivot) := by
  rw [pivotValue, others_eq_sum (row.length.trans length.symm)]
  refine row.constant.sub (.sum fun coordinate _ => ?_)
  split
  · exact .natCast 0
  · exact (row.coefficient coordinate).mul (Layout.isWhole_valueAt whole coordinate)

theorem valueAt_foldr_fix_append {start : List Rat}
    (staircase : Echelon.Staircase start.length (before ++ pivot :: behind)) :
    valueAt ((before ++ pivot :: behind).foldr (fun pivot values => fix values pivot) start)
        pivot.coordinate =
      snap (pivotValue (behind.foldr (fun pivot values => fix values pivot) start) pivot) := by
  have apart := staircase.nodup
  rw [List.map_append, List.map_cons, List.nodup_append] at apart
  have isFree : ∀ other ∈ before, other.coordinate ≠ pivot.coordinate := fun other member =>
    apart.2.2 _ (List.mem_map_of_mem member) _ List.mem_cons_self
  rw [List.foldr_append, valueAt_foldr_fix_of_free isFree, List.foldr_cons, valueAt_fix]
  rw [length_foldr_fix]
  exact staircase.bound pivot (by simp)

/-- Whole equalities that have a solution and whose pivots are units hold for the rounded values.
Every coordinate that is no pivot is rounded by itself, to six decimals first, and every pivot is
whole as soon as it is computed. -/
theorem integral_of_selectsUnits (fits : ∀ equality ∈ equalities, equality.Fits values.length)
    (wholes : ∀ equality ∈ equalities, equality.HasWholes) (solvable : Solvable equalities)
    (units : Echelon.SelectsUnits values.length equalities) :
    ∃ pivots final, Echelon.ofEqualities values.length equalities = .ok pivots ∧
      integral values equalities = .ok final ∧ final.length = values.length ∧
      (∀ value ∈ final, IsWhole value) ∧
      (∀ equality ∈ equalities, equality.Holds (valueAt final)) ∧
      (∀ coordinate < values.length, (∀ pivot ∈ pivots, pivot.coordinate ≠ coordinate) →
        ∃ millionths whole : Int, IsNearest (valueAt values coordinate * 1000000) millionths ∧
          IsNearest (millionths / 1000000) whole ∧ valueAt final coordinate = whole) ∧
      ∀ before pivot behind, pivots = before ++ pivot :: behind →
        ∃ whole : Int, valueAt final pivot.coordinate = whole ∧
          pivotValue (behind.foldr (fun pivot values => fix values pivot) (free pivots values))
            pivot = whole := by
  obtain ⟨areLeft, areReduced⟩ := Echelon.isWhole_of_elimination wholes units
  have coefficients := Echelon.coefficientsCount_of_isWhole areLeft
  have constants := Echelon.constantsCount_of_isWhole areLeft
  obtain ⟨final, rounded⟩ := exists_integral fits coefficients solvable
  obtain ⟨length, pivots, built, -⟩ := excess_of_integral rounded
  have whole := isWhole_integral rounded
  have rows := areReduced pivots built
  refine ⟨pivots, final, built, rounded, length, whole, ?_, fun coordinate bound isFree => ?_, ?_⟩
  · rw [hold_iff_isWhole fits coefficients constants built rounded]
    exact fun pivot member => isWhole_pivotValue (rows pivot member) length whole
  · refine ⟨_, _, isNearest_iff.mpr rfl, isNearest_iff.mpr rfl, ?_⟩
    rw [valueAt_integral_of_free rounded built bound isFree]
    rfl
  · rintro before pivot behind rfl
    have staircase := Echelon.staircase_of_ofEqualities built
    rw [integral_of_ofEqualities built, Except.ok.injEq] at rounded
    have atStage := isWhole_pivotValue (rows pivot (by simp))
      ((length_foldr_fix behind _).trans (length_free (before ++ pivot :: behind) values))
      (isWhole_foldr_fix (isWhole_free _ values) behind)
    rw [← rounded, valueAt_foldr_fix_append (length_free _ values ▸ staircase),
      snap_eq_self_iff.mpr atStage]
    obtain ⟨whole, isValue⟩ := atStage
    exact ⟨whole, isValue, isValue⟩

def slanted : List (Equality Rat) :=
  [⟨[(0, 1), (2, -1), (1, 1), (3, -1)], 0, 5⟩, ⟨[(0, 1), (2, 1), (3, -3)], 0, 6⟩,
    ⟨[(0, 2), (1, 1), (3, -4)], 0, 7⟩]

theorem integral_of_selectsUnits_slanted :
    Echelon.SelectsUnits 4 slanted ∧
      integral [2 / 5, -7, 5 / 2, 24999999 / 10000000] slanted = .ok [6, 0, 3, 3] ∧
      ∀ equality ∈ slanted, equality.Holds (valueAt [6, 0, 3, 3]) := by
  have remainders : Echelon.remainders 4 [] slanted =
      [⟨[1, 1, -1, -1], 0⟩, ⟨[0, -1, 2, -2], 0⟩, ⟨[0, 0, 0, 0], 0⟩] := by cbv
  have fits : ∀ equality ∈ slanted, equality.Fits 4 := by
    simp only [slanted, List.forall_mem_cons]
    refine ⟨⟨by decide, by decide⟩, ⟨by decide, by decide⟩, ⟨by decide, by decide⟩, by simp⟩
  have wholes : ∀ equality ∈ slanted, equality.HasWholes := by
    have isWhole (whole : Int) : IsWhole (whole : Rat) := .intCast whole
    simp only [slanted, List.forall_mem_cons]
    refine ⟨⟨?_, isWhole 0⟩, ⟨?_, isWhole 0⟩, ⟨?_, isWhole 0⟩, by simp⟩
    · simp only [List.forall_mem_cons]
      exact ⟨isWhole 1, isWhole (-1), isWhole 1, isWhole (-1), by simp⟩
    · simp only [List.forall_mem_cons]
      exact ⟨isWhole 1, isWhole 1, isWhole (-3), by simp⟩
    · simp only [List.forall_mem_cons]
      exact ⟨isWhole 2, isWhole 1, isWhole (-4), by simp⟩
  have solvable : Solvable slanted := ⟨0, by simp [slanted, Equality.Holds, Equality.sum]⟩
  have units : Echelon.SelectsUnits 4 slanted := by
    have first : Echelon.pivot? (⟨[1, 1, -1, -1], 0⟩ : Row Rat) = some (0, 1) := by cbv
    have second : Echelon.pivot? (⟨[0, -1, 2, -2], 0⟩ : Row Rat) = some (1, -1) := by cbv
    have third : Echelon.pivot? (⟨[0, 0, 0, 0], 0⟩ : Row Rat) = none := by cbv
    simp [Echelon.SelectsUnits, remainders, first, second, third]
  have rounded :
      integral [2 / 5, -7, 5 / 2, 24999999 / 10000000] slanted = .ok [6, 0, 3, 3] := by cbv
  obtain ⟨pivots, final, -, found, -, -, hold, -⟩ := @integral_of_selectsUnits
    [2 / 5, -7, 5 / 2, 24999999 / 10000000] slanted fits wholes solvable units
  obtain rfl := Except.ok.inj (found.symm.trans rounded)
  exact ⟨units, rounded, hold⟩

end TransitMap.Snapping
