import Mathlib
import TransitMap.Proofs.Layout.Placement

namespace TransitMap

open scoped ExactScalar

def Solvable (equalities : List (Equality Rat)) : Prop :=
  ∃ values : Nat → Rat, ∀ equality ∈ equalities, equality.Holds values

theorem Solvable.mono {equalities others : List (Equality Rat)} (solvable : Solvable equalities)
    (among : others ⊆ equalities) : Solvable others := by
  obtain ⟨values, hold⟩ := solvable
  exact ⟨values, fun equality member => hold equality (among member)⟩

namespace Echelon

variable {size : Nat} {equalities first second : List (Equality Rat)}
  {pivots start : List (PivotRow Rat)} {refused : Equality Rat}

theorem Staircase.exists_excess_eq_zero (staircase : Staircase size pivots) :
    ∃ values : Nat → Rat, ∀ pivot ∈ pivots, pivot.row.excess values = 0 := by
  obtain ⟨values, attained, -⟩ := staircase.exists_values (fun pivot => pivot.row.constant) 0
  exact ⟨values, fun pivot member => sub_eq_zero.mpr (attained pivot member)⟩

theorem exists_ofEqualities_iff (fits : ∀ equality ∈ equalities, equality.Fits size)
    (coefficients : CoefficientsCount size equalities)
    (constants : ConstantsCount size equalities) :
    (∃ pivots, ofEqualities size equalities = .ok pivots) ↔ Solvable equalities := by
  constructor
  · rintro ⟨pivots, built⟩
    obtain ⟨values, hold⟩ := (staircase_of_ofEqualities built).exists_excess_eq_zero
    exact ⟨values, (rows_hold_iff fits coefficients constants built).mp hold⟩
  · rintro ⟨values, hold⟩
    exact exists_ofEqualities fits hold coefficients

theorem remainders_subset_append :
    remainders size start first ⊆ remainders size start (first ++ second) := by
  induction first generalizing start with
  | nil => exact List.nil_subset _
  | cons equality rest ih =>
      rw [List.cons_append, remainders, remainders]
      cases extend size start equality with
      | ok after => exact List.cons_subset_cons _ ih
      | error => exact List.Subset.refl _

theorem CoefficientsCount.of_append (count : CoefficientsCount size (first ++ second)) :
    CoefficientsCount size first :=
  fun row member => count row (remainders_subset_append member)

theorem ConstantsCount.of_append (count : ConstantsCount size (first ++ second)) :
    ConstantsCount size first :=
  fun row member => count row (remainders_subset_append member)

/-- The equality that is refused is the last one of the shortest beginning of the list that has no
solution. -/
theorem isLeast_of_ofEqualities_eq_error (fits : ∀ equality ∈ equalities, equality.Fits size)
    (coefficients : CoefficientsCount size equalities)
    (constants : ConstantsCount size equalities)
    (failed : ofEqualities size equalities = .error refused) :
    ∃ count, equalities[count]? = some refused ∧
      IsLeast {count | ¬Solvable (equalities.take count)} (count + 1) := by
  obtain ⟨before, equality, behind, pivots, rfl, reached, refuses⟩ :=
    Outcome.exists_of_foldlM_eq_error failed
  obtain ⟨rfl, -, -⟩ := extend_eq_error refuses
  rw [List.append_cons] at coefficients constants fits
  have solvable : Solvable before := by
    rw [← exists_ofEqualities_iff (fun other member => fits other (by simp [member]))
      coefficients.of_append.of_append constants.of_append.of_append]
    exact ⟨pivots, reached⟩
  have unsolvable : ¬Solvable (before ++ [refused]) := by
    rw [← exists_ofEqualities_iff (fun other member => fits other (List.mem_append_left _ member))
      coefficients.of_append constants.of_append]
    rintro ⟨after, built⟩
    rw [ofEqualities, List.foldlM_append, reached] at built
    change [refused].foldlM (extend size) pivots = .ok after at built
    rw [List.foldlM_cons, refuses] at built
    cases built
  have taken : (before ++ refused :: behind).take (before.length + 1) = before ++ [refused] := by
    rw [List.append_cons]
    exact List.take_left' (by simp)
  refine ⟨before.length, by simp, ?_, fun count isUnsolvable => ?_⟩
  · change ¬Solvable _
    rwa [taken]
  · by_contra short
    refine isUnsolvable (solvable.mono ?_)
    rw [List.take_append_of_le_length (by omega)]
    exact List.take_subset _ _

/-- No equality that is kept is a combination of others. -/
theorem Independent.linearIndependent (isIndependent : Independent size pivots) :
    LinearIndependent Rat
      fun (index : Fin (independent pivots).length) (coordinate : Fin size) =>
        (independent pivots)[index].coefficient coordinate := by
  rw [Fintype.linearIndependent_iff]
  intro factors zero index
  obtain ⟨values, attained⟩ :=
    isIndependent.attain fun other => if other = index then 1 else 0
  have atCoordinate : ∀ coordinate ∈ Finset.range size,
      ∑ index : Fin (independent pivots).length,
        (independent pivots)[index].coefficient coordinate * factors index = 0 := by
    intro coordinate inside
    have vanish := congrFun zero ⟨coordinate, Finset.mem_range.mp inside⟩
    simpa [mul_comm] using vanish
  -- At values for which the other equalities vanish, the combination is its factor.
  have totals : ∀ other : Fin (independent pivots).length,
      ((independent pivots)[other].dense size).total values = if other = index then 1 else 0 := by
    intro other
    have bound : other.val < pivots.length := by
      simpa only [independent, List.length_map] using other.isLt
    have own : (independent pivots)[other] = pivots[other.val].equality := List.getElem_map _
    rw [own, attained other _ (List.getElem?_eq_getElem bound)]
    simp only [Fin.ext_iff]
  have sums := @Placement.sum_mul_multiples size _ values factors
  rw [Finset.sum_eq_zero fun coordinate inside => by rw [atCoordinate coordinate inside, mul_zero],
    Finset.sum_congr rfl fun other _ => by rw [totals other]] at sums
  simpa using sums.symm

theorem Staircase.nodup (staircase : Staircase size pivots) :
    (pivots.map PivotRow.coordinate).Nodup := by
  induction pivots with
  | nil => exact .nil
  | cons first rest ih =>
      rw [List.map_cons, List.nodup_cons, List.mem_map]
      refine ⟨?_, ih staircase.tail⟩
      rintro ⟨pivot, member, same⟩
      exact (staircase.apart pivot member).2 same.symm

end Echelon

namespace Placement

variable {size : Nat} {equalities : List (Equality Rat)}

/-- Elimination fails just if the equalities have no solution, on the line of the equality that
completes the shortest contradiction. Otherwise it leaves rows with the same solutions, for
independent equalities, each row with coefficient one at its own pivot and none at those before. -/
theorem reduced_iff_solvable (fits : ∀ equality ∈ equalities, equality.Fits size)
    (coefficients : Echelon.CoefficientsCount size equalities)
    (constants : Echelon.ConstantsCount size equalities) :
    ((∃ fault, reduced size equalities = .error fault) ↔ ¬Solvable equalities) ∧
    (∀ fault, reduced size equalities = .error fault → ∃ count equality,
      IsLeast {count | ¬Solvable (equalities.take count)} (count + 1) ∧
        equalities[count]? = some equality ∧ fault = .contradiction equality.sourceLine) ∧
    ∀ pivots, reduced size equalities = .ok pivots →
      (∀ values : Nat → Rat, (∀ pivot ∈ pivots, pivot.row.excess values = 0) ↔
        ∀ equality ∈ equalities, equality.Holds values) ∧
      (Echelon.independent pivots).Sublist equalities ∧
      (LinearIndependent Rat
        fun (index : Fin (Echelon.independent pivots).length) (coordinate : Fin size) =>
          (Echelon.independent pivots)[index].coefficient coordinate) ∧
      (pivots.map PivotRow.coordinate).Nodup ∧ Echelon.Staircase size pivots := by
  refine ⟨?_, fun fault failed => ?_, fun pivots isReduced => ?_⟩
  · rw [← Echelon.exists_ofEqualities_iff fits coefficients constants, reduced]
    cases Echelon.ofEqualities size equalities <;> simp [Except.mapError]
  · obtain ⟨refused, refuses, rfl⟩ := Outcome.mapError_eq_error.mp failed
    obtain ⟨count, atCount, least⟩ :=
      Echelon.isLeast_of_ofEqualities_eq_error fits coefficients constants refuses
    exact ⟨count, refused, least, atCount, rfl⟩
  · have built := Outcome.mapError_eq_ok.mp isReduced
    have staircase := Echelon.staircase_of_ofEqualities built
    exact ⟨fun values => Echelon.rows_hold_iff fits coefficients constants built,
      Echelon.sublist_of_ofEqualities built,
      (Echelon.independent_of_ofEqualities built).linearIndependent, staircase.nodup, staircase⟩

def tilted : List (Equality Rat) :=
  [⟨[(0, 2), (1, -4)], 2, 3⟩, ⟨[(1, 1), (2, -1)], 0, 5⟩, ⟨[(0, 1), (2, -2)], 1, 6⟩]

def tiltedRows : List (PivotRow Rat) :=
  [⟨1, ⟨[-1 / 2, 1, 0], -1 / 2⟩, ⟨[(0, 2), (1, -4)], 2, 3⟩⟩,
    ⟨2, ⟨[-1 / 2, 0, 1], -1 / 2⟩, ⟨[(1, 1), (2, -1)], 0, 5⟩⟩]

def clashing : List (Equality Rat) := tilted ++ [⟨[(0, 1), (2, -2)], 4, 9⟩]

theorem reduced_iff_solvable_tilted :
    reduced 3 tilted = .ok tiltedRows ∧
      (∀ values : Nat → Rat, (∀ pivot ∈ tiltedRows, pivot.row.excess values = 0) ↔
        ∀ equality ∈ tilted, equality.Holds values) ∧
      reduced 3 clashing = .error (.contradiction 9) ∧ ¬Solvable clashing := by
  have remainders : Echelon.remainders 3 [] clashing =
      [⟨[2, -4, 0], 2⟩, ⟨[1 / 2, 0, -1], 1 / 2⟩, ⟨[0, 0, 0], 0⟩, ⟨[0, 0, 0], 3⟩] := by
    cbv
  have fits : ∀ equality ∈ clashing, equality.Fits 3 := by
    simp only [clashing, tilted, List.cons_append, List.nil_append, List.forall_mem_cons]
    refine ⟨⟨by decide, by decide⟩, ⟨by decide, by decide⟩, ⟨by decide, by decide⟩,
      ⟨by decide, by decide⟩, by simp⟩
  have coefficients : Echelon.CoefficientsCount 3 clashing := by
    rw [Echelon.CoefficientsCount, remainders]
    simp only [Echelon.coefficientTolerance, Scalar.literal_eq, Scalar.ofNat_eq]
    norm_num
  have constants : Echelon.ConstantsCount 3 clashing := by
    rw [Echelon.ConstantsCount, remainders]
    simp only [Echelon.constantTolerance, Scalar.literal_eq, Scalar.ofNat_eq]
    norm_num
  have isReduced : reduced 3 tilted = .ok tiltedRows := by cbv
  have isRefused : reduced 3 clashing = .error (.contradiction 9) := by cbv
  have part := reduced_iff_solvable (fun _ member => fits _ (List.mem_append_left _ member))
    coefficients.of_append constants.of_append
  have whole := reduced_iff_solvable fits coefficients constants
  exact ⟨isReduced, (part.2.2 _ isReduced).1, isRefused, whole.1.mp ⟨_, isRefused⟩⟩

end Placement

end TransitMap
