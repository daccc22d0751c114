import TransitMap.Proofs.Layout.Echelon

namespace TransitMap

namespace Row

def rest (row : Row K) : Row K := ⟨row.coefficients.tail, row.constant⟩

@[simp] theorem length_rest (row : Row K) :
    row.rest.coefficients.length = row.coefficients.length - 1 :=
  List.length_tail

variable {K : Type} [ExactScalar K] {row pivot : Row K} {values : Nat → K} {size : Nat}

theorem total_eq_leading_add (length : row.coefficients.length = size + 1) :
    row.total values = row.leading * values 0 + row.rest.total fun index => values (index + 1) := by
  obtain ⟨coefficients, constant⟩ := row
  obtain _ | ⟨leading, others⟩ := coefficients
  · simp at length
  · simp only [total, rest, List.tail_cons, List.length_cons, Finset.sum_range_succ', coefficient,
      Row.leading, List.headD_cons, List.getD_cons_succ, List.getD_cons_zero]
    rw [add_comm]

theorem eliminate_eq (pivot row : Row K) :
    pivot.eliminate row = row.rest.subtract (row.leading * (1 / pivot.leading)) pivot.rest := by
  rw [eliminate, ExactScalar.literal_eq, Nat.cast_one]
  rfl

theorem length_eliminate (isPivot : pivot.coefficients.length = size + 1)
    (isRow : row.coefficients.length = size + 1) :
    (pivot.eliminate row).coefficients.length = size := by
  rw [eliminate_eq, length_subtract _ _ _ (by simp [isPivot, isRow]), length_rest, isRow]
  rfl

/-- Elimination adds a multiple of the pivot to a row, such that the first unknown vanishes. -/
theorem total_eliminate (values : Nat → K) (isPivot : pivot.coefficients.length = size + 1)
    (isRow : row.coefficients.length = size + 1) (nonzero : pivot.leading ≠ 0) :
    (pivot.eliminate row).total (fun index => values (index + 1)) =
      row.total values - row.leading / pivot.leading * pivot.total values := by
  rw [eliminate_eq, total_subtract _ (by simp [isPivot, isRow]), total_eq_leading_add isPivot,
    total_eq_leading_add isRow]
  field_simp
  ring

theorem excess_eliminate (values : Nat → K) (isPivot : pivot.coefficients.length = size + 1)
    (isRow : row.coefficients.length = size + 1) (nonzero : pivot.leading ≠ 0) :
    (pivot.eliminate row).excess (fun index => values (index + 1)) =
      row.excess values - row.leading / pivot.leading * pivot.excess values := by
  have constant : (pivot.eliminate row).constant =
      row.constant - row.leading / pivot.leading * pivot.constant := by
    simp only [eliminate_eq, subtract, rest]
    ring
  rw [excess, total_eliminate values isPivot isRow nonzero, constant, excess, excess]
  ring

private theorem foldr_solveLeading (coefficients others : List K) (constant : K)
    (same : coefficients.length = others.length) :
    (coefficients.zip others).foldr (fun entry rest => rest - entry.1 * entry.2) constant =
      constant - ∑ index ∈ Finset.range coefficients.length,
        coefficients.getD index 0 * others.getD index 0 := by
  induction coefficients generalizing others with
  | nil => simp
  | cons coefficient rest ih =>
      obtain _ | ⟨other, others⟩ := others
      · simp at same
      · rw [List.zip_cons_cons, List.foldr_cons, ih others (by simpa using same), List.length_cons,
          Finset.sum_range_succ']
        simp only [List.getD_cons_succ, List.getD_cons_zero]
        ring

theorem solveLeading_eq {others : List K} (isRow : row.coefficients.length = size + 1)
    (same : others.length = size) (nonzero : row.leading ≠ 0)
    (agree : ∀ index < size, others.getD index 0 = values (index + 1))
    (holds : row.excess values = 0) : row.solveLeading others = values 0 := by
  rw [excess, total_eq_leading_add isRow, sub_eq_zero] at holds
  have sums : ∑ index ∈ Finset.range row.coefficients.tail.length,
      row.coefficients.tail.getD index 0 * others.getD index 0 =
        row.rest.total fun index => values (index + 1) := by
    refine Finset.sum_congr rfl fun index member => ?_
    rw [length_rest, isRow] at member
    rw [agree index (Finset.mem_range.mp member), rest, coefficient, ExactScalar.literal_eq,
      Nat.cast_zero]
  rw [solveLeading, foldr_solveLeading _ _ _ (by simp [isRow, same]), sums, ← holds]
  field_simp
  ring

end Row

namespace LinearSystem

variable {K : Type} [ExactScalar K] {rows : List (Row K)}

theorem largest_spec {before : List (Row K)} {place : Nat} {best : Row K}
    (found : before[place]? = some best) (greatest : ∀ row ∈ before, |row.leading| ≤ |best.leading|)
    (rows : List (Row K)) :
    ∃ chosen, (before ++ rows)[largest place |best.leading| before.length rows]? = some chosen ∧
      ∀ row ∈ before ++ rows, |row.leading| ≤ |chosen.leading| := by
  induction rows generalizing before place best with
  | nil => exact ⟨best, by simpa [largest] using found, by simpa using greatest⟩
  | cons row rest ih =>
      have bound := (List.getElem?_eq_some_iff.mp found).1
      rw [List.append_cons, largest, ExactScalar.abs_eq]
      have size : (before ++ [row]).length = before.length + 1 := by simp
      rw [← size]
      split
      · next larger =>
          refine ih (by simp) ?_
          rw [List.forall_mem_append, List.forall_mem_singleton]
          exact ⟨fun other member => (greatest other member).trans larger.le, le_rfl⟩
      · next notLarger =>
          refine ih (by rwa [List.getElem?_append_left bound]) ?_
          rw [List.forall_mem_append, List.forall_mem_singleton]
          exact ⟨greatest, not_lt.mp notLarger⟩

/-- The chosen row has the largest leading coefficient, and the others are the rows besides it. -/
theorem choose_spec (first : Row K) (rest : List (Row K)) :
    ((choose first rest).1 :: (choose first rest).2).Perm (first :: rest) ∧
      ∀ row ∈ first :: rest, |row.leading| ≤ |(choose first rest).1.leading| := by
  have only : [first][0]? = some first := rfl
  obtain ⟨chosen, found, greatest⟩ := largest_spec only (by simp) rest
  unfold choose
  rw [ExactScalar.abs_eq]
  rw [List.length_singleton, List.singleton_append] at found
  split
  · next isFirst =>
      rw [isFirst] at found
      obtain rfl := Option.some.inj found
      exact ⟨.refl _, greatest⟩
  · next place isPlace =>
      rw [isPlace, List.getElem?_cons_succ] at found
      obtain ⟨bound, rfl⟩ := List.getElem?_eq_some_iff.mp found
      have isChosen : rest.getD place first = rest[place] := by
        simp [List.getD_eq_getElem?_getD, bound]
      rw [isChosen]
      refine ⟨?_, greatest⟩
      have swapped := (List.set_perm_cons_eraseIdx bound first).cons rest[place]
      exact (swapped.trans (.swap _ _ _)).trans ((List.getElem_cons_eraseIdx_perm bound).cons first)

theorem length_of_solve? {values : List K} (solved : solve? rows = some values) :
    values.length = rows.length := by
  fun_induction solve? rows generalizing values
  case case1 =>
    obtain rfl := Option.some.inj solved
    rfl
  case case2 => cases solved
  case case3 first rest pivot nonzero ih =>
    obtain ⟨others, found, rfl⟩ := Option.map_eq_some_iff.mp solved
    simpa [length_choose] using ih found

def prepend (first : K) (values : Nat → K) : Nat → K
  | 0 => first
  | index + 1 => values index

theorem total_prepend {row : Row K} {size : Nat} {values : Nat → K} (first : K)
    (length : row.coefficients.length = size + 1) :
    row.total (prepend first values) = row.leading * first + row.rest.total values :=
  row.total_eq_leading_add length

/-- Only zeros make the sums of all rows zero. -/
def Regular (rows : List (Row K)) : Prop :=
  ∀ values, (∀ row ∈ rows, row.total values = 0) → ∀ index < rows.length, values index = 0

theorem Regular.exists_leading {size : Nat} (regular : Regular rows) (nonempty : 0 < rows.length)
    (lengths : ∀ row ∈ rows, row.coefficients.length = size + 1) :
    ∃ row ∈ rows, row.leading ≠ 0 := by
  by_contra none
  push Not at none
  -- The first unknown is free, so that one for it makes all sums zero as well.
  have unit := regular (fun index => if index = 0 then 1 else 0) (fun row member => ?_) 0 nonempty
  · exact one_ne_zero unit
  · rw [Row.total_eq_leading_add (lengths row member), none row member]
    simp [Row.total]

theorem Regular.leading_choose_ne_zero {first : Row K} {rest : List (Row K)}
    (regular : Regular (first :: rest))
    (square : ∀ row ∈ first :: rest, row.coefficients.length = rest.length + 1) :
    (choose first rest).1.leading ≠ 0 := by
  obtain ⟨row, member, nonzero⟩ := regular.exists_leading (by simp) square
  have size := (choose_spec first rest).2 row member
  intro zero
  rw [zero, abs_zero] at size
  exact nonzero (abs_nonpos_iff.mp size)

theorem Regular.eliminate {pivot : Row K} {others : List (Row K)} {size : Nat}
    (regular : Regular rows) (perm : (pivot :: others).Perm rows)
    (lengths : ∀ row ∈ rows, row.coefficients.length = size + 1) (nonzero : pivot.leading ≠ 0) :
    Regular (others.map pivot.eliminate) := by
  intro values zero index bound
  have isPivot := lengths pivot (perm.mem_iff.mp List.mem_cons_self)
  -- The first unknown is what makes the sum of the pivot zero.
  let extended := prepend (-pivot.rest.total values / pivot.leading) values
  have pivotZero : pivot.total extended = 0 := by
    rw [total_prepend _ isPivot]
    field_simp
    ring
  refine regular extended (fun row member => ?_) (index + 1) ?_
  · rcases List.mem_cons.mp (perm.mem_iff.mpr member) with rfl | other
    · exact pivotZero
    · have reduced : (pivot.eliminate row).total values = 0 :=
        zero _ (List.mem_map_of_mem other)
      have total := Row.total_eliminate extended isPivot (lengths row member) nonzero
      rw [pivotZero, mul_zero, sub_zero] at total
      exact total.symm.trans reduced
  · rw [List.length_map] at bound
    rw [← perm.length_eq, List.length_cons]
    omega

theorem square_eliminate {pivot : Row K} {others : List (Row K)} {size : Nat}
    (count : others.length = size) (isPivot : pivot.coefficients.length = size + 1)
    (isRow : ∀ row ∈ others, row.coefficients.length = size + 1) :
    ∀ row ∈ others.map pivot.eliminate,
      row.coefficients.length = (others.map pivot.eliminate).length := by
  rw [List.forall_mem_map, List.length_map, count]
  exact fun row member => Row.length_eliminate isPivot (isRow row member)

/-- If only zeros make all sums zero, there is something to eliminate with in each column, and the
values for which the equations hold are found. -/
theorem solve?_eq_some (values : Nat → K)
    (square : ∀ row ∈ rows, row.coefficients.length = rows.length) (regular : Regular rows)
    (hold : ∀ row ∈ rows, row.excess values = 0) :
    solve? rows = some ((List.range rows.length).map values) := by
  fun_induction solve? rows generalizing values
  case case1 => rfl
  case case2 first rest pivot zero =>
      exact absurd (by simpa using zero) (regular.leading_choose_ne_zero square)
  case case3 first rest pivot nonzero ih =>
      obtain ⟨perm, -⟩ := choose_spec first rest
      have others := length_choose first rest
      change (pivot :: (choose first rest).2).Perm (first :: rest) at perm
      generalize (choose first rest).2 = remaining at *
      clear_value pivot
      have nonzero : pivot.leading ≠ 0 := by simpa using nonzero
      have isPivot := perm.mem_iff.mp (List.mem_cons_self (a := pivot) (l := remaining))
      have isRow : ∀ row ∈ remaining, row ∈ first :: rest := fun row member =>
        perm.mem_iff.mp (List.mem_cons_of_mem _ member)
      -- Behind the pivot, the equations hold for the other unknowns and determine them.
      have solved := ih (fun index => values (index + 1)) ?square
        (regular.eliminate perm square nonzero) ?hold
      case square =>
        exact square_eliminate others (square _ isPivot) fun row member =>
          square row (isRow row member)
      case hold =>
        intro row member
        obtain ⟨original, isOther, rfl⟩ := List.mem_map.mp member
        have isOriginal := isRow original isOther
        rw [Row.excess_eliminate values (square _ isPivot) (square _ isOriginal) nonzero,
          hold _ isPivot, hold _ isOriginal, mul_zero, sub_zero]
      rw [List.length_map, others] at solved
      have leading : pivot.solveLeading
          ((List.range rest.length).map fun index => values (index + 1)) = values 0 :=
        Row.solveLeading_eq (square _ isPivot) (by simp) nonzero
          (fun index bound => by simp [bound]) (hold _ isPivot)
      rw [solved, Option.map_some, leading, List.length_cons, List.range_succ_eq_map, List.map_cons,
        List.map_map]
      rfl

theorem Regular.exists_values (regular : Regular rows)
    (square : ∀ row ∈ rows, row.coefficients.length = rows.length) :
    ∃ values : Nat → K, ∀ row ∈ rows, row.excess values = 0 := by
  fun_induction solve? rows
  case case1 => exact ⟨fun _ => 0, by simp⟩
  case case2 first rest pivot zero =>
      exact absurd (by simpa using zero) (regular.leading_choose_ne_zero square)
  case case3 first rest pivot nonzero ih =>
      obtain ⟨perm, -⟩ := choose_spec first rest
      have others := length_choose first rest
      change (pivot :: (choose first rest).2).Perm (first :: rest) at perm
      generalize (choose first rest).2 = remaining at *
      clear_value pivot
      have nonzero : pivot.leading ≠ 0 := by simpa using nonzero
      have isPivot := square pivot (perm.mem_iff.mp List.mem_cons_self)
      have isRow : ∀ row ∈ remaining, row.coefficients.length = rest.length + 1 :=
        fun row member => square row (perm.mem_iff.mp (List.mem_cons_of_mem _ member))
      have lengths := square_eliminate others isPivot isRow
      obtain ⟨values, hold⟩ := ih (regular.eliminate perm square nonzero) lengths
      -- The first unknown is what the equation of the pivot leaves for it.
      let extended := prepend ((pivot.constant - pivot.rest.total values) / pivot.leading) values
      have pivotHolds : pivot.excess extended = 0 := by
        rw [Row.excess, total_prepend _ isPivot]
        field_simp
        ring
      refine ⟨extended, fun row member => ?_⟩
      rcases List.mem_cons.mp (perm.mem_iff.mpr member) with rfl | other
      · exact pivotHolds
      · have reduced : (pivot.eliminate row).excess values = 0 :=
          hold _ (List.mem_map_of_mem other)
        have excess := Row.excess_eliminate extended isPivot (isRow row other) nonzero
        rw [pivotHolds, mul_zero, sub_zero] at excess
        exact excess.symm.trans reduced

theorem regular_of_solve? {values : List K}
    (square : ∀ row ∈ rows, row.coefficients.length = rows.length)
    (solved : solve? rows = some values) : Regular rows := by
  fun_induction solve? rows generalizing values
  case case1 => simp [Regular]
  case case2 => cases solved
  case case3 first rest pivot nonzero ih =>
      obtain ⟨others, found, -⟩ := Option.map_eq_some_iff.mp solved
      obtain ⟨perm, -⟩ := choose_spec first rest
      have count := length_choose first rest
      change (pivot :: (choose first rest).2).Perm (first :: rest) at perm
      generalize (choose first rest).2 = remaining at *
      clear_value pivot
      have nonzero : pivot.leading ≠ 0 := by simpa using nonzero
      have isPivot := square pivot (perm.mem_iff.mp List.mem_cons_self)
      have isRow : ∀ row ∈ remaining, row.coefficients.length = rest.length + 1 :=
        fun row member => square row (perm.mem_iff.mp (List.mem_cons_of_mem _ member))
      have lengths := square_eliminate count isPivot isRow
      intro zeros zero
      have pivotZero := zero pivot (perm.mem_iff.mp List.mem_cons_self)
      -- Behind the first unknown, the rows that are left have only zeros.
      have behind : ∀ index < rest.length, zeros (index + 1) = 0 := by
        have reduced := ih lengths found (fun index => zeros (index + 1)) ?_
        · simpa [count] using reduced
        · rw [List.forall_mem_map]
          intro row member
          rw [Row.total_eliminate zeros isPivot (isRow row member) nonzero, pivotZero, mul_zero,
            sub_zero]
          exact zero row (perm.mem_iff.mp (List.mem_cons_of_mem _ member))
      have leading : zeros 0 = 0 := by
        have others : pivot.rest.total (fun index => zeros (index + 1)) = 0 := by
          refine Finset.sum_eq_zero fun index member => ?_
          rw [Row.length_rest, isPivot] at member
          exact mul_eq_zero_of_right _ (behind index (Finset.mem_range.mp member))
        rw [Row.total_eq_leading_add isPivot, others, add_zero] at pivotZero
        exact (mul_eq_zero.mp pivotZero).resolve_left nonzero
      intro index bound
      cases index with
      | zero => exact leading
      | succ index => exact behind index (by simpa using bound)

end LinearSystem

end TransitMap
