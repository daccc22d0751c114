import TransitMap.Proofs.Layout.WholeRow

/-!
Equalities between the difference of two coordinates and a whole number. Elimination keeps them what
they are: a reduced row leads from its pivot to a later coordinate, and a row that is reduced by it
has the later coordinate where it had the pivot.
-/

namespace TransitMap

open scoped ExactScalar

variable {size first second next coordinate : Nat} {row : Row Rat} {pivot : PivotRow Rat}
  {pivots : List (PivotRow Rat)} {equality : Equality Rat} {equalities : List (Equality Rat)}
  {values : Nat → Rat}

namespace Row

/-- The row says by which whole number one of the first `size` values exceeds another one, or that a
value exceeds itself. -/
structure IsDifference (size : Nat) (row : Row Rat) (first second : Nat) : Prop where
  length : row.coefficients.length = size
  first_lt : first < size
  second_lt : second < size
  total : ∀ values, row.total values = values first - values second
  whole : Scalar.IsWhole row.constant

theorem total_update_zero (bound : coordinate < row.coefficients.length) :
    row.total (Function.update 0 coordinate 1) = row.coefficient coordinate := by
  rw [total_update bound]
  simp [total]

namespace IsDifference

theorem coefficient (isDifference : row.IsDifference size first second)
    (bound : coordinate < size) : row.coefficient coordinate =
      (if first = coordinate then 1 else 0) - if second = coordinate then 1 else 0 := by
  rw [← total_update_zero (isDifference.length.symm ▸ bound), isDifference.total]
  simp [Function.update_apply]

theorem abs_eq_one (isDifference : row.IsDifference size first second) {value : Rat}
    (atCoordinate : row.coefficients[coordinate]? = some value) (nonzero : value ≠ 0) :
    |value| = 1 := by
  have bound : coordinate < size :=
    isDifference.length ▸ (List.getElem?_eq_some_iff.mp atCoordinate).1
  have isValue := isDifference.coefficient bound
  rw [Row.coefficient_eq, atCoordinate, Option.getD_some] at isValue
  rw [isValue] at nonzero ⊢
  split at nonzero <;> split at nonzero <;> simp_all

theorem divide_one (isDifference : row.IsDifference size first second) :
    (row.divide 1).IsDifference size first second where
  length := (length_divide row 1).trans isDifference.length
  first_lt := isDifference.first_lt
  second_lt := isDifference.second_lt
  total values := by rw [total_divide, div_one, isDifference.total]
  whole := by simpa [divide] using isDifference.whole

theorem divide_neg_one (isDifference : row.IsDifference size first second) :
    (row.divide (-1)).IsDifference size second first where
  length := (length_divide row (-1)).trans isDifference.length
  first_lt := isDifference.second_lt
  second_lt := isDifference.first_lt
  total values := by
    rw [total_divide, isDifference.total]
    ring
  whole := by simpa [divide, div_neg] using isDifference.whole.neg

theorem isWhole (isDifference : row.IsDifference size first second) : row.IsWhole size := by
  refine ⟨isDifference.length, fun coordinate => ?_, isDifference.whole⟩
  by_cases bound : coordinate < size
  · rw [isDifference.coefficient bound]
    split <;> split <;> exact (Scalar.IsWhole.natCast _).sub (.natCast _)
  · rw [coefficient_of_le (isDifference.length ▸ not_lt.mp bound)]
    exact .natCast 0

theorem le_of_clear (isDifference : row.IsDifference size first second) (apart : first ≠ second)
    (clear : ∀ earlier < coordinate, row.coefficient earlier = 0) :
    coordinate ≤ first ∧ coordinate ≤ second := by
  refine ⟨not_lt.mp fun before => ?_, not_lt.mp fun before => ?_⟩
  · have zero := clear first before
    rw [isDifference.coefficient isDifference.first_lt] at zero
    simp [apart.symm] at zero
  · have zero := clear second before
    rw [isDifference.coefficient isDifference.second_lt] at zero
    simp [apart] at zero

end IsDifference

end Row

namespace PivotRow

/-- The row of the pivot leads to a later coordinate. -/
structure LeadsTo (size : Nat) (pivot : PivotRow Rat) (next : Nat) : Prop where
  later : pivot.coordinate < next
  row : pivot.row.IsDifference size pivot.coordinate next

def Leads (size : Nat) (pivot : PivotRow Rat) : Prop := ∃ next, pivot.LeadsTo size next

/-- Where a coordinate is after the row of a pivot, which leads to `next`, has reduced a row. -/
def redirect (pivot : PivotRow Rat) (next coordinate : Nat) : Nat :=
  if coordinate = pivot.coordinate then next else coordinate

theorem LeadsTo.redirect_lt (leads : pivot.LeadsTo size next) (bound : coordinate < size) :
    pivot.redirect next coordinate < size := by
  unfold redirect
  split
  · exact leads.row.second_lt
  · exact bound

end PivotRow

theorem Row.IsDifference.reduceBy (isDifference : row.IsDifference size first second)
    (leads : pivot.LeadsTo size next) :
    (row.reduceBy pivot).IsDifference size (pivot.redirect next first)
      (pivot.redirect next second) := by
  have same := isDifference.length.trans leads.row.length.symm
  have factor := isDifference.coefficient leads.row.first_lt
  rw [Row.reduceBy_eq_subtract same]
  refine ⟨?_, leads.redirect_lt isDifference.first_lt, leads.redirect_lt isDifference.second_lt,
    fun values => ?_, ?_⟩
  · rw [Row.length_subtract row pivot.row _ same, isDifference.length]
  · rw [Row.total_subtract _ same, isDifference.total, leads.row.total, factor, PivotRow.redirect,
      PivotRow.redirect]
    by_cases isFirst : first = pivot.coordinate
    · by_cases isSecond : second = pivot.coordinate <;> simp [isFirst, isSecond]
    · by_cases isSecond : second = pivot.coordinate <;> simp [isFirst, isSecond]
  · exact isDifference.whole.sub
      ((isDifference.isWhole.coefficient pivot.coordinate).mul leads.row.whole)

theorem Row.IsDifference.reduce (isDifference : row.IsDifference size first second)
    (leads : ∀ pivot ∈ pivots, pivot.Leads size) :
    ∃ first second, (row.reduce pivots).IsDifference size first second := by
  induction pivots generalizing row first second with
  | nil => exact ⟨first, second, isDifference⟩
  | cons pivot rest ih =>
      rw [List.forall_mem_cons] at leads
      obtain ⟨next, leadsTo⟩ := leads.1
      exact ih (isDifference.reduceBy leadsTo) leads.2

namespace Echelon

theorem pairwise_entries (coefficients : List Rat) :
    (entries coefficients).Pairwise fun earlier later => earlier.1 < later.1 := by
  refine List.Pairwise.filter _ ?_
  rw [List.pairwise_map]
  have ascending := List.pairwise_lt_range' (s := 0) (n := coefficients.length)
  rw [← List.zipIdx_map_snd, List.pairwise_map] at ascending
  exact ascending

theorem pivot?_eq_head? (units : ∀ entry ∈ entries row.coefficients, isUnit entry.2 = true) :
    pivot? row = (entries row.coefficients).head? := by
  unfold pivot?
  cases same : entries row.coefficients with
  | nil => rfl
  | cons first rest =>
      rw [same] at units
      simp only [List.find?_cons, units first List.mem_cons_self, List.head?_cons]

theorem isUnit_of_abs_eq_one {coefficient : Rat} (unit : |coefficient| = 1) :
    isUnit coefficient = true := by
  simp only [isUnit, ExactScalar.abs_eq, unit, Scalar.literal_eq, Nat.cast_one, sub_self, abs_zero,
    decide_eq_true_eq]
  exact coefficientTolerance_pos

theorem isUnit_of_mem_entries (isDifference : row.IsDifference size first second) :
    ∀ entry ∈ entries row.coefficients, isUnit entry.2 = true := by
  rintro ⟨coordinate, value⟩ member
  obtain ⟨atCoordinate, nonzero⟩ := mem_entries member
  exact isUnit_of_abs_eq_one (isDifference.abs_eq_one atCoordinate nonzero)

theorem mem_entries_of_ne_zero (isDifference : row.IsDifference size first second)
    (counts : row.coefficient coordinate ≠ 0) :
    (coordinate, row.coefficient coordinate) ∈ entries row.coefficients := by
  rw [Row.coefficient_eq] at counts ⊢
  cases atCoordinate : row.coefficients[coordinate]? with
  | none => exact absurd (by rw [atCoordinate]; rfl) counts
  | some value =>
      rw [atCoordinate] at counts
      have unit := isDifference.abs_eq_one atCoordinate counts
      exact mem_entries_iff.mpr ⟨atCoordinate, unit ▸ coefficientTolerance_le_one⟩

theorem coefficient_before_pivot (isDifference : row.IsDifference size first second)
    {value : Rat} (found : pivot? row = some (coordinate, value)) :
    ∀ earlier < coordinate, row.coefficient earlier = 0 := by
  rw [pivot?_eq_head? (isUnit_of_mem_entries isDifference)] at found
  obtain ⟨rest, same⟩ := List.head?_eq_some_iff.mp found
  have ascending := pairwise_entries row.coefficients
  rw [same] at ascending
  intro earlier before
  by_contra counts
  have member := mem_entries_of_ne_zero isDifference counts
  rw [same] at member
  rcases List.mem_cons.mp member with isFirst | isLater
  · exact before.ne (Prod.mk.inj isFirst).1
  · exact before.not_gt ((List.pairwise_cons.mp ascending).1 _ isLater)

theorem leads_of_pivot? (isDifference : row.IsDifference size first second) {value : Rat}
    (found : pivot? row = some (coordinate, value)) (equality : Equality Rat) :
    (⟨coordinate, row.divide value, equality⟩ : PivotRow Rat).Leads size := by
  obtain ⟨atPivot, nonzero⟩ := pivot?_eq_some found
  have bound : coordinate < size :=
    isDifference.length ▸ (List.getElem?_eq_some_iff.mp atPivot).1
  have isValue := isDifference.coefficient bound
  rw [Row.coefficient_eq, atPivot, Option.getD_some] at isValue
  have apart : first ≠ second := by
    rintro rfl
    exact nonzero (by simpa using isValue)
  obtain ⟨beforeFirst, beforeSecond⟩ :=
    isDifference.le_of_clear apart (coefficient_before_pivot isDifference found)
  by_cases isFirst : first = coordinate
  · subst isFirst
    obtain rfl : value = 1 := by simpa [apart.symm] using isValue
    exact ⟨second, lt_of_le_of_ne beforeSecond apart, isDifference.divide_one⟩
  · obtain rfl : second = coordinate := by
      by_contra isSecond
      exact nonzero (by simpa [isFirst, isSecond] using isValue)
    obtain rfl : value = -1 := by simpa [apart] using isValue
    exact ⟨first, lt_of_le_of_ne beforeFirst apart.symm, isDifference.divide_neg_one⟩

end Echelon

def Equality.IsDifference (size : Nat) (equality : Equality Rat) : Prop :=
  ∃ first second, (equality.dense size).IsDifference size first second

namespace Echelon

/-- Every row that is left of an equality is a difference, and every reduced row leads on. -/
theorem differences_of_elimination
    (differences : ∀ equality ∈ equalities, equality.IsDifference size) :
    (∀ row ∈ remainders size [] equalities, ∃ first second, row.IsDifference size first second) ∧
      ∀ pivots, ofEqualities size equalities = .ok pivots → ∀ pivot ∈ pivots, pivot.Leads size := by
  refine holds_of_elimination (fun equality member pivots leads => ?_)
    (fun row _ isLeft coordinate value found equality => ?_) (by simp)
  · obtain ⟨first, second, isDense⟩ := differences equality member
    exact isDense.reduce leads
  · obtain ⟨first, second, isDifference⟩ := isLeft
    exact leads_of_pivot? isDifference found equality

theorem leads_of_ofEqualities (differences : ∀ equality ∈ equalities, equality.IsDifference size)
    (built : ofEqualities size equalities = .ok pivots) : ∀ pivot ∈ pivots, pivot.Leads size :=
  (differences_of_elimination differences).2 pivots built

theorem isWhole_of_differences (differences : ∀ equality ∈ equalities, equality.IsDifference size) :
    ∀ row ∈ remainders size [] equalities, row.IsWhole size := by
  intro row member
  obtain ⟨first, second, isDifference⟩ := (differences_of_elimination differences).1 row member
  exact isDifference.isWhole

theorem coefficientsCount_of_differences
    (differences : ∀ equality ∈ equalities, equality.IsDifference size) :
    CoefficientsCount size equalities :=
  coefficientsCount_of_isWhole (isWhole_of_differences differences)

theorem constantsCount_of_differences
    (differences : ∀ equality ∈ equalities, equality.IsDifference size) :
    ConstantsCount size equalities :=
  constantsCount_of_isWhole (isWhole_of_differences differences)

theorem rows_hold_iff_of_differences (fits : ∀ equality ∈ equalities, equality.Fits size)
    (differences : ∀ equality ∈ equalities, equality.IsDifference size)
    (built : ofEqualities size equalities = .ok pivots) :
    (∀ pivot ∈ pivots, pivot.row.excess values = 0) ↔
      ∀ equality ∈ equalities, equality.Holds values :=
  rows_hold_iff fits (coefficientsCount_of_differences differences)
    (constantsCount_of_differences differences) built

/-- Where all rows vanish, what vanishes at the coordinates from some place on that are no pivots
vanishes from there on: the row of a pivot leads to a later coordinate. -/
theorem eq_zero_of_free (leads : ∀ pivot ∈ pivots, pivot.Leads size)
    (vanish : ∀ pivot ∈ pivots, pivot.row.total values = 0) {start : Nat}
    (free : ∀ coordinate, start ≤ coordinate → coordinate < size →
      (∀ pivot ∈ pivots, pivot.coordinate ≠ coordinate) → values coordinate = 0) :
    ∀ coordinate, start ≤ coordinate → coordinate < size → values coordinate = 0 := by
  intro coordinate behind bound
  induction left : size - coordinate using Nat.strong_induction_on generalizing coordinate with
  | _ left ih =>
      by_cases isFree : ∀ pivot ∈ pivots, pivot.coordinate ≠ coordinate
      · exact free coordinate behind bound isFree
      push Not at isFree
      obtain ⟨pivot, member, rfl⟩ := isFree
      obtain ⟨next, leadsTo⟩ := leads pivot member
      have later := leadsTo.later
      have inside := leadsTo.row.second_lt
      have zero := vanish pivot member
      have nextZero := ih (size - next) (by omega) next (by omega) inside rfl
      rwa [leadsTo.row.total, nextZero, sub_zero] at zero

/-- A coordinate is a pivot just if it agrees with a later one wherever all rows vanish. -/
theorem isPivot_iff (staircase : Staircase size pivots) (leads : ∀ pivot ∈ pivots, pivot.Leads size)
    (bound : coordinate < size) :
    (∃ pivot ∈ pivots, pivot.coordinate = coordinate) ↔
      ∃ later, coordinate < later ∧ later < size ∧
        ∀ values : Nat → Rat, (∀ pivot ∈ pivots, pivot.row.total values = 0) →
          values coordinate = values later := by
  constructor
  · rintro ⟨pivot, member, rfl⟩
    obtain ⟨next, leadsTo⟩ := leads pivot member
    refine ⟨next, leadsTo.later, leadsTo.row.second_lt, fun values vanish => ?_⟩
    have zero := vanish pivot member
    rwa [leadsTo.row.total, sub_eq_zero] at zero
  · rintro ⟨later, behind, inside, agree⟩
    by_contra noPivot
    push Not at noPivot
    -- Otherwise it can be one while everything behind it is zero.
    obtain ⟨values, vanish, chosen⟩ :=
      staircase.exists_values (fun _ => 0) (Function.update 0 coordinate 1)
    have one : values coordinate = 1 := by rw [chosen coordinate noPivot, Function.update_self]
    have zero : values later = 0 := by
      refine eq_zero_of_free leads vanish (fun other isBehind _ isFree => ?_) later
        (Nat.succ_le_of_lt behind) inside
      rw [chosen other isFree, Function.update_of_ne (by omega), Pi.zero_apply]
    rw [agree values vanish, zero] at one
    exact zero_ne_one one

end Echelon

end TransitMap
