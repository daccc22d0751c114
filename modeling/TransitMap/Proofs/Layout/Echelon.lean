import Mathlib.Algebra.BigOperators.Field
import Mathlib.Algebra.BigOperators.Intervals
import TransitMap.Layout.Echelon
import TransitMap.Proofs.ExactScalar
import TransitMap.Proofs.Layout.Equality
import TransitMap.Proofs.Outcome

/-!
Elimination over exact numbers. Reduced rows are combinations of the equalities, each with
coefficient one at its pivot and none at the pivots before it, and the equalities hold where the
reduced rows and whatever is left of each equality do.
-/

namespace TransitMap

namespace Row

variable {K : Type} [ExactScalar K] {row other : Row K} {values : Nat → K}

def total (row : Row K) (values : Nat → K) : K :=
  ∑ coordinate ∈ Finset.range row.coefficients.length, row.coefficient coordinate * values coordinate

def excess (row : Row K) (values : Nat → K) : K := row.total values - row.constant

theorem coefficient_eq (row : Row K) (coordinate : Nat) :
    row.coefficient coordinate = row.coefficients[coordinate]?.getD 0 := by
  simp [coefficient, List.getD_eq_getElem?_getD]

theorem coefficient_of_le {coordinate : Nat} (outside : row.coefficients.length ≤ coordinate) :
    row.coefficient coordinate = 0 := by
  rw [coefficient_eq, List.getElem?_eq_none outside, Option.getD_none]

@[simp] theorem length_subtract (row other : Row K) (factor : K)
    (same : row.coefficients.length = other.coefficients.length) :
    (row.subtract factor other).coefficients.length = row.coefficients.length := by
  simp [subtract, same]

@[simp] theorem length_divide (row : Row K) (divisor : K) :
    (row.divide divisor).coefficients.length = row.coefficients.length := by
  simp [divide]

theorem coefficient_subtract (factor : K)
    (same : row.coefficients.length = other.coefficients.length) (coordinate : Nat) :
    (row.subtract factor other).coefficient coordinate =
      row.coefficient coordinate - factor * other.coefficient coordinate := by
  simp only [coefficient_eq, subtract, List.getElem?_zipWith]
  by_cases bound : coordinate < row.coefficients.length
  · have otherBound : coordinate < other.coefficients.length := same ▸ bound
    simp [bound, otherBound]
  · have otherBound : ¬coordinate < other.coefficients.length := same ▸ bound
    simp [List.getElem?_eq_none (Nat.not_lt.mp bound),
      List.getElem?_eq_none (Nat.not_lt.mp otherBound)]

theorem subtract_zero (same : row.coefficients.length = other.coefficients.length) :
    row.subtract 0 other = row := by
  obtain ⟨coefficients, constant⟩ := row
  simp only [subtract, zero_mul, sub_zero, Row.mk.injEq, and_true]
  exact List.ext_getElem (by simpa using same.le) fun index _ _ => List.getElem_zipWith

theorem reduceBy_eq_subtract {pivot : PivotRow K}
    (same : row.coefficients.length = pivot.row.coefficients.length) :
    row.reduceBy pivot = row.subtract (row.coefficient pivot.coordinate) pivot.row := by
  unfold reduceBy
  dsimp only
  split
  · next zero => rw [eq_of_beq zero, ExactScalar.literal_eq, Nat.cast_zero, subtract_zero same]
  · rfl

theorem coefficient_divide (divisor : K) (coordinate : Nat) :
    (row.divide divisor).coefficient coordinate = row.coefficient coordinate / divisor := by
  simp only [coefficient_eq, divide, List.getElem?_map]
  cases row.coefficients[coordinate]? <;> simp

theorem total_subtract (factor : K)
    (same : row.coefficients.length = other.coefficients.length) :
    (row.subtract factor other).total values = row.total values - factor * other.total values := by
  simp only [total, length_subtract row other factor same, coefficient_subtract factor same,
    ← same, Finset.mul_sum, ← Finset.sum_sub_distrib]
  exact Finset.sum_congr rfl fun coordinate _ => by ring

theorem total_divide (divisor : K) :
    (row.divide divisor).total values = row.total values / divisor := by
  simp only [total, length_divide, coefficient_divide, Finset.sum_div]
  exact Finset.sum_congr rfl fun coordinate _ => by ring

theorem excess_subtract (factor : K)
    (same : row.coefficients.length = other.coefficients.length) :
    (row.subtract factor other).excess values =
      row.excess values - factor * other.excess values := by
  simp only [excess, total_subtract factor same]
  simp only [subtract]
  ring

theorem excess_divide (divisor : K) :
    (row.divide divisor).excess values = row.excess values / divisor := by
  simp only [excess, total_divide]
  simp only [divide]
  ring

/-- Rows of one length for which something holds that combinations keep. -/
structure Closed (size : Nat) (holds : Row K → Prop) : Prop where
  length : ∀ row, holds row → row.coefficients.length = size
  subtract : ∀ row other factor, holds row → holds other → holds (row.subtract factor other)
  divide : ∀ row divisor, holds row → holds (row.divide divisor)

theorem closed_length (size : Nat) : Closed size fun row : Row K => row.coefficients.length = size where
  length row holds := holds
  subtract row other factor holds otherHolds := by
    rw [length_subtract row other factor (holds.trans otherHolds.symm), holds]
  divide row divisor holds := by rw [length_divide, holds]

private theorem closed_of_linear (size : Nat) {measure : Row K → K}
    (subtract : ∀ row other factor, row.coefficients.length = other.coefficients.length →
      measure (row.subtract factor other) = measure row - factor * measure other)
    (divide : ∀ row divisor, measure (row.divide divisor) = measure row / divisor) :
    Closed size fun row => row.coefficients.length = size ∧ measure row = 0 where
  length row holds := holds.1
  subtract row other factor holds otherHolds := by
    refine ⟨(closed_length size).subtract row other factor holds.1 otherHolds.1, ?_⟩
    rw [subtract row other factor (holds.1.trans otherHolds.1.symm), holds.2, otherHolds.2,
      mul_zero, sub_zero]
  divide row divisor holds := by
    refine ⟨(closed_length size).divide row divisor holds.1, ?_⟩
    rw [divide, holds.2, zero_div]

theorem closed_total (size : Nat) (values : Nat → K) :
    Closed size fun row => row.coefficients.length = size ∧ row.total values = 0 :=
  closed_of_linear size (fun _ _ factor same => total_subtract factor same)
    fun _ divisor => total_divide divisor

theorem closed_excess (size : Nat) (values : Nat → K) :
    Closed size fun row => row.coefficients.length = size ∧ row.excess values = 0 :=
  closed_of_linear size (fun _ _ factor same => excess_subtract factor same)
    fun _ divisor => excess_divide divisor

theorem closed_coefficient (size coordinate : Nat) :
    Closed size fun row : Row K => row.coefficients.length = size ∧ row.coefficient coordinate = 0 :=
  closed_of_linear size (fun _ _ factor same => coefficient_subtract factor same coordinate)
    fun _ divisor => coefficient_divide divisor coordinate

namespace Closed

variable {size : Nat} {holds : Row K → Prop} {pivots : List (PivotRow K)}

theorem reduceBy (closed : Closed size holds) {pivot : PivotRow K} (isRow : holds row)
    (isPivot : holds pivot.row) : holds (row.reduceBy pivot) := by
  rw [reduceBy_eq_subtract ((closed.length row isRow).trans (closed.length pivot.row isPivot).symm)]
  exact closed.subtract row pivot.row _ isRow isPivot

theorem reduce (closed : Closed size holds) (isRow : holds row)
    (arePivots : ∀ pivot ∈ pivots, holds pivot.row) : holds (row.reduce pivots) := by
  induction pivots generalizing row with
  | nil => exact isRow
  | cons pivot rest ih =>
      exact ih (closed.reduceBy isRow (arePivots pivot List.mem_cons_self))
        fun other member => arePivots other (List.mem_cons_of_mem _ member)

end Closed

end Row

open scoped ExactScalar

namespace Equality

variable {values : Nat → Rat} {size : Nat} {equality : Equality Rat}

/-- An equality with one term for each of its coordinates, which are among the first `size`. -/
structure Fits (size : Nat) (equality : Equality Rat) : Prop where
  distinct : (equality.terms.map Prod.fst).Nodup
  bound : ∀ term ∈ equality.terms, term.1 < size

theorem Fits.mono {greater : Nat} (fits : equality.Fits size) (le : size ≤ greater) :
    equality.Fits greater :=
  ⟨fits.distinct, fun term member => (fits.bound term member).trans_le le⟩

@[simp] theorem length_dense (equality : Equality Rat) (size : Nat) :
    (equality.dense size).coefficients.length = size := by
  simp [dense]

theorem coefficient_dense {coordinate : Nat} (bound : coordinate < size) :
    (equality.dense size).coefficient coordinate = equality.coefficient coordinate := by
  simp [Row.coefficient_eq, dense, bound]

private theorem sum_lookup {terms : List (Nat × Rat)} (distinct : (terms.map Prod.fst).Nodup)
    (bound : ∀ term ∈ terms, term.1 < size) :
    ∑ coordinate ∈ Finset.range size, (terms.lookup coordinate).getD 0 * values coordinate =
      sum values terms := by
  induction terms with
  | nil => simp
  | cons term rest ih =>
      obtain ⟨own, coefficient⟩ := term
      rw [List.map_cons, List.nodup_cons] at distinct
      have absent : rest.lookup own = none := by
        rw [List.lookup_eq_none_iff]
        intro entry member
        have other : own ≠ entry.1 := by
          rintro rfl
          exact distinct.1 (List.mem_map.mpr ⟨entry, member, rfl⟩)
        simpa using other
      have apart : ∀ coordinate,
          (((own, coefficient) :: rest).lookup coordinate).getD 0 * values coordinate =
            (if coordinate = own then coefficient * values own else 0) +
              (rest.lookup coordinate).getD 0 * values coordinate := by
        intro coordinate
        rw [List.lookup_cons]
        by_cases same : coordinate = own
        · subst same
          simp [absent]
        · simp [beq_eq_false_iff_ne.mpr same, same]
      have isIn : own ∈ Finset.range size :=
        Finset.mem_range.mpr (bound (own, coefficient) List.mem_cons_self)
      rw [Finset.sum_congr rfl fun coordinate _ => apart coordinate, Finset.sum_add_distrib,
        Finset.sum_ite_eq', if_pos isIn, sum_cons,
        ih distinct.2 fun other member => bound other (List.mem_cons_of_mem _ member)]

theorem Fits.total_dense (fits : equality.Fits size) :
    (equality.dense size).total values = sum values equality.terms := by
  have coefficients : ∀ coordinate ∈ Finset.range size,
      (equality.dense size).coefficient coordinate * values coordinate =
        (equality.terms.lookup coordinate).getD 0 * values coordinate := by
    intro coordinate member
    rw [coefficient_dense (Finset.mem_range.mp member)]
    simp [Equality.coefficient]
  rw [Row.total, length_dense, Finset.sum_congr rfl coefficients,
    sum_lookup fits.distinct fits.bound]

theorem Fits.excess_dense_eq_zero (fits : equality.Fits size) :
    (equality.dense size).excess values = 0 ↔ equality.Holds values := by
  rw [Row.excess, fits.total_dense, sub_eq_zero]
  rfl

end Equality

theorem Network.fits_of_mem_equalities {network : Network Rat} (own : network.AlignsOwn)
    {width : Rat} {equality : Equality Rat} (member : equality ∈ network.equalities width) :
    equality.Fits (2 * network.stations.length) :=
  ⟨distinct_of_mem_equalities member, known_of_mem_equalities own member⟩

namespace Echelon

variable {row : Row Rat} {values : Nat → Rat} {size : Nat} {equality : Equality Rat}
  {equalities : List (Equality Rat)} {pivots : List (PivotRow Rat)}

theorem coefficientTolerance_pos : (0 : Rat) < coefficientTolerance := by
  simp only [coefficientTolerance, Scalar.literal_eq, Scalar.ofNat_eq]
  norm_num

theorem mem_entries_iff {coefficients : List Rat} {coordinate : Nat} {value : Rat} :
    (coordinate, value) ∈ entries coefficients ↔
      coefficients[coordinate]? = some value ∧ coefficientTolerance ≤ |value| := by
  simp only [entries, List.mem_filter, List.mem_map, Prod.mk.injEq, decide_eq_true_eq,
    ExactScalar.abs_eq]
  refine and_congr_left fun _ => ⟨?_, fun atCoordinate => ?_⟩
  · rintro ⟨⟨own, index⟩, isEntry, rfl, rfl⟩
    exact List.mem_zipIdx_iff_getElem?.mp isEntry
  · exact ⟨(value, coordinate), List.mem_zipIdx_iff_getElem?.mpr atCoordinate, rfl, rfl⟩

theorem mem_entries {coefficients : List Rat} {coordinate : Nat} {value : Rat}
    (member : (coordinate, value) ∈ entries coefficients) :
    coefficients[coordinate]? = some value ∧ value ≠ 0 := by
  obtain ⟨atCoordinate, counts⟩ := mem_entries_iff.mp member
  exact ⟨atCoordinate, abs_pos.mp (coefficientTolerance_pos.trans_le counts)⟩

theorem largest_mem (best : Nat × Rat) (rest : List (Nat × Rat)) :
    largest best rest ∈ best :: rest := by
  induction rest generalizing best with
  | nil => simp [largest]
  | cons entry rest ih =>
      simp only [largest]
      split
      · exact List.mem_cons.mpr ((List.mem_cons.mp (ih best)).imp_right (List.mem_cons_of_mem _))
      · exact List.mem_cons_of_mem _ (ih entry)

theorem pivot?_eq_some {coordinate : Nat} {value : Rat}
    (found : pivot? row = some (coordinate, value)) :
    row.coefficients[coordinate]? = some value ∧ value ≠ 0 := by
  apply mem_entries
  unfold pivot? at found
  split at found
  · next isUnit =>
      obtain rfl := Option.some.inj found
      exact List.mem_of_find?_eq_some isUnit
  · split at found
    · cases found
    · next first rest same =>
        rw [same, ← Option.some.inj found]
        exact largest_mem first rest

/-- Each row has coefficient one at its pivot and none at the pivots before it. -/
structure Staircase (size : Nat) (pivots : List (PivotRow Rat)) : Prop where
  length : ∀ pivot ∈ pivots, pivot.row.coefficients.length = size
  bound : ∀ pivot ∈ pivots, pivot.coordinate < size
  unit : ∀ pivot ∈ pivots, pivot.row.coefficient pivot.coordinate = 1
  clear : pivots.Pairwise fun earlier later => later.row.coefficient earlier.coordinate = 0

theorem staircase_nil (size : Nat) : Staircase size [] where
  length := by simp
  bound := by simp
  unit := by simp
  clear := .nil

theorem Staircase.tail {first : PivotRow Rat} (staircase : Staircase size (first :: pivots)) :
    Staircase size pivots where
  length pivot member := staircase.length pivot (List.mem_cons_of_mem _ member)
  bound pivot member := staircase.bound pivot (List.mem_cons_of_mem _ member)
  unit pivot member := staircase.unit pivot (List.mem_cons_of_mem _ member)
  clear := (List.pairwise_cons.mp staircase.clear).2

/-- The rows behind the first one are free of its pivot, and their pivots are others. -/
theorem Staircase.apart {first : PivotRow Rat} (staircase : Staircase size (first :: pivots)) :
    ∀ pivot ∈ pivots, pivot.row.coefficient first.coordinate = 0 ∧
      first.coordinate ≠ pivot.coordinate := by
  intro pivot member
  have none := (List.pairwise_cons.mp staircase.clear).1 pivot member
  refine ⟨none, fun same => ?_⟩
  rw [same, staircase.unit pivot (List.mem_cons_of_mem _ member)] at none
  exact one_ne_zero none

theorem Staircase.coefficient_reduce (staircase : Staircase size pivots)
    (isRow : row.coefficients.length = size) :
    ∀ pivot ∈ pivots, (row.reduce pivots).coefficient pivot.coordinate = 0 := by
  induction pivots generalizing row with
  | nil => simp
  | cons first rest ih =>
      have lengths := List.forall_mem_cons.mp staircase.length
      have same := isRow.trans lengths.1.symm
      have cleared : (row.reduceBy first).coefficients.length = size ∧
          (row.reduceBy first).coefficient first.coordinate = 0 := by
        rw [Row.reduceBy_eq_subtract same, Row.length_subtract row first.row _ same,
          Row.coefficient_subtract _ same, staircase.unit first List.mem_cons_self, mul_one, sub_self]
        exact ⟨isRow, rfl⟩
      intro pivot member
      rcases List.mem_cons.mp member with rfl | later
      · exact ((Row.closed_coefficient size pivot.coordinate).reduce cleared fun other member =>
          ⟨lengths.2 other member, (staircase.apart other member).1⟩).2
      · exact ih staircase.tail cleared.1 pivot later

theorem extend_eq_ok {after : List (PivotRow Rat)}
    (extended : extend size pivots equality = .ok after) :
    (after = pivots ∧ pivot? ((equality.dense size).reduce pivots) = none ∧
      |((equality.dense size).reduce pivots).constant| ≤ constantTolerance) ∨
    ∃ coordinate value, pivot? ((equality.dense size).reduce pivots) = some (coordinate, value) ∧
      after = pivots ++
        [⟨coordinate, ((equality.dense size).reduce pivots).divide value, equality⟩] := by
  unfold extend at extended
  dsimp only at extended
  split at extended
  · next coordinate value found => exact .inr ⟨coordinate, value, found, (Except.ok.inj extended).symm⟩
  · next none =>
      split at extended
      · cases extended
      · next small =>
          rw [ExactScalar.abs_eq] at small
          exact .inl ⟨(Except.ok.inj extended).symm, none, not_lt.mp small⟩

theorem Staircase.extend (staircase : Staircase size pivots) {after : List (PivotRow Rat)}
    (extended : extend size pivots equality = .ok after) : Staircase size after := by
  rcases extend_eq_ok extended with ⟨rfl, -, -⟩ | ⟨coordinate, value, found, rfl⟩
  · exact staircase
  have isRow : ((equality.dense size).reduce pivots).coefficients.length = size :=
    (Row.closed_length size).reduce (equality.length_dense size) staircase.length
  obtain ⟨atPivot, nonzero⟩ := pivot?_eq_some found
  constructor
  · rw [List.forall_mem_append, List.forall_mem_singleton, Row.length_divide]
    exact ⟨staircase.length, isRow⟩
  · have bound := (List.getElem?_eq_some_iff.mp atPivot).1
    rw [List.forall_mem_append, List.forall_mem_singleton]
    exact ⟨staircase.bound, isRow ▸ bound⟩
  · have unit : (((equality.dense size).reduce pivots).divide value).coefficient coordinate = 1 := by
      rw [Row.coefficient_divide, Row.coefficient_eq, atPivot]
      exact div_self nonzero
    rw [List.forall_mem_append, List.forall_mem_singleton]
    exact ⟨staircase.unit, unit⟩
  · refine List.pairwise_append.mpr ⟨staircase.clear, List.pairwise_singleton _ _, ?_⟩
    intro earlier isEarlier later isLater
    obtain rfl := List.mem_singleton.mp isLater
    rw [Row.coefficient_divide, staircase.coefficient_reduce (equality.length_dense size) earlier
      isEarlier, zero_div]

theorem staircase_of_ofEqualities (built : ofEqualities size equalities = .ok pivots) :
    Staircase size pivots :=
  Outcome.foldlM_invariant (Staircase size) (fun _ _ _ _ staircase => staircase.extend)
    (staircase_nil size) built

/-- What holds of all equalities and is kept by combinations holds of the reduced rows. -/
theorem holds_of_ofEqualities {holds : Row Rat → Prop} (closed : Row.Closed size holds)
    (all : ∀ equality ∈ equalities, holds (equality.dense size))
    (built : ofEqualities size equalities = .ok pivots) : ∀ pivot ∈ pivots, holds pivot.row := by
  refine Outcome.foldlM_invariant (fun pivots => ∀ pivot ∈ pivots, holds pivot.row) ?_ (by simp) built
  intro equality member before after sofar extended
  rcases extend_eq_ok extended with ⟨rfl, -, -⟩ | ⟨coordinate, value, -, rfl⟩
  · exact sofar
  rw [List.forall_mem_append, List.forall_mem_singleton]
  exact ⟨sofar, closed.divide _ value (closed.reduce (all equality member) sofar)⟩

private theorem measure_reduce (measure : Row Rat → Rat)
    (subtract : ∀ row other factor, row.coefficients.length = other.coefficients.length →
      measure (row.subtract factor other) = measure row - factor * measure other)
    (isRow : row.coefficients.length = size)
    (vanish : ∀ pivot ∈ pivots, pivot.row.coefficients.length = size ∧ measure pivot.row = 0) :
    measure (row.reduce pivots) = measure row := by
  induction pivots generalizing row with
  | nil => rfl
  | cons pivot rest ih =>
      obtain ⟨length, zero⟩ := vanish pivot List.mem_cons_self
      have same := isRow.trans length.symm
      have step : (row.reduceBy pivot).coefficients.length = size ∧
          measure (row.reduceBy pivot) = measure row := by
        rw [Row.reduceBy_eq_subtract same, Row.length_subtract row pivot.row _ same,
          subtract row pivot.row _ same, zero, mul_zero, sub_zero]
        exact ⟨isRow, rfl⟩
      rw [← step.2]
      exact ih step.1 fun other member => vanish other (List.mem_cons_of_mem _ member)

theorem excess_reduce (isRow : row.coefficients.length = size)
    (hold : ∀ pivot ∈ pivots, pivot.row.coefficients.length = size ∧ pivot.row.excess values = 0) :
    (row.reduce pivots).excess values = row.excess values :=
  measure_reduce (fun row => row.excess values) (fun _ _ factor same => Row.excess_subtract factor same)
    isRow hold

theorem total_reduce (isRow : row.coefficients.length = size)
    (vanish : ∀ pivot ∈ pivots, pivot.row.coefficients.length = size ∧ pivot.row.total values = 0) :
    (row.reduce pivots).total values = row.total values :=
  measure_reduce (fun row => row.total values) (fun _ _ factor same => Row.total_subtract factor same)
    isRow vanish

/-- The equalities hold just where the reduced rows hold and what is left of each equality does. -/
theorem equalities_hold_iff (fits : ∀ equality ∈ equalities, equality.Fits size)
    (built : ofEqualities size equalities = .ok pivots) :
    (∀ equality ∈ equalities, equality.Holds values) ↔
      (∀ pivot ∈ pivots, pivot.row.excess values = 0) ∧
        ∀ equality ∈ equalities, ((equality.dense size).reduce pivots).excess values = 0 := by
  have staircase := staircase_of_ofEqualities built
  have reduced : (∀ pivot ∈ pivots, pivot.row.excess values = 0) → ∀ equality : Equality Rat,
      ((equality.dense size).reduce pivots).excess values = (equality.dense size).excess values :=
    fun hold equality => excess_reduce (equality.length_dense size) fun pivot member =>
      ⟨staircase.length pivot member, hold pivot member⟩
  constructor
  · intro hold
    have dense : ∀ equality ∈ equalities, (equality.dense size).excess values = 0 :=
      fun equality member => (fits equality member).excess_dense_eq_zero.mpr (hold equality member)
    have rows := holds_of_ofEqualities (Row.closed_excess size values)
      (fun equality member => ⟨equality.length_dense size, dense equality member⟩) built
    have hold : ∀ pivot ∈ pivots, pivot.row.excess values = 0 :=
      fun pivot member => (rows pivot member).2
    exact ⟨hold, fun equality member => (reduced hold equality).trans (dense equality member)⟩
  · rintro ⟨hold, rest⟩ equality member
    have left := rest equality member
    rw [reduced hold] at left
    exact (fits equality member).excess_dense_eq_zero.mp left

end Echelon

end TransitMap
