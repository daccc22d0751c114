import TransitMap.Proofs.Layout.Echelon

namespace TransitMap

open scoped ExactScalar

namespace Row

variable {row : Row Rat} {values : Nat → Rat}

theorem total_update {coordinate : Nat} (bound : coordinate < row.coefficients.length)
    (values : Nat → Rat) (value : Rat) :
    row.total (Function.update values coordinate value) =
      row.total values + row.coefficient coordinate * (value - values coordinate) := by
  have split : ∀ other, row.coefficient other * Function.update values coordinate value other =
      row.coefficient other * values other +
        if other = coordinate then row.coefficient coordinate * (value - values coordinate)
        else 0 := by
    intro other
    by_cases same : other = coordinate
    · subst same
      rw [Function.update_self, if_pos rfl]
      ring
    · rw [Function.update_of_ne same, if_neg same, add_zero]
  rw [total, Finset.sum_congr rfl fun other _ => split other, Finset.sum_add_distrib,
    Finset.sum_ite_eq', if_pos (Finset.mem_range.mpr bound), total]

theorem total_add_mul (row : Row Rat) (values direction : Nat → Rat) (factor : Rat) :
    row.total (fun coordinate => values coordinate + factor * direction coordinate) =
      row.total values + factor * row.total direction := by
  rw [total, total, total, Finset.mul_sum, ← Finset.sum_add_distrib]
  exact Finset.sum_congr rfl fun coordinate _ => by ring

theorem total_add (row : Row Rat) (values others : Nat → Rat) :
    row.total (fun coordinate => values coordinate + others coordinate) =
      row.total values + row.total others := by
  rw [total, total, total, ← Finset.sum_add_distrib]
  exact Finset.sum_congr rfl fun coordinate _ => mul_add ..

theorem total_sub (row : Row Rat) (values others : Nat → Rat) :
    row.total (fun coordinate => values coordinate - others coordinate) =
      row.total values - row.total others := by
  rw [total, total, total, ← Finset.sum_sub_distrib]
  exact Finset.sum_congr rfl fun coordinate _ => mul_sub ..

theorem excess_sub (row : Row Rat) (values others : Nat → Rat) :
    row.excess values - row.excess others =
      row.total fun coordinate => values coordinate - others coordinate := by
  rw [excess, excess, total_sub]
  ring

theorem total_congr {others : Nat → Rat}
    (same : ∀ coordinate < row.coefficients.length, values coordinate = others coordinate) :
    row.total values = row.total others :=
  Finset.sum_congr rfl fun coordinate inside => by rw [same coordinate (Finset.mem_range.mp inside)]

end Row

theorem Equality.Fits.holds_congr {size : Nat} {equality : Equality Rat} {values others : Nat → Rat}
    (fits : equality.Fits size)
    (same : ∀ coordinate < size, values coordinate = others coordinate) :
    equality.Holds values ↔ equality.Holds others := by
  rw [← fits.excess_dense_eq_zero, ← fits.excess_dense_eq_zero, Row.excess, Row.excess,
    Row.total_congr fun coordinate bound => same coordinate (equality.length_dense size ▸ bound)]

namespace Echelon

variable {size : Nat} {row : Row Rat} {values : Nat → Rat} {equality : Equality Rat}
  {equalities : List (Equality Rat)} {pivots after : List (PivotRow Rat)}

/-- The coordinates that are no pivots are free: the pivots can be chosen such that the rows have any
sums. -/
theorem Staircase.exists_values (staircase : Staircase size pivots)
    (wanted : PivotRow Rat → Rat) (free : Nat → Rat) :
    ∃ values : Nat → Rat, (∀ pivot ∈ pivots, pivot.row.total values = wanted pivot) ∧
      ∀ coordinate, (∀ pivot ∈ pivots, pivot.coordinate ≠ coordinate) →
        values coordinate = free coordinate := by
  induction pivots with
  | nil => exact ⟨free, by simp, fun _ _ => rfl⟩
  | cons first rest ih =>
      obtain ⟨values, attained, agree⟩ := ih staircase.tail
      have inside : ∀ pivot ∈ first :: rest, first.coordinate < pivot.row.coefficients.length :=
        fun pivot member => (staircase.length pivot member).symm ▸
          staircase.bound first List.mem_cons_self
      -- No row but the first one has its pivot, which can make up for what the row misses.
      refine ⟨Function.update values first.coordinate
        (values first.coordinate + (wanted first - first.row.total values)), ?_,
        fun coordinate apart => ?_⟩
      · rw [List.forall_mem_cons]
        constructor
        · rw [Row.total_update (inside first List.mem_cons_self),
            staircase.unit first List.mem_cons_self]
          ring
        · intro pivot member
          rw [Row.total_update (inside pivot (List.mem_cons_of_mem _ member)),
            (staircase.apart pivot member).1, attained pivot member]
          ring
      · rw [List.forall_mem_cons] at apart
        rw [Function.update_of_ne (Ne.symm apart.1), agree coordinate apart.2]

/-- The rows are reduced equalities whose sums can be anything. -/
structure Independent (size : Nat) (pivots : List (PivotRow Rat)) : Prop where
  staircase : Staircase size pivots
  vanish : ∀ values, (∀ pivot ∈ pivots, pivot.row.total values = 0) →
    ∀ pivot ∈ pivots, (pivot.equality.dense size).total values = 0
  attain : ∀ wanted : Nat → Rat, ∃ values, ∀ index pivot, pivots[index]? = some pivot →
    (pivot.equality.dense size).total values = wanted index

theorem independent_nil (size : Nat) : Independent size [] where
  staircase := staircase_nil size
  vanish := by simp
  attain _ := ⟨fun _ => 0, by simp⟩

/-- A row that is left with a coefficient is not determined by the rows that reduced it. -/
theorem Staircase.exists_direction (staircase : Staircase size pivots)
    (isRow : row.coefficients.length = size) {coordinate : Nat} {value : Rat}
    (found : pivot? (row.reduce pivots) = some (coordinate, value)) :
    ∃ direction : Nat → Rat, (∀ pivot ∈ pivots, pivot.row.total direction = 0) ∧
      row.total direction = value := by
  obtain ⟨atPivot, nonzero⟩ := pivot?_eq_some found
  obtain ⟨direction, vanish, agree⟩ :=
    staircase.exists_values (fun _ => 0) fun other => if other = coordinate then 1 else 0
  refine ⟨direction, vanish, ?_⟩
  have isReduced := (Row.closed_length size).reduce isRow staircase.length
  have coefficient : (row.reduce pivots).coefficient coordinate = value := by
    rw [Row.coefficient_eq, atPivot, Option.getD_some]
  have cleared := staircase.coefficient_reduce isRow
  -- What is left of the row has no pivots, and the direction has no other free coordinate.
  have only : ∀ other, (row.reduce pivots).coefficient other * direction other =
      if other = coordinate then value else 0 := by
    intro other
    by_cases isPivot : ∃ pivot ∈ pivots, pivot.coordinate = other
    · obtain ⟨pivot, member, rfl⟩ := isPivot
      have apart : pivot.coordinate ≠ coordinate := by
        rintro rfl
        exact nonzero (coefficient.symm.trans (cleared pivot member))
      rw [cleared pivot member, if_neg apart, zero_mul]
    · push Not at isPivot
      rw [agree other isPivot]
      split
      · next same => rw [same, coefficient, mul_one]
      · rw [mul_zero]
  have bound := (List.getElem?_eq_some_iff.mp atPivot).1
  rw [← total_reduce isRow fun pivot member => ⟨staircase.length pivot member, vanish pivot member⟩,
    Row.total, Finset.sum_congr rfl fun other _ => only other, Finset.sum_ite_eq',
    if_pos (Finset.mem_range.mpr bound)]

theorem Independent.extend (independent : Independent size pivots)
    (extended : extend size pivots equality = .ok after) : Independent size after := by
  have staircase := independent.staircase.extend extended
  rcases extend_eq_ok extended with ⟨rfl, -, -⟩ | ⟨coordinate, value, found, rfl⟩
  · exact independent
  have isRow := equality.length_dense size
  obtain ⟨atPivot, nonzero⟩ := pivot?_eq_some found
  refine ⟨staircase, fun values vanish => ?_, fun wanted => ?_⟩
  · rw [List.forall_mem_append, List.forall_mem_singleton] at vanish ⊢
    refine ⟨independent.vanish values vanish.1, ?_⟩
    have reduced : ((equality.dense size).reduce pivots).total values = 0 := by
      have divided := vanish.2
      rw [Row.total_divide, div_eq_zero_iff] at divided
      exact divided.resolve_right nonzero
    rwa [total_reduce isRow fun pivot member =>
      ⟨independent.staircase.length pivot member, vanish.1 pivot member⟩] at reduced
  · -- The sums of the earlier equalities stay as they are in the new direction.
    obtain ⟨values, attained⟩ := independent.attain wanted
    obtain ⟨direction, vanish, inDirection⟩ :=
      independent.staircase.exists_direction isRow found
    let factor := (wanted pivots.length - (equality.dense size).total values) / value
    refine ⟨fun coordinate => values coordinate + factor * direction coordinate, ?_⟩
    intro index pivot atIndex
    rw [Row.total_add_mul]
    rw [List.getElem?_append] at atIndex
    split at atIndex
    · rw [attained index pivot atIndex,
        independent.vanish direction vanish pivot (List.mem_of_getElem? atIndex)]
      ring
    · have isNew : index = pivots.length := by
        have bound := (List.getElem?_eq_some_iff.mp atIndex).1
        rw [List.length_singleton] at bound
        omega
      obtain rfl : _ = pivot := by simpa [isNew] using atIndex
      rw [inDirection, div_mul_cancel₀ _ nonzero, isNew]
      ring

theorem independent_of_ofEqualities (built : ofEqualities size equalities = .ok pivots) :
    Independent size pivots :=
  Outcome.foldlM_invariant (Independent size) (fun _ _ _ _ independent => independent.extend)
    (independent_nil size) built

theorem rows_hold_of_independent (built : ofEqualities size equalities = .ok pivots)
    (hold : ∀ equality ∈ independent pivots, (equality.dense size).excess values = 0) :
    ∀ pivot ∈ pivots, pivot.row.excess values = 0 := by
  rw [independent, List.forall_mem_map] at hold
  revert hold
  refine (Outcome.foldlM_invariant (fun pivots => Staircase size pivots ∧
    ((∀ pivot ∈ pivots, (pivot.equality.dense size).excess values = 0) →
      ∀ pivot ∈ pivots, pivot.row.excess values = 0)) ?_ ⟨staircase_nil size, by simp⟩ built).2
  rintro equality - before after ⟨staircase, sofar⟩ extended
  refine ⟨staircase.extend extended, ?_⟩
  rcases extend_eq_ok extended with ⟨rfl, -, -⟩ | ⟨coordinate, value, -, rfl⟩
  · exact sofar
  · simp only [List.forall_mem_append, List.forall_mem_singleton]
    rintro ⟨earlier, own⟩
    refine ⟨sofar earlier, ?_⟩
    rw [Row.excess_divide, excess_reduce (equality.length_dense size) fun pivot member =>
      ⟨staircase.length pivot member, sofar earlier pivot member⟩, own, zero_div]

theorem sublist_of_ofEqualities (built : ofEqualities size equalities = .ok pivots) :
    (independent pivots).Sublist equalities := by
  suffices kept : ∀ start : List (PivotRow Rat),
      equalities.foldlM (extend size) start = .ok pivots →
        ∃ more, independent pivots = independent start ++ more ∧ more.Sublist equalities by
    obtain ⟨more, same, isPart⟩ := kept [] built
    rwa [same]
  clear built
  induction equalities with
  | nil =>
      intro start built
      obtain rfl := Except.ok.inj built
      exact ⟨[], by simp, .slnil⟩
  | cons first rest ih =>
      intro start built
      simp only [List.foldlM_cons, Outcome.bind_eq_ok] at built
      obtain ⟨middle, extended, built⟩ := built
      obtain ⟨more, same, isPart⟩ := ih middle built
      rcases extend_eq_ok extended with ⟨rfl, -, -⟩ | ⟨coordinate, value, -, rfl⟩
      · exact ⟨more, same, isPart.cons first⟩
      · exact ⟨first :: more, by simpa [independent] using same, isPart.cons_cons first⟩

theorem mem_of_ofEqualities (built : ofEqualities size equalities = .ok pivots) :
    ∀ equality ∈ independent pivots, equality ∈ equalities :=
  fun _ member => (sublist_of_ofEqualities built).subset member

/-- What is left of each equality after those before it and the given rows have reduced it. -/
def remainders (size : Nat) : List (PivotRow Rat) → List (Equality Rat) → List (Row Rat)
  | _, [] => []
  | pivots, equality :: rest =>
      (equality.dense size).reduce pivots ::
        match extend size pivots equality with
        | .ok after => remainders size after rest
        | .error _ => []

/-- No coefficient that is left of an equality is taken for zero without being zero. -/
def CoefficientsCount (size : Nat) (equalities : List (Equality Rat)) : Prop :=
  ∀ row ∈ remainders size [] equalities, ∀ value ∈ row.coefficients,
    value = 0 ∨ coefficientTolerance ≤ |value|

/-- No constant that is left of an equality is taken for zero without being zero. -/
def ConstantsCount (size : Nat) (equalities : List (Equality Rat)) : Prop :=
  ∀ row ∈ remainders size [] equalities, row.constant = 0 ∨ constantTolerance < |row.constant|

theorem mem_remainders {start : List (PivotRow Rat)} {before behind : List (Equality Rat)}
    (reached : before.foldlM (extend size) start = .ok pivots) :
    (equality.dense size).reduce pivots ∈
      remainders size start (before ++ equality :: behind) := by
  induction before generalizing start with
  | nil =>
      obtain rfl := Except.ok.inj reached
      exact List.mem_cons_self
  | cons first rest ih =>
      simp only [List.foldlM_cons, Outcome.bind_eq_ok] at reached
      obtain ⟨middle, extended, reached⟩ := reached
      rw [List.cons_append, remainders, extended]
      exact List.mem_cons_of_mem _ (ih reached)

/-- What holds of an equality that is reduced holds of all that is left of equalities, and what holds
of a row that is divided by its pivot holds of all reduced rows. -/
theorem holds_of_elimination {isLeft : Row Rat → Prop} {isReduced : PivotRow Rat → Prop}
    (reduce : ∀ equality ∈ equalities, ∀ pivots, (∀ pivot ∈ pivots, isReduced pivot) →
      isLeft ((equality.dense size).reduce pivots))
    (select : ∀ row ∈ remainders size pivots equalities, isLeft row → ∀ coordinate value,
      pivot? row = some (coordinate, value) → ∀ equality,
        isReduced ⟨coordinate, row.divide value, equality⟩)
    (areReduced : ∀ pivot ∈ pivots, isReduced pivot) :
    (∀ row ∈ remainders size pivots equalities, isLeft row) ∧
      ∀ after, equalities.foldlM (extend size) pivots = .ok after →
        ∀ pivot ∈ after, isReduced pivot := by
  induction equalities generalizing pivots with
  | nil =>
      refine ⟨by simp [remainders], fun after built => ?_⟩
      obtain rfl := Outcome.pure_eq_ok.mp built
      exact areReduced
  | cons equality rest ih =>
      rw [List.forall_mem_cons] at reduce
      simp only [remainders, List.forall_mem_cons, List.foldlM_cons] at select ⊢
      have first := reduce.1 pivots areReduced
      cases extended : extend size pivots equality with
      | error => simp [first]
      | ok after =>
          rw [extended] at select
          have areReduced : ∀ pivot ∈ after, isReduced pivot := by
            rcases extend_eq_ok extended with ⟨rfl, -, -⟩ | ⟨coordinate, value, found, rfl⟩
            · exact areReduced
            · rw [List.forall_mem_append, List.forall_mem_singleton]
              exact ⟨areReduced, select.1 first coordinate value found equality⟩
          obtain ⟨later, settled⟩ := ih reduce.2 select.2 areReduced
          exact ⟨⟨first, later⟩, settled⟩

theorem constantTolerance_pos : (0 : Rat) < constantTolerance := by
  simp only [constantTolerance, Scalar.literal_eq, Scalar.ofNat_eq]
  norm_num

theorem lt_of_pivot?_eq_none (none : pivot? row = none) :
    ∀ value ∈ row.coefficients, |value| < coefficientTolerance := by
  have noEntries : entries row.coefficients = [] := by
    unfold pivot? at none
    split at none
    · cases none
    · split at none
      · next empty => exact empty
      · cases none
  intro value member
  obtain ⟨coordinate, atCoordinate⟩ := List.mem_iff_getElem?.mp member
  simp only [entries, List.filter_eq_nil_iff, List.mem_map, forall_exists_index, and_imp,
    forall_apply_eq_imp_iff₂, decide_eq_true_eq, not_le, ExactScalar.abs_eq] at noEntries
  exact noEntries (value, coordinate) (List.mem_zipIdx_iff_getElem?.mpr atCoordinate)

theorem total_eq_zero_of_pivot?_eq_none (none : pivot? row = none)
    (count : ∀ value ∈ row.coefficients, value = 0 ∨ coefficientTolerance ≤ |value|) :
    row.total values = 0 := by
  refine Finset.sum_eq_zero fun coordinate inside => ?_
  have bound := Finset.mem_range.mp inside
  have isLeft := List.getElem_mem bound
  have zero : row.coefficients[coordinate] = 0 :=
    (count _ isLeft).resolve_right (not_le.mpr (lt_of_pivot?_eq_none none _ isLeft))
  rw [Row.coefficient_eq, List.getElem?_eq_getElem bound, Option.getD_some, zero, zero_mul]

theorem extend_eq_error {refused : Equality Rat}
    (failed : extend size pivots equality = .error refused) :
    refused = equality ∧ pivot? ((equality.dense size).reduce pivots) = none ∧
      constantTolerance < |((equality.dense size).reduce pivots).constant| := by
  unfold extend at failed
  dsimp only at failed
  split at failed
  · cases failed
  · next none =>
      split at failed
      · next large =>
          rw [ExactScalar.abs_eq] at large
          exact ⟨(Except.error.inj failed).symm, none, large⟩
      · cases failed

theorem exists_ofEqualities (fits : ∀ equality ∈ equalities, equality.Fits size)
    (hold : ∀ equality ∈ equalities, equality.Holds values)
    (count : CoefficientsCount size equalities) :
    ∃ pivots, ofEqualities size equalities = .ok pivots := by
  cases built : ofEqualities size equalities with
  | ok pivots => exact ⟨pivots, rfl⟩
  | error refused =>
      obtain ⟨before, equality, behind, pivots, split, reached, failed⟩ :=
        Outcome.exists_of_foldlM_eq_error built
      obtain ⟨-, none, large⟩ := extend_eq_error failed
      have member {other : Equality Rat} (isBefore : other ∈ before) : other ∈ equalities :=
        split ▸ List.mem_append_left _ isBefore
      have isOne : equality ∈ equalities := split ▸ List.mem_append_right _ List.mem_cons_self
      have staircase := staircase_of_ofEqualities reached
      have rows := ((equalities_hold_iff (fun other isBefore => fits other (member isBefore))
        reached).mp fun other isBefore => hold other (member isBefore)).1
      have excess : ((equality.dense size).reduce pivots).excess values = 0 := by
        rw [excess_reduce (equality.length_dense size) fun pivot isPivot =>
          ⟨staircase.length pivot isPivot, rows pivot isPivot⟩]
        exact (fits equality isOne).excess_dense_eq_zero.mpr (hold equality isOne)
      -- Nothing is left of the coefficients, so that the constant is what is missed.
      rw [split] at count
      rw [Row.excess, total_eq_zero_of_pivot?_eq_none none (count _ (mem_remainders reached)),
        zero_sub, neg_eq_zero] at excess
      rw [excess, abs_zero] at large
      exact absurd large (not_lt.mpr constantTolerance_pos.le)

theorem rows_hold_extend_iff (staircase : Staircase size pivots) (fits : equality.Fits size)
    (coefficients : ∀ value ∈ ((equality.dense size).reduce pivots).coefficients,
      value = 0 ∨ coefficientTolerance ≤ |value|)
    (constant : ((equality.dense size).reduce pivots).constant = 0 ∨
      constantTolerance < |((equality.dense size).reduce pivots).constant|)
    (extended : extend size pivots equality = .ok after) :
    (∀ pivot ∈ after, pivot.row.excess values = 0) ↔
      (∀ pivot ∈ pivots, pivot.row.excess values = 0) ∧ equality.Holds values := by
  have reduced (hold : ∀ pivot ∈ pivots, pivot.row.excess values = 0) :
      ((equality.dense size).reduce pivots).excess values = 0 ↔ equality.Holds values := by
    rw [excess_reduce (equality.length_dense size) fun pivot member =>
      ⟨staircase.length pivot member, hold pivot member⟩]
    exact fits.excess_dense_eq_zero
  rcases extend_eq_ok extended with ⟨rfl, none, small⟩ | ⟨coordinate, value, found, rfl⟩
  · have zero : ((equality.dense size).reduce after).excess values = 0 := by
      rw [Row.excess, total_eq_zero_of_pivot?_eq_none none coefficients,
        constant.resolve_right (not_lt.mpr small), sub_zero]
    exact ⟨fun hold => ⟨hold, (reduced hold).mp zero⟩, And.left⟩
  · have nonzero := (pivot?_eq_some found).2
    rw [List.forall_mem_append, List.forall_mem_singleton, Row.excess_divide, div_eq_zero_iff,
      or_iff_left nonzero]
    exact and_congr_right reduced

/-- If nothing that is left of an equality is taken for zero without being zero, the reduced rows
say the same as the equalities. -/
theorem rows_hold_iff (fits : ∀ equality ∈ equalities, equality.Fits size)
    (coefficients : CoefficientsCount size equalities) (constants : ConstantsCount size equalities)
    (built : ofEqualities size equalities = .ok pivots) :
    (∀ pivot ∈ pivots, pivot.row.excess values = 0) ↔
      ∀ equality ∈ equalities, equality.Holds values := by
  suffices whole : ∀ start : List (PivotRow Rat), Staircase size start →
      (∀ row ∈ remainders size start equalities, ∀ value ∈ row.coefficients,
        value = 0 ∨ coefficientTolerance ≤ |value|) →
      (∀ row ∈ remainders size start equalities,
        row.constant = 0 ∨ constantTolerance < |row.constant|) →
      equalities.foldlM (extend size) start = .ok pivots →
      ((∀ pivot ∈ pivots, pivot.row.excess values = 0) ↔
        (∀ pivot ∈ start, pivot.row.excess values = 0) ∧
          ∀ equality ∈ equalities, equality.Holds values) by
    simpa using whole [] (staircase_nil size) coefficients constants built
  clear coefficients constants built
  induction equalities with
  | nil =>
      intro start _ _ _ built
      obtain rfl := Except.ok.inj built
      simp
  | cons first rest ih =>
      intro start staircase coefficients constants built
      simp only [List.foldlM_cons, Outcome.bind_eq_ok] at built
      obtain ⟨middle, extended, built⟩ := built
      rw [List.forall_mem_cons] at fits
      simp only [remainders, extended, List.forall_mem_cons] at coefficients constants
      rw [ih fits.2 middle (staircase.extend extended) coefficients.2 constants.2 built,
        rows_hold_extend_iff staircase fits.1 coefficients.1 constants.1 extended, and_assoc,
        List.forall_mem_cons]

end Echelon

end TransitMap
