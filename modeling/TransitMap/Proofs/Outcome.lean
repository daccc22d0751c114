import Mathlib.Data.List.Forall2

namespace TransitMap.Outcome

variable {ε δ α β : Type}

@[simp] theorem bind_eq_ok {result : Except ε α} {next : α → Except ε β} {value : β} :
    (result >>= next) = .ok value ↔ ∃ first, result = .ok first ∧ next first = .ok value := by
  cases result <;> simp [bind, Except.bind]

@[simp] theorem bind_eq_error {result : Except ε α} {next : α → Except ε β} {fault : ε} :
    (result >>= next) = .error fault ↔
      result = .error fault ∨ ∃ first, result = .ok first ∧ next first = .error fault := by
  cases result <;> simp [bind, Except.bind]

@[simp] theorem pure_eq_ok {first value : α} :
    (pure first : Except ε α) = .ok value ↔ first = value := by
  simp [pure, Except.pure]

@[simp] theorem map_eq_ok {f : α → β} {result : Except ε α} {value : β} :
    (f <$> result) = .ok value ↔ ∃ first, result = .ok first ∧ f first = value := by
  cases result <;> simp [Functor.map, Except.map]

@[simp] theorem map_eq_error {f : α → β} {result : Except ε α} {fault : ε} :
    (f <$> result) = .error fault ↔ result = .error fault := by
  cases result <;> simp [Functor.map, Except.map]

@[simp] theorem mapError_eq_ok {f : ε → δ} {result : Except ε α} {value : α} :
    result.mapError f = .ok value ↔ result = .ok value := by
  cases result <;> simp [Except.mapError]

@[simp] theorem mapError_eq_error {f : ε → δ} {result : Except ε α} {fault : δ} :
    result.mapError f = .error fault ↔ ∃ cause, result = .error cause ∧ f cause = fault := by
  cases result <;> simp [Except.mapError]

theorem mapM_eq_ok {f : α → Except ε β} {items : List α} {values : List β} :
    items.mapM f = .ok values ↔ List.Forall₂ (fun item value => f item = .ok value) items values := by
  induction items generalizing values with
  | nil => cases values <;> simp [pure, Except.pure]
  | cons item rest ih =>
      rw [List.mapM_cons]
      cases values with
      | nil => simp
      | cons value others =>
          simp only [bind_eq_ok, pure_eq_ok, List.cons.injEq, List.forall₂_cons, ← ih]
          constructor
          · rintro ⟨first, read, more, readMore, rfl, rfl⟩
            exact ⟨read, readMore⟩
          · rintro ⟨read, readMore⟩
            exact ⟨value, read, others, readMore, rfl, rfl⟩

theorem mapM_congr {f g : α → Except ε β} {items : List α}
    (same : ∀ item ∈ items, f item = g item) : items.mapM f = items.mapM g := by
  induction items with
  | nil => rfl
  | cons item rest ih =>
      rw [List.forall_mem_cons] at same
      rw [List.mapM_cons, List.mapM_cons, same.1, ih same.2]

theorem exists_left_of_forall₂ {R : α → β → Prop} {left : List α} {right : List β}
    (related : List.Forall₂ R left right) {index : Nat} {value : β}
    (found : right[index]? = some value) : ∃ item, left[index]? = some item ∧ R item value := by
  induction related generalizing index with
  | nil => simp at found
  | cons first rest ih =>
      cases index with
      | zero =>
          obtain rfl := Option.some.inj found
          exact ⟨_, rfl, first⟩
      | succ index => exact ih (by simpa using found)

theorem exists_right_of_forall₂ {R : α → β → Prop} {left : List α} {right : List β}
    (related : List.Forall₂ R left right) {index : Nat} {item : α}
    (found : left[index]? = some item) : ∃ value, right[index]? = some value ∧ R item value :=
  exists_left_of_forall₂ related.flip found

theorem forall₂_trans {γ : Type} {R : α → β → Prop} {S : β → γ → Prop} {T : α → γ → Prop}
    {left : List α} {middle : List β} {right : List γ} (first : List.Forall₂ R left middle)
    (second : List.Forall₂ S middle right) (step : ∀ a b c, R a b → S b c → T a c) :
    List.Forall₂ T left right := by
  induction first generalizing right with
  | nil =>
      cases second
      exact .nil
  | cons related _ ih =>
      cases second with
      | cons other others => exact .cons (step _ _ _ related other) (ih others)

theorem forall₂_zip {R : α → β → Prop} {left : List α} {right : List β}
    (related : List.Forall₂ R left right) :
    List.Forall₂ (fun item pair => pair.1 = item ∧ R item pair.2) left (left.zip right) := by
  induction related with
  | nil => exact .nil
  | cons first _ ih => exact .cons ⟨rfl, first⟩ ih

theorem forall_mem_iff_of_forall₂ {R : α → β → Prop} {left : List α} {right : List β}
    {p : α → Prop} {q : β → Prop} (related : List.Forall₂ R left right)
    (same : ∀ item value, R item value → (p item ↔ q value)) :
    (∀ item ∈ left, p item) ↔ ∀ value ∈ right, q value := by
  induction related with
  | nil => simp
  | cons first rest ih => rw [List.forall_mem_cons, List.forall_mem_cons, same _ _ first, ih]

theorem length_eq_of_mapM {f : α → Except ε β} {items : List α} {values : List β}
    (read : items.mapM f = .ok values) : items.length = values.length :=
  (mapM_eq_ok.mp read).length_eq

theorem exists_of_mem_mapM {f : α → Except ε β} {items : List α} {values : List β} {value : β}
    (read : items.mapM f = .ok values) (member : value ∈ values) :
    ∃ item ∈ items, f item = .ok value := by
  induction mapM_eq_ok.mp read with
  | nil => cases member
  | cons first rest ih =>
      rcases List.mem_cons.mp member with rfl | later
      · exact ⟨_, List.mem_cons_self, first⟩
      · obtain ⟨item, isItem, value⟩ := ih (mapM_eq_ok.mpr rest) later
        exact ⟨item, List.mem_cons_of_mem _ isItem, value⟩

theorem exists_of_mem_map {f : α → Except ε β} {items : List α} {values : List β}
    (read : items.mapM f = .ok values) : ∀ result ∈ items.map f, ∃ value, result = .ok value := by
  rw [List.forall_mem_map]
  have each := forall_mem_iff_of_forall₂ (mapM_eq_ok.mp read) (q := fun _ => True)
    fun item value found => ⟨fun _ => trivial, fun _ => (⟨value, found⟩ : ∃ value, f item = .ok value)⟩
  exact each.mpr fun _ _ => trivial

theorem exists_of_mapM_eq_error {f : α → Except ε β} {items : List α} {fault : ε}
    (failed : items.mapM f = .error fault) : ∃ item ∈ items, f item = .error fault := by
  induction items with
  | nil => cases failed
  | cons item rest ih =>
      rw [List.mapM_cons] at failed
      simp only [bind_eq_error, pure, Except.pure, reduceCtorEq, and_false, exists_false,
        or_false] at failed
      rcases failed with first | ⟨value, -, later⟩
      · exact ⟨item, List.mem_cons_self, first⟩
      · obtain ⟨other, member, failed⟩ := ih later
        exact ⟨other, List.mem_cons_of_mem _ member, failed⟩

/-- A fold that fails does so at an item, after all items before that. -/
theorem exists_of_foldlM_eq_error {step : β → α → Except ε β} {items : List α} {start : β}
    {fault : ε} (failed : items.foldlM step start = .error fault) :
    ∃ before item behind reached, items = before ++ item :: behind ∧
      before.foldlM step start = .ok reached ∧ step reached item = .error fault := by
  induction items generalizing start with
  | nil => cases failed
  | cons item rest ih =>
      simp only [List.foldlM_cons, bind_eq_error] at failed
      rcases failed with first | ⟨next, stepped, later⟩
      · exact ⟨[], item, rest, start, rfl, rfl, first⟩
      · obtain ⟨before, other, behind, reached, rfl, folded, failed⟩ := ih later
        refine ⟨item :: before, other, behind, reached, rfl, ?_, failed⟩
        rw [List.foldlM_cons, stepped]
        exact folded

/-- What holds at the start and is kept by each step holds after a fold. -/
theorem foldlM_invariant {step : β → α → Except ε β} (holds : β → Prop) {items : List α}
    (kept : ∀ item ∈ items, ∀ before after, holds before → step before item = .ok after →
      holds after)
    {start last : β} (atStart : holds start) (folded : items.foldlM step start = .ok last) :
    holds last := by
  induction items generalizing start with
  | nil =>
      simp only [List.foldlM_nil, pure_eq_ok] at folded
      exact folded ▸ atStart
  | cons item rest ih =>
      simp only [List.foldlM_cons, bind_eq_ok] at folded
      obtain ⟨middle, stepped, folded⟩ := folded
      refine ih (fun other member => kept other (List.mem_cons_of_mem _ member)) ?_ folded
      exact kept item List.mem_cons_self start middle atStart stepped

/-- Both results are values, or both are faults, and these are related. -/
inductive Agree (E : ε → δ → Prop) (R : α → β → Prop) : Except ε α → Except δ β → Prop
  | ok {value : α} {other : β} (related : R value other) : Agree E R (.ok value) (.ok other)
  | error {fault : ε} {other : δ} (related : E fault other) : Agree E R (.error fault) (.error other)

namespace Agree

variable {γ ζ : Type} {E : ε → δ → Prop} {R : α → β → Prop} {T : γ → ζ → Prop}
  {first : Except ε α} {second : Except δ β}

theorem bind (agree : Agree E R first second) {next : α → Except ε γ} {other : β → Except δ ζ}
    (behind : ∀ left right, R left right → Agree E T (next left) (other right)) :
    Agree E T (first >>= next) (second >>= other) := by
  cases agree with
  | ok related => exact behind _ _ related
  | error related => exact .error related

theorem map (agree : Agree E R first second) {f : α → γ} {g : β → ζ}
    (kept : ∀ left right, R left right → T (f left) (g right)) :
    Agree E T (first.map f) (second.map g) := by
  cases agree with
  | ok related => exact .ok (kept _ _ related)
  | error related => exact .error related

theorem mapError {F : γ → ζ → Prop} (agree : Agree E R first second) {f : ε → γ} {g : δ → ζ}
    (kept : ∀ left right, E left right → F (f left) (g right)) :
    Agree F R (first.mapError f) (second.mapError g) := by
  cases agree with
  | ok related => exact .ok related
  | error related => exact .error (kept _ _ related)

theorem withLeft (agree : Agree E R first second) :
    Agree E (fun left right => first = .ok left ∧ R left right) first second := by
  cases agree with
  | ok related => exact .ok ⟨rfl, related⟩
  | error related => exact .error related

theorem mapM {items : List γ} {others : List ζ} (related : List.Forall₂ T items others)
    {f : γ → Except ε α} {g : ζ → Except δ β}
    (each : ∀ item other, T item other → Agree E R (f item) (g other)) :
    Agree E (List.Forall₂ R) (items.mapM f) (others.mapM g) := by
  induction related with
  | nil => exact .ok .nil
  | cons first rest ih =>
      rw [List.mapM_cons, List.mapM_cons]
      apply (each _ _ first).bind
      intro value other valueRelated
      apply ih.bind
      intro values others valuesRelated
      exact .ok (.cons valueRelated valuesRelated)

theorem mapM_eq {items : List γ} {others : List ζ} (related : List.Forall₂ T items others)
    {f : γ → Except ε α} {g : ζ → Except δ α}
    (each : ∀ item other, T item other → Agree E Eq (f item) (g other)) :
    Agree E Eq (items.mapM f) (others.mapM g) := by
  rw [← List.forall₂_eq_eq_eq]
  exact .mapM related each

end Agree

end TransitMap.Outcome
