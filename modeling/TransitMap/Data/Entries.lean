namespace TransitMap.Entries

variable [BEq κ]

/-- Gives a key a value; a key already there keeps its place. -/
def assign (key : κ) (value : α) : List (κ × α) → List (κ × α)
  | [] => [(key, value)]
  | entry :: rest =>
      if key == entry.1 then (entry.1, value) :: rest else entry :: assign key value rest

theorem lookup_assign_self [LawfulBEq κ] (key : κ) (value : α) (entries : List (κ × α)) :
    (assign key value entries).lookup key = some value := by
  induction entries with
  | nil => simp [assign]
  | cons entry rest ih =>
      simp only [assign]
      split
      · next same => rw [List.lookup_cons, same]
      · next other => rw [List.lookup_cons, Bool.eq_false_iff.mpr other, ih]

theorem lookup_assign_of_ne [LawfulBEq κ] (key other : κ) (value : α) (entries : List (κ × α))
    (apart : other ≠ key) : (assign key value entries).lookup other = entries.lookup other := by
  have apart : (other == key) = false := beq_eq_false_iff_ne.mpr apart
  induction entries with
  | nil => simp [assign, List.lookup_cons, apart]
  | cons entry rest ih =>
      obtain ⟨entryKey, old⟩ := entry
      simp only [assign]
      split
      · next same =>
          rw [eq_of_beq same] at apart
          rw [List.lookup_cons, List.lookup_cons, apart]
      · rw [List.lookup_cons, List.lookup_cons, ih]

end TransitMap.Entries
