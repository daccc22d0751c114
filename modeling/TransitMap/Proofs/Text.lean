import Mathlib.Algebra.Group.Nat.Even
import Mathlib.Data.List.Basic
import Mathlib.Data.List.Nodup
import Mathlib.Data.List.TakeWhile
import TransitMap.Text.Blank
import TransitMap.Text.Escape
import TransitMap.Text.Split

namespace TransitMap.Text

open scoped List

variable {text before after name : List Char}

theorem trimStart_append (isBefore : ∀ c ∈ before, isBlank c = true) (text : List Char) :
    trimStart (before ++ text) = trimStart text := by
  rw [trimStart, List.dropWhile_append_of_pos isBefore, trimStart]

theorem trimStop_append (text : List Char) (isAfter : ∀ c ∈ after, isBlank c = true) :
    trimStop (text ++ after) = trimStop text := by
  rw [trimStop, List.reverse_append, trimStart_append (by simpa using isAfter), trimStop]

theorem trim_append (isBefore : ∀ c ∈ before, isBlank c = true) (text : List Char)
    (isAfter : ∀ c ∈ after, isBlank c = true) : trim (before ++ text ++ after) = trim text := by
  rw [List.append_assoc, trim, trimStart_append isBefore, trimStart, List.dropWhile_append]
  split
  · next allBlank =>
      have atStop : after.dropWhile isBlank = [] := List.dropWhile_eq_nil_iff.mpr isAfter
      rw [atStop, trim, trimStart, List.isEmpty_iff.mp allBlank]
  · rw [trimStop_append _ isAfter, trim, trimStart]

theorem trimStart_sublist (text : List Char) : trimStart text <+ text :=
  List.dropWhile_sublist isBlank

theorem trimStop_sublist (text : List Char) : trimStop text <+ text := by
  simpa [trimStop] using (trimStart_sublist text.reverse).reverse

theorem trim_sublist (text : List Char) : trim text <+ text :=
  (trimStop_sublist _).trans (trimStart_sublist _)

theorem trimStart_eq_self_iff : trimStart text = text ↔ ∀ c ∈ text.head?, isBlank c = false := by
  cases text with
  | nil => simp [trimStart]
  | cons c rest =>
      have shorter := (trimStart_sublist rest).length_le
      rw [trimStart] at shorter
      constructor
      · rintro same c ⟨⟩
        by_contra blank
        rw [trimStart, List.dropWhile_cons_of_pos (by simpa using blank)] at same
        rw [same, List.length_cons] at shorter
        omega
      · intro first
        rw [trimStart, List.dropWhile_cons_of_neg (by simpa using first c rfl)]

theorem trimStop_eq_self_iff :
    trimStop text = text ↔ ∀ c ∈ text.getLast?, isBlank c = false := by
  rw [trimStop, List.reverse_eq_iff, trimStart_eq_self_iff, List.head?_reverse]

theorem trim_eq_self_iff :
    trim text = text ↔ trimStart text = text ∧ trimStop text = text := by
  constructor
  · intro same
    have stopped := trimStop_sublist (trimStart text)
    rw [← trim, same] at stopped
    have isStart := (trimStart_sublist text).antisymm stopped
    rw [trim, isStart] at same
    exact ⟨isStart, same⟩
  · rintro ⟨isStart, isStop⟩
    rw [trim, isStart, isStop]

theorem pieces_append {separator : Char} (apart : separator ∉ text) (rest : List Char) :
    pieces separator (text ++ separator :: rest) = text :: pieces separator rest := by
  induction text with
  | nil => simp [pieces]
  | cons c others ih =>
      simp only [List.mem_cons, not_or] at apart
      rw [List.cons_append, pieces, if_neg (Ne.symm apart.1), ih apart.2]

theorem pieces_eq_singleton {separator : Char} (apart : separator ∉ text) :
    pieces separator text = [text] := by
  induction text with
  | nil => rfl
  | cons c others ih =>
      simp only [List.mem_cons, not_or] at apart
      rw [pieces, if_neg (Ne.symm apart.1), ih apart.2]

theorem pieces_intercalate {separator : Char} {texts : List (List Char)} (nonempty : texts ≠ [])
    (apart : ∀ text ∈ texts, separator ∉ text) :
    pieces separator ([separator].intercalate texts) = texts := by
  induction texts with
  | nil => exact absurd rfl nonempty
  | cons text rest ih =>
      obtain ⟨first, others⟩ := List.forall_mem_cons.mp apart
      cases rest with
      | nil => simpa using pieces_eq_singleton first
      | cons next more =>
          rw [List.intercalate_cons_cons, List.append_assoc, List.singleton_append,
            pieces_append first, ih (List.cons_ne_nil _ _) others]

theorem of_mem_intercalate {separator c : Char} {texts : List (List Char)}
    (member : c ∈ [separator].intercalate texts) : c = separator ∨ ∃ text ∈ texts, c ∈ text := by
  induction texts with
  | nil => cases member
  | cons text rest ih =>
      rw [List.exists_mem_cons_iff]
      cases rest with
      | nil => exact .inr (.inl (by simpa using member))
      | cons next more =>
          rw [List.intercalate_cons_cons, List.append_assoc, List.singleton_append, List.mem_append,
            List.mem_cons] at member
          rcases member with own | same | later
          · exact .inr (.inl own)
          · exact .inl same
          · exact (ih later).imp_right .inr

def escape : List Char → List Char
  | [] => []
  | c :: rest => if c = '.' then '\\' :: '.' :: escape rest else c :: escape rest

theorem unescape_escape (plain : '\\' ∉ name) : unescape (escape name) = name := by
  induction name with
  | nil => rfl
  | cons c rest ih =>
      simp only [List.mem_cons, not_or] at plain
      rw [escape]
      split
      · next isDot => rw [unescape, ih plain.2, isDot]
      · rw [unescape, ih plain.2]
        rintro others rfl
        exact absurd rfl plain.1

theorem length_unescape_le (text : List Char) : (unescape text).length ≤ text.length := by
  fun_induction unescape text with
  | case1 rest ih => simp only [List.length_cons]; omega
  | case2 c rest isOther ih => simpa using ih
  | case3 => simp

/-- A name stays as it is unless a dot of it has a backslash. -/
theorem unescape_eq_self_iff : unescape text = text ↔ ¬ ['\\', '.'] <:+: text := by
  fun_induction unescape text with
  | case1 rest ih =>
      have shorter := length_unescape_le rest
      constructor
      · intro same
        have size := congrArg List.length same
        simp only [List.length_cons] at size
        omega
      · intro absent
        exact absurd (List.prefix_append ['\\', '.'] rest).isInfix absent
  | case2 c rest isOther ih =>
      rw [List.cons.injEq, List.infix_cons_iff, ih]
      simp only [true_and, not_or, iff_and_self]
      rintro - ⟨others, same⟩
      rw [List.cons_append, List.cons.injEq] at same
      exact isOther others same.1.symm (by simpa using same.2.symm)
  | case3 => simp

theorem mem_escape {c : Char} (member : c ∈ escape name) : c = '\\' ∨ c ∈ name := by
  induction name with
  | nil => cases member
  | cons first rest ih =>
      rw [escape] at member
      split at member <;> grind

theorem getLast?_escape (name : List Char) : (escape name).getLast? = name.getLast? := by
  induction name with
  | nil => rfl
  | cons c rest ih =>
      rw [escape]
      split
      · next isDot => simp [List.getLast?_cons, ih, isDot]
      · simp [List.getLast?_cons, ih]

theorem escape_eq_nil_iff : escape name = [] ↔ name = [] := by
  rw [← List.getLast?_eq_none_iff, getLast?_escape, List.getLast?_eq_none_iff]

theorem trimStart_escape (same : trimStart name = name) : trimStart (escape name) = escape name := by
  rw [trimStart_eq_self_iff] at same ⊢
  cases name with
  | nil => simp [escape]
  | cons c rest =>
      rw [escape]
      split
      · rintro _ ⟨⟩
        decide
      · exact same

theorem trimStop_escape (same : trimStop name = name) : trimStop (escape name) = escape name := by
  rw [trimStop_eq_self_iff] at same ⊢
  rwa [getLast?_escape]

def trailing (text : List Char) : Nat := (text.reverse.takeWhile (· == '\\')).length

/-- A dot stands at the place, behind an even number of backslashes. -/
def IsOpenDot (text : List Char) (position : Nat) : Prop :=
  ∃ before after, text = before ++ '.' :: after ∧ before.length = position ∧ Even (trailing before)

theorem trailing_concat (text : List Char) (c : Char) :
    trailing (text ++ [c]) = if c = '\\' then trailing text + 1 else 0 := by
  simp only [trailing, List.reverse_append, List.reverse_singleton, List.singleton_append,
    List.takeWhile_cons, beq_iff_eq]
  split <;> simp

theorem isOpenDot_length (seen rest : List Char) {c : Char} :
    IsOpenDot (seen ++ c :: rest) seen.length ↔ c = '.' ∧ Even (trailing seen) := by
  constructor
  · rintro ⟨before, after, isText, size, isEven⟩
    obtain ⟨rfl, isRest⟩ := List.append_inj isText size.symm
    exact ⟨(List.cons.inj isRest).1, isEven⟩
  · rintro ⟨rfl, isEven⟩
    exact ⟨seen, rest, rfl, rfl, isEven⟩

/-- Behind a text the next dot is taken if a backslash of its own number is still open there. -/
theorem mem_openDots (seen rest : List Char) {position : Nat} :
    position ∈ openDots (decide (¬ Even (trailing seen))) seen.length rest ↔
      seen.length ≤ position ∧ IsOpenDot (seen ++ rest) position := by
  induction rest generalizing seen with
  | nil =>
      simp only [openDots, List.not_mem_nil, List.append_nil, false_iff, not_and]
      rintro bound ⟨before, after, rfl, rfl, -⟩
      rw [List.length_append, List.length_cons] at bound
      omega
  | cons c rest ih =>
      have later := ih (seen ++ [c])
      rw [trailing_concat, List.length_append, List.length_singleton, List.append_assoc,
        List.singleton_append] at later
      -- A place that is not before this character is its own or lies behind it.
      have here : (seen.length ≤ position ∧ IsOpenDot (seen ++ c :: rest) position) ↔
          (position = seen.length ∧ c = '.' ∧ Even (trailing seen)) ∨
            (seen.length + 1 ≤ position ∧ IsOpenDot (seen ++ c :: rest) position) := by
        rw [← isOpenDot_length seen rest]
        constructor
        · rintro ⟨bound, isOpen⟩
          rcases Nat.eq_or_lt_of_le bound with rfl | behind
          · exact .inl ⟨rfl, isOpen⟩
          · exact .inr ⟨behind, isOpen⟩
        · rintro (⟨rfl, isOpen⟩ | ⟨behind, isOpen⟩)
          · exact ⟨Nat.le_refl _, isOpen⟩
          · exact ⟨Nat.le_of_lt behind, isOpen⟩
      rw [here, ← later, openDots]
      by_cases isBackslash : c = '\\'
      · by_cases isEven : Even (trailing seen) <;> simp [isBackslash, isEven, Nat.even_add_one]
      · by_cases isDot : c = '.'
        · by_cases isEven : Even (trailing seen) <;> simp [isDot, isEven]
        · simp [isBackslash, isDot]

theorem le_of_mem_openDots {escaped : Bool} {start position : Nat}
    (member : position ∈ openDots escaped start text) : start ≤ position := by
  induction text generalizing escaped start with
  | nil => cases member
  | cons c rest ih =>
      rw [openDots] at member
      split at member
      · exact Nat.le_of_succ_le (ih member)
      · split at member
        · rcases List.mem_cons.mp member with rfl | member
          · exact Nat.le_refl _
          · exact Nat.le_of_succ_le (ih member)
        · exact Nat.le_of_succ_le (ih member)

theorem nodup_openDots (escaped : Bool) (start : Nat) (text : List Char) :
    (openDots escaped start text).Nodup := by
  induction text generalizing escaped start with
  | nil => exact List.nodup_nil
  | cons c rest ih =>
      rw [openDots]
      split
      · exact ih ..
      · split
        · refine List.nodup_cons.mpr ⟨fun member => ?_, ih ..⟩
          exact Nat.not_succ_le_self _ (le_of_mem_openDots member)
        · exact ih ..

theorem mem_openDots_zero {position : Nat} :
    position ∈ openDots false 0 text ↔ IsOpenDot text position := by
  simpa [trailing] using mem_openDots [] text

/-- The place of a dot is found just if it is the only open one. -/
theorem openDot?_eq_some_iff {position : Nat} :
    openDot? text = some position ↔ ∀ other, IsOpenDot text other ↔ other = position := by
  have isOnly : openDot? text = some position ↔ openDots false 0 text = [position] := by
    unfold openDot?
    split <;> simp_all
  simp only [isOnly, ← mem_openDots_zero]
  constructor
  · intro same other
    rw [same, List.mem_singleton]
  · intro only
    have same : (openDots false 0 text).Perm [position] := by
      rw [List.perm_ext_iff_of_nodup (nodup_openDots ..) (List.nodup_singleton _)]
      simpa using only
    exact List.perm_singleton.mp same

theorem openDots_escape (plain : '\\' ∉ name) (start : Nat) (rest : List Char) :
    openDots false start (escape name ++ rest) =
      openDots false (start + (escape name).length) rest := by
  induction name generalizing start with
  | nil => rfl
  | cons c others ih =>
      simp only [List.mem_cons, not_or] at plain
      rw [escape]
      split
      · have same := ih plain.2 (start + 1 + 1)
        rw [show start + 1 + 1 + (escape others).length = start + ((escape others).length + 1 + 1) by
          omega] at same
        simpa [openDots] using same
      · next notDot =>
        have same := ih plain.2 (start + 1)
        rw [show start + 1 + (escape others).length = start + ((escape others).length + 1) by
          omega] at same
        simpa [openDots, Ne.symm plain.1, notDot] using same

theorem openDots_eq_nil (noDots : '.' ∉ text) (escaped : Bool) (start : Nat) :
    openDots escaped start text = [] := by
  induction text generalizing escaped start with
  | nil => rfl
  | cons c rest ih =>
      simp only [List.mem_cons, not_or] at noDots
      simp [openDots, ih noDots.2, Ne.symm noDots.1]

/-- A dot behind an escaped name is open, and there is no other one in the name. -/
theorem openDot?_escape (plain : '\\' ∉ name) {rest : List Char} (noDots : '.' ∉ rest) :
    openDot? (escape name ++ '.' :: rest) = some (escape name).length := by
  have found : openDots false 0 (escape name ++ '.' :: rest) = [(escape name).length] := by
    simp [openDots_escape plain, openDots, openDots_eq_nil noDots]
  rw [openDot?, found]

end TransitMap.Text
