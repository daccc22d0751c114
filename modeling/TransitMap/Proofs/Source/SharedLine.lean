import TransitMap.Proofs.Outcome
import TransitMap.Proofs.Source.Tiling
import TransitMap.Source.Statement

/-!
Lines that begin alike in two sources. What is read from such a line is the same in both, at places
that lie equally far from the beginning of the line, and so are the complaints about it.
-/

namespace TransitMap

namespace Text

structure BeginsLine (number : Nat) (before : List Char) : Prop where
  starts : ∀ c ∈ before.getLast?, c = '\n'
  number_eq : number = before.count '\n' + 1

/-- The text is the line of this number, behind all that stands before it. -/
structure IsLine (source : List Char) (number : Nat) (before line : List Char) : Prop where
  begins : BeginsLine number before
  single : '\n' ∉ line
  exists_after : ∃ after, source = before ++ line ++ after ∧ ∀ c ∈ after.head?, c = '\n'

theorem beginsLine_nil : BeginsLine 1 [] := ⟨by simp, rfl⟩

theorem BeginsLine.next {number : Nat} {before line : List Char} (begins : BeginsLine number before)
    (single : '\n' ∉ line) : BeginsLine (number + 1) (before ++ line ++ ['\n']) := by
  refine ⟨by simp, ?_⟩
  simp [begins.number_eq, List.count_eq_zero.mpr single]

theorem byteLength_separated (before text : List Char) {separator : Char}
    (size : separator.utf8Size = 1) :
    byteLength (before ++ text ++ [separator]) = byteLength before + byteLength text + 1 := by
  rw [byteLength_append, byteLength_append, byteLength, size, byteLength]

theorem intercalate_pieces (separator : Char) (text : List Char) :
    [separator].intercalate (pieces separator text) = text := by
  induction text with
  | nil => rfl
  | cons c rest ih =>
      simp only [pieces]
      cases found : pieces separator rest with
      | nil => exact absurd found (pieces_ne_nil separator rest)
      | cons piece others =>
          rw [found] at ih
          split
          · next same => rw [List.intercalate_cons_cons, ih, same]; rfl
          · cases others <;> simp_all [List.intercalate_cons_cons]

theorem append_of_splitOnce? {separator : Char} {text before after : List Char}
    (split : splitOnce? separator text = some (before, after)) :
    text = before ++ separator :: after := by
  induction text generalizing before with
  | nil => cases split
  | cons c rest ih =>
      rw [splitOnce?] at split
      split at split
      · next same =>
          cases split
          rw [same, List.nil_append]
      · obtain ⟨⟨front, back⟩, isSplit, same⟩ := Option.map_eq_some_iff.mp split
        cases same
        rw [List.cons_append, ← ih isSplit]

theorem exists_append_trimStop (text : List Char) :
    ∃ blanks, text = trimStop text ++ blanks ∧ ∀ c ∈ blanks, isBlank c = true := by
  refine ⟨(text.reverse.takeWhile isBlank).reverse, ?_, ?_⟩
  · rw [trimStop, trimStart, ← List.reverse_append, List.takeWhile_append_dropWhile,
      List.reverse_reverse]
  · intro c member
    exact List.mem_takeWhile_imp (List.mem_reverse.mp member)

theorem exists_append_trim (text : List Char) :
    ∃ blanks, text = text.takeWhile isBlank ++ trim text ++ blanks ∧
      ∀ c ∈ blanks, isBlank c = true := by
  obtain ⟨blanks, isRest, areBlanks⟩ := exists_append_trimStop (trimStart text)
  refine ⟨blanks, ?_, areBlanks⟩
  rw [List.append_assoc, trim, ← isRest, trimStart, List.takeWhile_append_dropWhile]

end Text

namespace Span

def of (place : Nat) (text : List Char) : Span := between place (place + Text.byteLength text)

@[simp] theorem start_of (place : Nat) (text : List Char) : (of place text).start = place := rfl

@[simp] theorem stop_of (place : Nat) (text : List Char) :
    (of place text).stop = place + Text.byteLength text :=
  stop_between (Nat.le_add_right ..)

/-- The spans select the same text from two sources. -/
def Agree (source other : List Char) (here there : Span) : Prop :=
  ∃ text, Text.StandsAt source here text ∧ Text.StandsAt other there text

theorem agree_empty (source other : List Char) : Agree source other empty empty :=
  ⟨[], ⟨[], source, rfl, rfl, rfl⟩, [], other, rfl, rfl, rfl⟩

theorem standsAt_of (before text after : List Char) :
    Text.StandsAt (before ++ text ++ after) (of (Text.byteLength before) text) text :=
  ⟨before, after, rfl, rfl, (stop_of ..).symm⟩

end Span

/-- A line that begins with the same text in two sources. -/
structure SharedLine (source other : List Char) where
  number : Nat
  text : List Char
  before : List Char
  otherBefore : List Char
  isLine : ∃ rest, Text.IsLine source number before (text ++ rest)
  isOtherLine : ∃ rest, Text.IsLine other number otherBefore (text ++ rest)

def Argument.written (argument : Argument) : List Char :=
  match argument.kind with
  | .word => argument.text
  | .quoted => '"' :: argument.text ++ ['"']

namespace SharedLine

variable {source other : List Char} {shared : SharedLine source other} {text front inner back : List Char}

/-- The text stands in the line, at these places of the two sources. -/
def Shows (shared : SharedLine source other) (text : List Char) (place otherPlace : Nat) : Prop :=
  ∃ left right, shared.text = left ++ text ++ right ∧
    place = Text.byteLength (shared.before ++ left) ∧
    otherPlace = Text.byteLength (shared.otherBefore ++ left)

def Selects (shared : SharedLine source other) (text : List Char) (here there : Span) : Prop :=
  ∃ place otherPlace, shared.Shows text place otherPlace ∧ here = .of place text ∧
    there = .of otherPlace text

def Marks (shared : SharedLine source other) (here there : Span) : Prop :=
  ∃ text, shared.Selects text here there

theorem Shows.within {place otherPlace : Nat}
    (shows : shared.Shows (front ++ inner ++ back) place otherPlace) :
    shared.Shows inner (place + Text.byteLength front) (otherPlace + Text.byteLength front) := by
  obtain ⟨left, right, isText, rfl, rfl⟩ := shows
  refine ⟨left ++ front, back ++ right, by simp [isText], ?_, ?_⟩
  · simp [Nat.add_assoc]
  · simp [Nat.add_assoc]

theorem Shows.beginning {place otherPlace : Nat} (shows : shared.Shows (inner ++ back) place otherPlace) :
    shared.Shows inner place otherPlace :=
  Shows.within (show shared.Shows ([] ++ inner ++ back) place otherPlace from shows)

theorem Shows.behind {place otherPlace : Nat} (shows : shared.Shows (front ++ inner) place otherPlace) :
    shared.Shows inner (place + Text.byteLength front) (otherPlace + Text.byteLength front) := by
  rw [← List.append_nil (front ++ inner)] at shows
  exact shows.within

theorem Selects.within {here there : Span}
    (selects : shared.Selects (front ++ inner ++ back) here there) :
    shared.Selects inner (.of (here.start + Text.byteLength front) inner)
      (.of (there.start + Text.byteLength front) inner) := by
  obtain ⟨place, otherPlace, shows, rfl, rfl⟩ := selects
  exact ⟨_, _, shows.within, rfl, rfl⟩

theorem Selects.marks {here there : Span} (selects : shared.Selects text here there) :
    shared.Marks here there :=
  ⟨text, selects⟩

theorem Selects.standsAt {here there : Span} (selects : shared.Selects text here there) :
    Text.StandsAt source here text ∧ Text.StandsAt other there text := by
  obtain ⟨_, _, ⟨left, right, isText, rfl, rfl⟩, rfl, rfl⟩ := selects
  obtain ⟨rest, -, -, after, isSource, -⟩ := shared.isLine
  obtain ⟨otherRest, -, -, otherAfter, isOther, -⟩ := shared.isOtherLine
  constructor
  · have standsAt := Span.standsAt_of (shared.before ++ left) text (right ++ rest ++ after)
    rwa [show shared.before ++ left ++ text ++ (right ++ rest ++ after) = source by
      simp [isSource, isText]] at standsAt
  · have standsAt := Span.standsAt_of (shared.otherBefore ++ left) text
      (right ++ otherRest ++ otherAfter)
    rwa [show shared.otherBefore ++ left ++ text ++ (right ++ otherRest ++ otherAfter) = other by
      simp [isOther, isText]] at standsAt

theorem Marks.agree {here there : Span} (marks : shared.Marks here there) :
    Span.Agree source other here there := by
  obtain ⟨text, selects⟩ := marks
  exact ⟨text, selects.standsAt⟩

theorem marks_iff {here there : Span} :
    shared.Marks here there ↔ ∃ left stop, left <+: stop ∧ stop <+: shared.text ∧
      here = .between (Text.byteLength (shared.before ++ left))
        (Text.byteLength (shared.before ++ stop)) ∧
      there = .between (Text.byteLength (shared.otherBefore ++ left))
        (Text.byteLength (shared.otherBefore ++ stop)) := by
  constructor
  · rintro ⟨text, _, _, ⟨left, right, isText, rfl, rfl⟩, rfl, rfl⟩
    refine ⟨left, left ++ text, List.prefix_append .., ⟨right, isText.symm⟩, ?_, ?_⟩
    · rw [Span.of, ← Text.byteLength_append, List.append_assoc]
    · rw [Span.of, ← Text.byteLength_append, List.append_assoc]
  · rintro ⟨left, _, ⟨text, rfl⟩, ⟨right, isText⟩, rfl, rfl⟩
    refine ⟨text, _, _, ⟨left, right, isText.symm, rfl, rfl⟩, ?_, ?_⟩
    · rw [Span.of, ← Text.byteLength_append, List.append_assoc]
    · rw [Span.of, ← Text.byteLength_append, List.append_assoc]

theorem exists_extremes {first second : List Char} (isFirst : first <+: text)
    (isSecond : second <+: text) :
    ∃ lesser greater, lesser <+: first ∧ first <+: greater ∧ greater <+: text ∧
      ∀ before, Text.byteLength (before ++ lesser) =
          min (Text.byteLength (before ++ first)) (Text.byteLength (before ++ second)) ∧
        Text.byteLength (before ++ greater) =
          max (Text.byteLength (before ++ first)) (Text.byteLength (before ++ second)) := by
  rcases List.prefix_or_prefix_of_prefix isFirst isSecond with ⟨more, rfl⟩ | ⟨more, rfl⟩
  · refine ⟨first, first ++ more, List.prefix_rfl, List.prefix_append .., isSecond, fun before => ?_⟩
    simp only [Text.byteLength_append]
    omega
  · refine ⟨second, second ++ more, List.prefix_append .., List.prefix_rfl, isFirst, fun before => ?_⟩
    simp only [Text.byteLength_append]
    omega

theorem Marks.union {here there otherHere otherThere : Span} (marks : shared.Marks here there)
    (otherMarks : shared.Marks otherHere otherThere) :
    shared.Marks (here.union otherHere) (there.union otherThere) := by
  rw [marks_iff] at marks otherMarks
  obtain ⟨left, stop, ordered, isStop, rfl, rfl⟩ := marks
  obtain ⟨otherLeft, otherStop, otherOrdered, isOtherStop, rfl, rfl⟩ := otherMarks
  -- The union begins at the lesser of the two beginnings and stops at the greater of the two stops.
  obtain ⟨least, _, isLeast, -, -, leastSize⟩ :=
    exists_extremes (ordered.trans isStop) (otherOrdered.trans isOtherStop)
  obtain ⟨_, greatest, -, isGreatest, inText, greatestSize⟩ := exists_extremes isStop isOtherStop
  have size_mono : ∀ {first second : List Char} (before : List Char), first <+: second →
      Text.byteLength (before ++ first) ≤ Text.byteLength (before ++ second) := by
    rintro first _ before ⟨more, rfl⟩
    simp only [Text.byteLength_append]
    omega
  refine marks_iff.mpr ⟨least, greatest, isLeast.trans (ordered.trans isGreatest), inText, ?_, ?_⟩
  all_goals
    rw [Span.union, Span.stop_between (size_mono _ ordered),
      Span.stop_between (size_mono _ otherOrdered), (leastSize _).1, (greatestSize _).2]
    rfl

structure IsArgument (shared : SharedLine source other) (here there : Argument) : Prop where
  kind : here.kind = there.kind
  text : here.text = there.text
  selects : shared.Selects here.written here.span there.span

/-- The same value, read from the same part of the line. -/
structure IsValue {α : Type} (shared : SharedLine source other) (here there : Located α) :
    Prop where
  value : here.value = there.value
  marks : shared.Marks here.span there.span

structure IsItem (shared : SharedLine source other) (here there : Located (List Char)) : Prop where
  value : here.value = there.value
  selects : shared.Selects here.value here.span there.span

structure IsOrigin (shared : SharedLine source other) (here there : Origin) : Prop where
  line : here.line = shared.number
  otherLine : there.line = shared.number
  marks : shared.Marks here.span there.span

structure IsStatement (shared : SharedLine source other) (here there : Statement) : Prop where
  line : here.line = shared.number
  otherLine : there.line = shared.number
  head : shared.IsArgument here.head there.head
  operands : List.Forall₂ shared.IsArgument here.operands there.operands

theorem IsItem.isValue {here there : Located (List Char)} (isItem : shared.IsItem here there) :
    shared.IsValue here there :=
  ⟨isItem.value, isItem.selects.marks⟩

theorem IsValue.map {α β : Type} {here there : Located α} (isValue : shared.IsValue here there)
    (f : α → β) : shared.IsValue (here.map f) (there.map f) :=
  ⟨congrArg f isValue.value, isValue.marks⟩

theorem IsItem.string {here there : Located (List Char)} (isItem : shared.IsItem here there) :
    shared.IsValue here.string there.string :=
  isItem.isValue.map String.ofList

namespace IsArgument

variable {here there : Argument}

theorem marks (isArgument : shared.IsArgument here there) : shared.Marks here.span there.span :=
  isArgument.selects.marks

theorem string (isArgument : shared.IsArgument here there) : here.string = there.string :=
  congrArg String.ofList isArgument.text

theorem located (isArgument : shared.IsArgument here there) :
    shared.IsValue here.located there.located :=
  ⟨isArgument.string, isArgument.marks⟩

theorem shows (isArgument : shared.IsArgument here there) :
    shared.Shows here.text here.textStart there.textStart := by
  obtain ⟨place, otherPlace, shows, isSpan, isOtherSpan⟩ := isArgument.selects
  rw [Argument.textStart, Argument.textStart, ← isArgument.kind, isSpan, isOtherSpan]
  cases kind : here.kind with
  | word => rwa [Argument.written, kind] at shows
  | quoted =>
      rw [Argument.written, kind] at shows
      exact Shows.behind (show shared.Shows (['"'] ++ here.text) _ _ from shows.beginning)

end IsArgument

theorem Shows.isItem_trimmedAt {place otherPlace : Nat}
    (shows : shared.Shows text place otherPlace) :
    shared.IsItem (trimmedAt place text) (trimmedAt otherPlace text) := by
  obtain ⟨blanks, isText, -⟩ := Text.exists_append_trim text
  rw [isText] at shows
  exact ⟨rfl, _, _, shows.within, rfl, rfl⟩

theorem Shows.itemsAt {separator : Char} {pieces : List (List Char)} {place otherPlace : Nat}
    (shows : shared.Shows ([separator].intercalate pieces) place otherPlace) :
    List.Forall₂ shared.IsItem (TransitMap.itemsAt separator place pieces)
      (TransitMap.itemsAt separator otherPlace pieces) := by
  induction pieces generalizing place otherPlace with
  | nil => exact .nil
  | cons piece rest ih =>
      cases rest with
      | nil =>
          rw [List.intercalate_singleton] at shows
          exact .cons shows.isItem_trimmedAt .nil
      | cons next others =>
          rw [List.intercalate_cons_cons] at shows
          apply List.Forall₂.cons
          · apply Shows.isItem_trimmedAt
            rw [List.append_assoc] at shows
            exact shows.beginning
          · apply ih
            simpa [Text.byteLength, Nat.add_assoc] using shows.behind

theorem IsArgument.items {here there : Argument} (isArgument : shared.IsArgument here there)
    (separator : Char) :
    List.Forall₂ shared.IsItem (here.items separator) (there.items separator) := by
  rw [Argument.items, Argument.items, ← isArgument.text]
  apply Shows.itemsAt
  rw [Text.intercalate_pieces]
  exact isArgument.shows

theorem getLastD_of_forall₂ {α β : Type} {R : α → β → Prop} {left : List α} {right : List β}
    (related : List.Forall₂ R left right) {first : α} {second : β} (fallback : R first second) :
    R (left.getLastD first) (right.getLastD second) := by
  induction related generalizing first second with
  | nil => exact fallback
  | cons head rest ih =>
      rw [List.getLastD_cons, List.getLastD_cons]
      exact ih head

namespace IsStatement

variable {here there : Statement}

theorem keyword (isStatement : shared.IsStatement here there) : here.keyword = there.keyword :=
  isStatement.head.string

theorem marks (isStatement : shared.IsStatement here there) :
    shared.Marks here.span there.span :=
  isStatement.head.marks.union
    (getLastD_of_forall₂ isStatement.operands isStatement.head).marks

theorem isOrigin (isStatement : shared.IsStatement here there) :
    shared.IsOrigin here.origin there.origin :=
  ⟨isStatement.line, isStatement.otherLine, isStatement.marks⟩

end IsStatement

end SharedLine

/-- The complaints that a source can give rise to. The others cannot come up, since bends that cannot
be drawn and stations that lack a line are refused before. -/
def Complaint.Arises : Complaint → Prop
  | undrawableBend _ | stationWithoutLine _ => False
  | _ => True

/-- The same complaint about the same part of a line, with related places that agree. -/
inductive Diagnostic.Alike (source other : List Char) : Diagnostic → Diagnostic → Prop
  | complaint (shared : SharedLine source other) {complaint : Complaint} {here there : Span}
      (arises : complaint.Arises) (marks : shared.Marks here there) :
      Alike source other (complaint.diagnostic here (some shared.number))
        (complaint.diagnostic there (some shared.number))
  | related {diagnostic otherDiagnostic : Diagnostic} {here there : Span} (message : String)
      (alike : Alike source other diagnostic otherDiagnostic)
      (agree : Span.Agree source other here there) :
      Alike source other (diagnostic.withRelated here message)
        (otherDiagnostic.withRelated there message)

theorem SharedLine.IsOrigin.alike {source other : List Char} {shared : SharedLine source other}
    {here there : Origin} (isOrigin : shared.IsOrigin here there) {complaint : Complaint}
    (arises : complaint.Arises) {span otherSpan : Span} (marks : shared.Marks span otherSpan) :
    Diagnostic.Alike source other (here.diagnostic complaint span)
      (there.diagnostic complaint otherSpan) := by
  rw [Origin.diagnostic, Origin.diagnostic, isOrigin.line, isOrigin.otherLine]
  exact .complaint shared arises marks

end TransitMap
