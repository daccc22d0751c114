import TransitMap.Proofs.Source.Tiling

/-!
Where the diagnostics about characters point: each at text that is there, one behind the other. The
mark of a character that starts no token is one byte long, so that it ends within the character if
that has more.
-/

namespace TransitMap

namespace Text

/-- A character begins at the place, or the text ends there. -/
def IsBoundary (source : List Char) (place : Nat) : Prop :=
  ∃ before after, source = before ++ after ∧ byteLength before = place

def BeginsAt (source : List Char) (place : Nat) (c : Char) : Prop :=
  ∃ before after, source = before ++ c :: after ∧ byteLength before = place

theorem BeginsAt.isBoundary {source : List Char} {place : Nat} {c : Char}
    (begins : BeginsAt source place c) : IsBoundary source place := by
  obtain ⟨before, after, isSource, size⟩ := begins
  exact ⟨before, c :: after, isSource, size⟩

theorem isBoundary_succ_iff (before after : List Char) (c : Char) :
    IsBoundary (before ++ c :: after) (byteLength before + 1) ↔ c.utf8Size = 1 := by
  have positive := Char.utf8Size_pos c
  constructor
  · intro boundary
    obtain ⟨front, back, same, size⟩ := boundary
    rcases List.append_eq_append_iff.mp same with ⟨middle, rfl, isRest⟩ | ⟨middle, rfl, -⟩
    · cases middle with
      | nil => simp at size
      | cons first others =>
          obtain ⟨rfl, -⟩ := List.cons.inj isRest
          rw [byteLength_append, byteLength] at size
          omega
    · rw [byteLength_append] at size
      omega
  · intro single
    exact ⟨before ++ [c], after, by simp, by simp [byteLength, single]⟩

end Text

/-- Besides white space and the marks of strings and comments only control characters start no
word. -/
theorem Token.isForeign_iff {c : Char} :
    IsForeign c ↔ Text.isControl c = true ∧ Text.isBlank c = false := by
  constructor
  · intro isForeign
    have notBlank : Text.isBlank c = false := by
      simpa [isBlankChar, isForeign.notNewline] using isForeign.notBlank
    refine ⟨?_, notBlank⟩
    simpa [isWordChar, notBlank, isForeign.notQuote, isForeign.notMark] using isForeign.notWord
  · intro classes
    obtain ⟨isControl, notBlank⟩ := classes
    have apart : ∀ other, Text.isControl other = false ∨ Text.isBlank other = true → c ≠ other := by
      intro other isOther same
      subst same
      simp [isControl, notBlank] at isOther
    exact ⟨apart '"' (.inl (by decide)), apart '#' (.inl (by decide)),
      apart '\n' (.inr (by decide)), by simp [isBlankChar, notBlank],
      by simp [isWordChar, isControl]⟩

/-- The label begins at a fault of the source and marks text that is there. It ends between two
characters just if the first one it marks has a single byte. -/
structure Label.MarksFault (source : List Char) (label : Label) : Prop where
  nonempty : label.span.start < label.span.stop
  inside : label.span.stop ≤ Text.byteLength source
  starts : Text.IsBoundary source label.span.start
  begins : ∃ c, Text.BeginsAt source label.span.start c ∧
    (c = '"' ∨ Text.isControl c = true ∧ Text.isBlank c = false) ∧
    (Text.IsBoundary source label.span.stop ↔ c.utf8Size = 1)

namespace Diagnostic

/-- Diagnostics with one label each, which mark faults of the source one behind the other from a
place on. -/
inductive MarkFaults (source : List Char) : Nat → List Diagnostic → Prop
  | nil (start : Nat) : MarkFaults source start []
  | cons {start : Nat} {diagnostic : Diagnostic} {label : Label} {later : List Diagnostic}
      (labels : diagnostic.labels = [label]) (behind : start ≤ label.span.start)
      (marks : label.MarksFault source) (rest : MarkFaults source label.span.stop later) :
      MarkFaults source start (diagnostic :: later)

variable {source : List Char} {start earlier : Nat} {diagnostics : List Diagnostic}

theorem MarkFaults.mono (mark : MarkFaults source start diagnostics) (bound : earlier ≤ start) :
    MarkFaults source earlier diagnostics := by
  cases mark with
  | nil => exact .nil earlier
  | cons labels behind marks rest => exact .cons labels (bound.trans behind) marks rest

theorem MarkFaults.forall_mem (mark : MarkFaults source start diagnostics) :
    ∀ diagnostic ∈ diagnostics, ∃ label, diagnostic.labels = [label] ∧
      start ≤ label.span.start ∧ label.MarksFault source := by
  induction mark with
  | nil => simp
  | cons labels behind marks rest ih =>
      rw [List.forall_mem_cons]
      refine ⟨⟨_, labels, behind, marks⟩, fun diagnostic member => ?_⟩
      obtain ⟨label, isOnly, later, isMark⟩ := ih diagnostic member
      exact ⟨label, isOnly, behind.trans (marks.nonempty.le.trans later), isMark⟩

theorem MarkFaults.pairwise (mark : MarkFaults source start diagnostics) :
    diagnostics.Pairwise fun before after => ∀ first ∈ before.labels, ∀ second ∈ after.labels,
      first.span.stop ≤ second.span.start := by
  induction mark with
  | nil => exact .nil
  | cons labels behind marks rest ih =>
      refine .cons (fun after member => ?_) ih
      obtain ⟨label, isOnly, later, -⟩ := rest.forall_mem after member
      simpa [labels, isOnly] using later

end Diagnostic

theorem Label.marksFault_opened (before body after : List Char) {label : Label}
    (isSpan : label.span = .between (Text.byteLength before)
      (Text.byteLength before + Text.byteLength ('"' :: body))) :
    label.MarksFault (before ++ ('"' :: body ++ after)) := by
  have size : Text.byteLength ('"' :: body) = 1 + Text.byteLength body := rfl
  have isStop : label.span.stop = Text.byteLength (before ++ '"' :: body) := by
    rw [isSpan, Span.stop_between (Nat.le_add_right ..), Text.byteLength_append]
  have isStart : label.span.start = Text.byteLength before := by rw [isSpan]; rfl
  have begins : Text.BeginsAt (before ++ ('"' :: body ++ after)) label.span.start '"' :=
    ⟨before, body ++ after, rfl, isStart.symm⟩
  constructor
  case nonempty =>
    rw [isStart, isStop, Text.byteLength_append]
    omega
  case inside =>
    rw [isStop, ← List.append_assoc, Text.byteLength_append (before ++ '"' :: body)]
    exact Nat.le_add_right ..
  case starts => exact begins.isBoundary
  case begins =>
    refine ⟨'"', begins, .inl rfl, fun _ => rfl, fun _ => ?_⟩
    exact ⟨before ++ '"' :: body, after, by simp, isStop.symm⟩

theorem Label.marksFault_foreign (before after : List Char) {c : Char}
    (isForeign : Token.IsForeign c) {label : Label}
    (isSpan : label.span = .between (Text.byteLength before) (Text.byteLength before + 1)) :
    label.MarksFault (before ++ c :: after) := by
  have positive := Char.utf8Size_pos c
  have isStop : label.span.stop = Text.byteLength before + 1 := by
    rw [isSpan, Span.stop_between (Nat.le_add_right ..)]
  have isStart : label.span.start = Text.byteLength before := by rw [isSpan]; rfl
  have begins : Text.BeginsAt (before ++ c :: after) label.span.start c :=
    ⟨before, after, rfl, isStart.symm⟩
  constructor
  case nonempty =>
    rw [isStart, isStop]
    omega
  case inside =>
    rw [isStop, Text.byteLength_append, Text.byteLength]
    omega
  case starts => exact begins.isBoundary
  case begins =>
    refine ⟨c, begins, .inr (Token.isForeign_iff.mp isForeign), ?_⟩
    rw [isStop]
    exact Text.isBoundary_succ_iff before after c

/-- The faults of a text mark it from left to right, wherever it stands. -/
theorem Piece.markFaults_scan (before text : List Char) :
    Diagnostic.MarkFaults (before ++ text) (Text.byteLength before)
      ((scan (Text.byteLength before) text).filterMap diagnostic?) := by
  induction text using scan_induction generalizing before with
  | nil =>
      rw [scan_nil]
      exact .nil _
  | append token own rest spelled stops ih =>
      rw [scan_append _ spelled stops, List.filterMap_cons_none rfl, ← Text.byteLength_append,
        ← List.append_assoc]
      refine (ih (before ++ own)).mono ?_
      rw [Text.byteLength_append]
      exact Nat.le_add_right ..
  | opened body rest inside stops ih =>
      rw [scan_opened _ inside stops]
      simp only [List.filterMap_cons, diagnostic?]
      refine .cons rfl (Nat.le_refl _) (Label.marksFault_opened before body rest rfl) ?_
      have isStop := Span.stop_between (Nat.le_add_right (Text.byteLength before)
        (Text.byteLength ('"' :: body)))
      rw [isStop, ← Text.byteLength_append, ← List.append_assoc]
      exact ih _
  | foreign c rest isForeign ih =>
      rw [scan_foreign _ rest isForeign]
      simp only [List.filterMap_cons, diagnostic?]
      refine .cons rfl (Nat.le_refl _) (Label.marksFault_foreign before rest isForeign rfl) ?_
      have behind := ih (before ++ [c])
      rw [List.append_assoc, List.singleton_append, Text.byteLength_append] at behind
      -- Reading goes on behind the character, which may be further than its mark goes.
      have isStop := Span.stop_between (Nat.le_add_right (Text.byteLength before) 1)
      refine behind.mono ?_
      rw [isStop, Text.byteLength, Text.byteLength]
      exact Nat.add_le_add_left (Char.utf8Size_pos c) _

/-- Each diagnostic about the characters of a source marks text of its own, one behind the other:
an open string, or the first byte of a control character. The mark ends between two characters
unless the control character has more than one byte. -/
theorem tokenize_marks_faults {source : List Char} {faults : List Diagnostic}
    (failed : tokenize source = .error faults) :
    (∀ fault ∈ faults, ∃ label, fault.labels = [label] ∧ label.MarksFault source) ∧
      faults.Pairwise fun before after => ∀ first ∈ before.labels, ∀ second ∈ after.labels,
        first.span.stop ≤ second.span.start := by
  have isFaults : faults = (Piece.scan 0 source).filterMap Piece.diagnostic? := by
    rw [← lexicalFaults_eq, lexicalFaults, failed]
  have mark : Diagnostic.MarkFaults source 0 faults := isFaults ▸ Piece.markFaults_scan [] source
  refine ⟨fun fault member => ?_, mark.pairwise⟩
  obtain ⟨label, isOnly, -, marks⟩ := mark.forall_mem fault member
  exact ⟨label, isOnly, marks⟩

def escapedSource : List Char := "é\x80x \"é".toList

def escapedFaults : List Diagnostic :=
  [Complaint.unexpectedCharacter.diagnostic (.between 2 3) none,
    Complaint.unterminatedQuote.diagnostic (.between 6 9) none]

theorem tokenize_escaped : tokenize escapedSource = .error escapedFaults := by
  have pieces : Piece.scan 0 escapedSource = [.token ⟨.word ['é'], .between 0 2⟩,
      .fault .unexpectedCharacter (.between 2 3), .token ⟨.word ['x'], .between 4 5⟩,
      .token ⟨.blank, .between 5 6⟩, .fault .unterminatedQuote (.between 6 9)] := by
    decide +kernel
  rw [tokenize, pieces]
  rfl

theorem tokenize_marks_faults_escaped :
    tokenize escapedSource = .error escapedFaults ∧
      ∀ fault ∈ escapedFaults, ∃ label, fault.labels = [label] ∧ label.MarksFault escapedSource :=
  ⟨tokenize_escaped, (tokenize_marks_faults tokenize_escaped).1⟩

/-- The mark of the control character ends within it. -/
theorem not_isBoundary_escaped :
    tokenize escapedSource = .error escapedFaults ∧
      ¬∀ fault ∈ escapedFaults, ∀ label ∈ fault.labels,
        Text.IsBoundary escapedSource label.span.start ∧
          Text.IsBoundary escapedSource label.span.stop := by
  refine ⟨tokenize_escaped, fun boundaries => ?_⟩
  have boundary := (boundaries _ List.mem_cons_self _ List.mem_cons_self).2
  have isSource : escapedSource = ['é'] ++ '\x80' :: "x \"é".toList := rfl
  rw [isSource] at boundary
  exact absurd ((Text.isBoundary_succ_iff ['é'] _ '\x80').mp boundary) (by decide)

end TransitMap
