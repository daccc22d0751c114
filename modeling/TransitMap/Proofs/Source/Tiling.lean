import Mathlib.Data.List.Chain
import Mathlib.Data.Set.Subsingleton
import TransitMap.Proofs.Source.Token

/-!
The tokens of a source cover it from its first byte to its last one. Each is spelled by the text in
its place, and none of them goes on in the next one. A source has at most one such cover, and
reading finds it wherever there is one.
-/

namespace TransitMap

namespace Text

theorem byteLength_eq_zero_iff {text : List Char} : byteLength text = 0 ↔ text = [] := by
  cases text with
  | nil => simp [byteLength]
  | cons c rest =>
      have positive := Char.utf8Size_pos c
      simp only [byteLength, reduceCtorEq, iff_false]
      omega

theorem append_inj_of_byteLength {first second before after : List Char}
    (same : first ++ second = before ++ after) (size : byteLength first = byteLength before) :
    first = before ∧ second = after := by
  induction first generalizing before with
  | nil =>
      obtain rfl := byteLength_eq_zero_iff.mp size.symm
      exact ⟨rfl, same⟩
  | cons c rest ih =>
      cases before with
      | nil => exact absurd (byteLength_eq_zero_iff.mp size) (by simp)
      | cons d others =>
          rw [List.cons_append, List.cons_append, List.cons.injEq] at same
          obtain ⟨rfl, same⟩ := same
          obtain ⟨rfl, rfl⟩ := ih same (Nat.add_left_cancel size)
          exact ⟨rfl, rfl⟩

def StandsAt (source : List Char) (span : Span) (text : List Char) : Prop :=
  ∃ before after, source = before ++ text ++ after ∧ byteLength before = span.start ∧
    byteLength before + byteLength text = span.stop

end Text

namespace Span

/-- The spans lead from one place to another, each from where the one before it stops. -/
def Tile : Nat → Nat → List Span → Prop
  | start, stop, [] => start = stop
  | start, stop, span :: rest => span.start = start ∧ Tile span.stop stop rest

@[simp] theorem tile_nil {start stop : Nat} : Tile start stop [] ↔ start = stop := .rfl

@[simp] theorem tile_cons {start stop : Nat} {span : Span} {rest : List Span} :
    Tile start stop (span :: rest) ↔ span.start = start ∧ Tile span.stop stop rest := .rfl

theorem stop_between {start stop : Nat} (ordered : start ≤ stop) :
    (between start stop).stop = stop :=
  Nat.max_eq_left ordered

theorem between_eq_self (span : Span) : between span.start span.stop = span := by
  obtain ⟨start, stop, ordered⟩ := span
  simp [between, ordered]

end Span

namespace Token

def MayPrecede : Token → Token → Prop
  | word _, next => ∀ text, next ≠ word text
  | blank, next => next ≠ blank
  | comment _, next => next = newline
  | quoted _, _ | newline, _ => True

end Token

structure Tiling (source : List Char) (tokens : List (Located Token)) : Prop where
  tile : Span.Tile 0 (Text.byteLength source) (tokens.map Located.span)
  spelled : ∀ token ∈ tokens, ∃ text,
    Text.StandsAt source token.span text ∧ token.value.IsSpelled text
  apart : tokens.IsChain fun first second => first.value.MayPrecede second.value

namespace Token

variable {token next : Token} {start : Nat} {source text rest : List Char} {c : Char}
  {tokens : List (Located Token)}

theorem IsSpelled.stopsAt_iff (spelled : next.IsSpelled (c :: rest)) :
    token.StopsAt c ↔ token.MayPrecede next := by
  cases next with
  | word body =>
      obtain ⟨rfl, -, chars⟩ := isSpelled_word.mp spelled
      have isWord := chars c List.mem_cons_self
      have notBlank := isBlankChar_of_isWordChar isWord
      have notNewline : isCommentChar c = true := by
        simp only [isCommentChar, bne_iff_ne]
        rintro rfl
        exact absurd isWord (by decide)
      cases token <;> simp [StopsAt, MayPrecede, isWord, notBlank, notNewline]
  | quoted body =>
      obtain ⟨rfl, -⟩ := List.cons.inj spelled.1
      cases token <;> simp [StopsAt, MayPrecede] <;> decide
  | comment body =>
      obtain ⟨rfl, -⟩ := List.cons.inj spelled.1
      cases token <;> simp [StopsAt, MayPrecede] <;> decide
  | blank =>
      have isBlank := (isSpelled_blank.mp spelled).2 c List.mem_cons_self
      have classes := isBlank
      simp only [isBlankChar, Bool.and_eq_true] at classes
      have notWord : isWordChar c = false := by simp [isWordChar, classes]
      have notNewline : isCommentChar c = true := classes.2
      cases token <;> simp [StopsAt, MayPrecede, isBlank, notWord, notNewline]
  | newline =>
      obtain ⟨rfl, -⟩ := List.cons.inj spelled
      cases token <;> simp [StopsAt, MayPrecede] <;> decide

/-- Tokens spelled one after another from a place on, each as far as it goes. -/
inductive Run : Nat → List Char → List (Located Token) → Prop
  | nil (start : Nat) : Run start [] []
  | cons {start : Nat} {token : Token} {text rest : List Char} {tokens : List (Located Token)}
      (spelled : token.IsSpelled text) (stops : ∀ c ∈ rest.head?, token.StopsAt c)
      (run : Run (start + Text.byteLength text) rest tokens) :
      Run start (text ++ rest)
        (⟨token, .between start (start + Text.byteLength text)⟩ :: tokens)

theorem Run.stopsAt_iff (run : Run start text tokens) (token : Token) :
    (∀ c ∈ text.head?, token.StopsAt c) ↔ ∀ next ∈ tokens.head?, token.MayPrecede next.value := by
  cases run with
  | nil => simp
  | cons spelled stops run =>
      obtain ⟨c, rest, rfl⟩ := List.exists_cons_of_ne_nil spelled.ne_nil
      simpa using spelled.stopsAt_iff

/-- Tokens are spelled one after another behind a text just if they cover what stands there. -/
theorem run_iff (before text : List Char) :
    Run (Text.byteLength before) text tokens ↔
      Span.Tile (Text.byteLength before) (Text.byteLength (before ++ text))
        (tokens.map Located.span) ∧
      (∀ token ∈ tokens, ∃ own,
        Text.StandsAt (before ++ text) token.span own ∧ token.value.IsSpelled own) ∧
      tokens.IsChain fun first second => first.value.MayPrecede second.value := by
  induction tokens generalizing before text with
  | nil =>
      constructor
      · intro run
        cases run
        simp
      · rintro ⟨tile, -, -⟩
        have none : Text.byteLength text = 0 := by simpa using tile
        obtain rfl := Text.byteLength_eq_zero_iff.mp none
        exact .nil _
  | cons first rest ih =>
      rw [List.map_cons, List.forall_mem_cons, List.isChain_cons, Span.tile_cons]
      constructor
      · intro run
        cases run with
        | @cons _ token own after _ spelled stops run =>
            have chained := (run.stopsAt_iff token).mp stops
            rw [← Text.byteLength_append] at run
            obtain ⟨tile, later, chain⟩ := (ih (before ++ own) after).mp run
            rw [List.append_assoc] at tile later
            have stop := Span.stop_between (Nat.le_add_right (Text.byteLength before)
              (Text.byteLength own))
            rw [Text.byteLength_append, ← stop] at tile
            exact ⟨⟨rfl, tile⟩, ⟨⟨own, ⟨before, after, by simp, rfl, stop.symm⟩, spelled⟩, later⟩,
              chained, chain⟩
      · rintro ⟨⟨isStart, tile⟩, ⟨⟨own, ⟨front, after, same, size, stop⟩, spelled⟩, later⟩,
          chained, chain⟩
        rw [List.append_assoc] at same
        obtain ⟨rfl, rfl⟩ := Text.append_inj_of_byteLength same (isStart.symm.trans size.symm)
        rw [← stop, ← Text.byteLength_append, ← List.append_assoc] at tile
        rw [← List.append_assoc] at later
        have run := (ih (before ++ own) after).mpr ⟨tile, later, chain⟩
        have isFirst : first = ⟨first.value, .between (Text.byteLength before)
            (Text.byteLength before + Text.byteLength own)⟩ := by
          rw [stop, ← isStart, Span.between_eq_self]
        rw [Text.byteLength_append] at run
        rw [isFirst]
        exact .cons spelled ((run.stopsAt_iff first.value).mpr chained) run

theorem run_iff_tiling : Run 0 source tokens ↔ Tiling source tokens := by
  refine (run_iff [] source).trans ⟨fun covers => ?_, fun tiling => ?_⟩
  · obtain ⟨tile, spelled, apart⟩ := covers
    exact ⟨tile, spelled, apart⟩
  · exact ⟨tiling.tile, tiling.spelled, tiling.apart⟩

end Token

namespace Piece

variable {start : Nat} {text : List Char} {tokens : List (Located Token)}

theorem scan_eq_of_run (run : Token.Run start text tokens) :
    scan start text = tokens.map Piece.token := by
  induction run with
  | nil start => rw [scan_nil, List.map_nil]
  | cons spelled stops run ih => rw [scan_append _ spelled stops, ih, List.map_cons]

theorem run_of_scan_eq (read : scan start text = tokens.map Piece.token) :
    Token.Run start text tokens := by
  induction text using scan_induction generalizing start tokens with
  | nil =>
      rw [scan_nil] at read
      obtain rfl := List.map_eq_nil_iff.mp read.symm
      exact .nil start
  | append token own rest spelled stops ih =>
      rw [scan_append start spelled stops] at read
      cases tokens with
      | nil => cases read
      | cons first others =>
          obtain ⟨same, behind⟩ := List.cons.inj read
          obtain rfl := Piece.token.inj same
          exact .cons spelled stops (ih behind)
  | opened body rest inside stops ih =>
      rw [scan_opened start inside stops] at read
      cases tokens <;> cases read
  | foreign c rest isForeign ih =>
      rw [scan_foreign start rest isForeign] at read
      cases tokens <;> cases read

theorem scan_eq_iff : scan start text = tokens.map Piece.token ↔ Token.Run start text tokens :=
  ⟨run_of_scan_eq, scan_eq_of_run⟩

end Piece

/-- Reading returns the tokens that cover a source, which no others do, and fails just if none
do. -/
theorem tokenize_iff_tiling (source : List Char) :
    (∀ tokens, tokenize source = .ok tokens ↔ Tiling source tokens) ∧
      {tokens | Tiling source tokens}.Subsingleton ∧
      ((∃ faults, tokenize source = .error faults) ↔ ¬∃ tokens, Tiling source tokens) := by
  have exact : ∀ tokens, tokenize source = .ok tokens ↔ Tiling source tokens := fun tokens =>
    tokenize_eq_ok_iff.trans (Piece.scan_eq_iff.trans Token.run_iff_tiling)
  refine ⟨exact, fun first isFirst second isSecond => ?_, ?_⟩
  · exact Except.ok.inj (((exact first).mpr isFirst).symm.trans ((exact second).mpr isSecond))
  · simp only [← exact]
    cases tokenize source <;> simp

end TransitMap
