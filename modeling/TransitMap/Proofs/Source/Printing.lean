import TransitMap.Proofs.Source.Annotation
import TransitMap.Proofs.Text

namespace TransitMap

/-- A text that can be put down as an argument of this kind. -/
def ArgumentKind.Allows (text : List Char) : ArgumentKind → Prop
  | word => text ≠ [] ∧ ∀ c ∈ text, Token.isWordChar c = true
  | quoted => ∀ c ∈ text, c ≠ '"' ∧ c ≠ '#' ∧ c ≠ '\n'

structure Literal where
  kind : ArgumentKind
  text : List Char
  allows : kind.Allows text

namespace Literal

def written (literal : Literal) : List Char :=
  match literal.kind with
  | .word => literal.text
  | .quoted => '"' :: literal.text ++ ['"']

def token (literal : Literal) : Token :=
  match literal.kind with
  | .word => .word literal.text
  | .quoted => .quoted literal.text

def argument (place : Nat) (literal : Literal) : Argument :=
  ⟨literal.kind, literal.text, .of place literal.written⟩

theorem isSpelled (literal : Literal) : literal.token.IsSpelled literal.written := by
  obtain ⟨kind, text, allows⟩ := literal
  cases kind with
  | word => exact Token.isSpelled_word.mpr ⟨rfl, allows⟩
  | quoted =>
      refine ⟨rfl, fun c member => ?_⟩
      obtain ⟨notQuote, notMark, inLine⟩ := allows c member
      exact ⟨notQuote, inLine, notMark⟩

theorem token_ne_blank (literal : Literal) : literal.token ≠ .blank := by
  obtain ⟨_ | _, text, allows⟩ := literal
  all_goals exact Token.noConfusion

theorem mayPrecede_blank (literal : Literal) : literal.token.MayPrecede .blank := by
  obtain ⟨_ | _, text, allows⟩ := literal
  all_goals simp [token, Token.MayPrecede]

theorem argument?_token (place : Nat) (literal : Literal) :
    Piece.argument? (.token ⟨literal.token, .of place literal.written⟩) =
      some (literal.argument place) := by
  obtain ⟨_ | _, text, allows⟩ := literal
  all_goals rfl

theorem run_cons (literal : Literal) {place : Nat} {rest : List Char} {tokens : List (Located Token)}
    (run : Token.Run (place + Text.byteLength literal.written) rest tokens)
    (stops : ∀ next ∈ tokens.head?, literal.token.MayPrecede next.value) :
    Token.Run place (literal.written ++ rest)
      (⟨literal.token, .of place literal.written⟩ :: tokens) :=
  .cons literal.isSpelled ((run.stopsAt_iff literal.token).mpr stops) run

theorem newline_notMem_written (literal : Literal) : '\n' ∉ literal.written := by
  obtain ⟨_ | _, text, allows⟩ := literal
  · exact fun member => absurd (allows.2 _ member) (by decide)
  · have inText : '\n' ∉ text := fun member => (allows _ member).2.2 rfl
    simp [written, inText]

end Literal

def printedLine (literals : List Literal) : List Char :=
  [' '].intercalate (literals.map Literal.written)

def argumentsAt (place : Nat) : List Literal → List Argument
  | [] => []
  | literal :: rest =>
      literal.argument place :: argumentsAt (place + Text.byteLength literal.written + 1) rest

@[simp] theorem printedLine_singleton (literal : Literal) :
    printedLine [literal] = literal.written := List.intercalate_singleton

theorem printedLine_cons_cons (first second : Literal) (rest : List Literal) :
    printedLine (first :: second :: rest) = first.written ++ ' ' :: printedLine (second :: rest) := by
  simp [printedLine, List.intercalate_cons_cons]

theorem newline_notMem_printedLine (literals : List Literal) : '\n' ∉ printedLine literals := by
  intro member
  rcases Text.of_mem_intercalate member with same | ⟨text, isText, inText⟩
  · exact absurd same (by decide)
  · obtain ⟨literal, -, rfl⟩ := List.mem_map.mp isText
    exact literal.newline_notMem_written inText

/-- The tokens of a line of literals are its words and strings, with white space between them only. -/
theorem exists_run_printedLine (place : Nat) (literals : List Literal) :
    ∃ tokens, Token.Run place (printedLine literals) tokens ∧
      (∀ first ∈ tokens.head?, first.value ≠ .blank) ∧
      (tokens.map Piece.token).filterMap Piece.argument? = argumentsAt place literals := by
  induction literals generalizing place with
  | nil => exact ⟨[], .nil place, by simp, rfl⟩
  | cons first rest ih =>
      cases rest with
      | nil =>
          have run := first.run_cons (.nil (place + Text.byteLength first.written)) (by simp)
          rw [List.append_nil] at run
          rw [printedLine_singleton]
          refine ⟨_, run, by simpa using first.token_ne_blank, ?_⟩
          exact List.filterMap_cons_some (first.argument?_token place)
      | cons second others =>
          obtain ⟨tokens, run, notBlank, areArguments⟩ :=
            ih (place + Text.byteLength first.written + 1)
          have isSpace : Token.blank.IsSpelled [' '] := ⟨by simp, by simp [Text.isBlank]⟩
          have spaced := Token.Run.cons isSpace ((run.stopsAt_iff .blank).mpr notBlank) run
          rw [printedLine_cons_cons]
          refine ⟨_, first.run_cons spaced (by simpa using first.mayPrecede_blank),
            by simpa using first.token_ne_blank, ?_⟩
          rw [List.map_cons, List.filterMap_cons_some (first.argument?_token place), List.map_cons,
            List.filterMap_cons_none rfl, areArguments]
          rfl

theorem Span.union_eq_between {first last : Span} (starts : first.start ≤ last.start)
    (stops : first.stop ≤ last.stop) : first.union last = between first.start last.stop := by
  rw [union, Nat.min_eq_left starts, Nat.max_eq_right stops]

/-- The argument is the literal, and its place selects the literal as it is put down. -/
structure Literal.IsReadAs (source : List Char) (literal : Literal) (argument : Argument) : Prop where
  kind : argument.kind = literal.kind
  text : argument.text = literal.text
  standsAt : Text.StandsAt source argument.span literal.written

theorem Literal.isReadAs_argument (before : List Char) (literal : Literal) (after : List Char) :
    literal.IsReadAs (before ++ literal.written ++ after)
      (literal.argument (Text.byteLength before)) :=
  ⟨rfl, rfl, Span.standsAt_of before literal.written after⟩

theorem isReadAs_argumentsAt (before : List Char) (literals : List Literal) (after : List Char) :
    List.Forall₂ (Literal.IsReadAs (before ++ printedLine literals ++ after)) literals
      (argumentsAt (Text.byteLength before) literals) := by
  induction literals generalizing before with
  | nil => exact .nil
  | cons first rest ih =>
      cases rest with
      | nil =>
          rw [printedLine_singleton]
          exact .cons (first.isReadAs_argument before after) .nil
      | cons second others =>
          have head := first.isReadAs_argument before (' ' :: printedLine (second :: others) ++ after)
          have later := ih (before ++ first.written ++ [' '])
          rw [Text.byteLength_separated before first.written rfl] at later
          rw [printedLine_cons_cons]
          simp only [List.append_assoc, List.cons_append, List.nil_append] at head later ⊢
          exact .cons head later

theorem getLastD_argumentsAt (place : Nat) (first : Literal) (rest : List Literal) :
    let last := (argumentsAt (place + Text.byteLength first.written + 1) rest).getLastD
      (first.argument place)
    place ≤ last.span.start ∧
      last.span.stop = place + Text.byteLength (printedLine (first :: rest)) := by
  induction rest generalizing place first with
  | nil =>
      rw [printedLine_singleton]
      exact ⟨Nat.le_refl place, Span.stop_of ..⟩
  | cons second others ih =>
      obtain ⟨behind, stop⟩ := ih (place + Text.byteLength first.written + 1) second
      rw [argumentsAt, List.getLastD_cons]
      refine ⟨by omega, stop.trans ?_⟩
      rw [printedLine_cons_cons, Text.byteLength_append, Text.byteLength, show ' '.utf8Size = 1 from rfl]
      omega

theorem byteLength_written_le (first : Literal) (rest : List Literal) :
    Text.byteLength first.written ≤ Text.byteLength (printedLine (first :: rest)) := by
  cases rest with
  | nil => rw [printedLine_singleton]
  | cons second others =>
      rw [printedLine_cons_cons, Text.byteLength_append]
      exact Nat.le_add_right ..

theorem span_argumentsAt (place number : Nat) (first : Literal) (rest : List Literal) :
    (⟨number, first.argument place,
        argumentsAt (place + Text.byteLength first.written + 1) rest⟩ : Statement).span =
      .of place (printedLine (first :: rest)) := by
  obtain ⟨behind, stop⟩ := getLastD_argumentsAt place first rest
  rw [Span.of, ← stop]
  refine Span.union_eq_between behind ?_
  rw [stop, Literal.argument, Span.stop_of]
  exact Nat.add_le_add_left (byteLength_written_le first rest) place

def printedSource (lines : List (List Literal)) : List Char :=
  ['\n'].intercalate (lines.map printedLine)

/-- The lines that hold any literal, with their numbers from this one on. -/
def numberedLines (number : Nat) (lines : List (List Literal)) : List (List Literal × Nat) :=
  (lines.zipIdx number).filter fun line => !line.1.isEmpty

theorem printedSource_cons_cons (first second : List Literal) (rest : List (List Literal)) :
    printedSource (first :: second :: rest) =
      printedLine first ++ '\n' :: printedSource (second :: rest) := by
  simp [printedSource, List.intercalate_cons_cons]

theorem numberedLines_cons (number : Nat) (first : List Literal) (rest : List (List Literal)) :
    numberedLines number (first :: rest) =
      numberedLines number [first] ++ numberedLines (number + 1) rest :=
  List.filter_append [(first, number)] (rest.zipIdx (number + 1))

/-- The statement is read from the literals, which are the line of this number. -/
structure Statement.IsPrinted (source : List Char) (line : List Literal × Nat)
    (statement : Statement) : Prop where
  arguments : List.Forall₂ (Literal.IsReadAs source) line.1 (statement.head :: statement.operands)
  place : ∃ before, Text.IsLine source line.2 before (printedLine line.1) ∧
    statement.head :: statement.operands = argumentsAt (Text.byteLength before) line.1 ∧
    statement.span = .of (Text.byteLength before) (printedLine line.1)
  origin : statement.origin = ⟨.between statement.head.span.start
    (statement.operands.getLastD statement.head).span.stop, line.2⟩

/-- From a line of literals that holds any, one statement is read, and from an empty line none. -/
theorem Statement.isPrinted_ofArguments {source before : List Char} {literals : List Literal}
    {number : Nat} (isLine : Text.IsLine source number before (printedLine literals)) :
    List.Forall₂ (IsPrinted source) (numberedLines number [literals])
      (ofArguments number (argumentsAt (Text.byteLength before) literals)) := by
  cases literals with
  | nil => exact .nil
  | cons first rest =>
      obtain ⟨after, rfl, -⟩ := isLine.exists_after
      have isSpan := span_argumentsAt (Text.byteLength before) number first rest
      obtain ⟨-, stop⟩ := getLastD_argumentsAt (Text.byteLength before) first rest
      refine .cons ⟨isReadAs_argumentsAt before (first :: rest) after,
        ⟨before, isLine, rfl, isSpan⟩, ?_⟩ .nil
      rw [origin, isSpan, stop]
      rfl

theorem Statement.exists_isPrinted (lines : List (List Literal)) {number : Nat} {before : List Char}
    (begins : Text.BeginsLine number before) :
    ∃ tokens, Piece.scan (Text.byteLength before) (printedSource lines) = tokens.map Piece.token ∧
      List.Forall₂ (IsPrinted (before ++ printedSource lines)) (numberedLines number lines)
        (group number [] tokens) := by
  induction lines generalizing number before with
  | nil => exact ⟨[], by simp [printedSource], .nil⟩
  | cons literals rest ih =>
      have single := newline_notMem_printedLine literals
      obtain ⟨front, run, -, areArguments⟩ :=
        exists_run_printedLine (Text.byteLength before) literals
      have read := Piece.scan_eq_of_run run
      cases rest with
      | nil =>
          have isSource : printedSource [literals] = printedLine literals :=
            List.intercalate_singleton
          rw [isSource]
          refine ⟨front, read, ?_⟩
          rw [← List.append_nil front, group_of_scan single read, areArguments]
          exact isPrinted_ofArguments ⟨begins, single, [], by simp, by simp⟩
      | cons second others =>
          obtain ⟨back, readBack, arePrinted⟩ := ih (begins.next single)
          rw [Text.byteLength_separated before (printedLine literals) rfl] at readBack
          rw [printedSource_cons_cons, numberedLines_cons]
          let lineEnd := Piece.lineEnd (Text.byteLength before + Text.byteLength (printedLine literals))
          refine ⟨front ++ lineEnd :: back, ?_, ?_⟩
          · rw [Piece.scan_lineBreak, read, readBack, List.map_append, List.map_cons]
          · rw [group_of_scan single read, areArguments]
            refine List.rel_append ?_ ?_
            · exact isPrinted_ofArguments
                ⟨begins, single, '\n' :: printedSource (second :: others), by simp, by simp⟩
            · rw [List.append_assoc, List.append_assoc] at arePrinted
              exact arePrinted

/-- From lines of words and strings, put down with single spaces and line ends between them, one
statement is read for each line that holds any, in their order. -/
theorem Statement.ofTokens_printedSource (lines : List (List Literal)) :
    ∃ tokens, tokenize (printedSource lines) = .ok tokens ∧
      List.Forall₂ (IsPrinted (printedSource lines)) (numberedLines 1 lines)
        (ofTokens tokens) := by
  obtain ⟨tokens, read, arePrinted⟩ := exists_isPrinted lines Text.beginsLine_nil
  exact ⟨tokens, tokenize_eq_ok_iff.mpr read, arePrinted⟩

end TransitMap
