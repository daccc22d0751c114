import TransitMap.Proofs.Source.Annotation
import TransitMap.Proofs.Source.ConstraintReferences
import TransitMap.Proofs.Text

namespace TransitMap

def Component.letter : Component → Char
  | x => 'x'
  | y => 'y'

/-- A coordinate of a station in a sum, with the white space around it. -/
structure Summand where
  name : List Char
  component : Component
  before : List Char
  after : List Char
  nonempty : name ≠ []
  trimmed : Text.trim name = name
  plain : ∀ c ∈ name, c ≠ '\\' ∧ c ≠ '+' ∧ c ≠ '"' ∧ c ≠ '#' ∧ c ≠ '\n'
  blankBefore : ∀ c ∈ before, Text.isBlank c = true ∧ c ≠ '\n'
  blankAfter : ∀ c ∈ after, Text.isBlank c = true ∧ c ≠ '\n'

namespace Summand

variable (summand : Summand) {c : Char}

def term : List Char := Text.escape summand.name ++ ['.', summand.component.letter]

def written : List Char := summand.before ++ summand.term ++ summand.after

def reference (place : Span) : TermRef :=
  ⟨⟨none, String.ofList summand.name, place⟩, summand.component⟩

def coordinate (station : StationId) : Term := ⟨station, summand.component⟩

def sum (summands : List Summand) : List Char := ['+'].intercalate (summands.map written)

theorem no_backslash : '\\' ∉ summand.name := fun member => (summand.plain _ member).1 rfl

theorem splitTerm?_term :
    Statement.splitTerm? summand.term = some (Text.escape summand.name, summand.component) := by
  have noDots : '.' ∉ [summand.component.letter] := by cases summand.component <;> decide
  have isStop := Text.trimStop_escape (Text.trim_eq_self_iff.mp summand.trimmed).2
  have isX : Text.trim ['x'] = ['x'] := rfl
  have isY : Text.trim ['y'] = ['y'] := rfl
  rw [Statement.splitTerm?, term, Text.openDot?_escape summand.no_backslash noDots]
  cases summand.component <;>
    simp [isStop, isX, isY, Component.letter, Text.escape_eq_nil_iff, summand.nonempty]

theorem trim_term : Text.trim summand.term = summand.term := by
  obtain ⟨isStart, -⟩ := Text.trim_eq_self_iff.mp summand.trimmed
  have isStart := Text.trimStart_eq_self_iff.mp (Text.trimStart_escape isStart)
  rw [Text.trim_eq_self_iff, Text.trimStart_eq_self_iff, Text.trimStop_eq_self_iff]
  constructor
  · rw [term, List.head?_append_of_ne_nil _ (mt Text.escape_eq_nil_iff.mp summand.nonempty)]
    exact isStart
  · rintro c isLast
    obtain rfl : summand.component.letter = c := by simpa [term] using isLast
    cases summand.component <;> decide

theorem trim_written : Text.trim summand.written = summand.term := by
  rw [written, Text.trim_append (fun c member => (summand.blankBefore c member).1) _
    fun c member => (summand.blankAfter c member).1, trim_term]

/-- No character of a summand separates summands or ends the string that it stands in. -/
theorem of_mem_written (member : c ∈ summand.written) :
    c ≠ '+' ∧ Token.isQuotedChar c = true := by
  have ofBlank (isBlank : Text.isBlank c = true ∧ c ≠ '\n') :
      c ≠ '+' ∧ Token.isQuotedChar c = true := by
    refine ⟨?_, ?_⟩
    · rintro rfl
      exact absurd isBlank.1 (by decide)
    · exact Piece.isQuotedChar_of_isBlank isBlank.1 isBlank.2
  rw [written, term, List.mem_append, List.mem_append, List.mem_append] at member
  rcases member with (before | escaped | behind) | after
  · exact ofBlank (summand.blankBefore c before)
  · rcases Text.mem_escape escaped with rfl | member
    · decide
    · obtain ⟨-, notPlus, notQuote, notMark, notNewline⟩ := summand.plain c member
      exact ⟨notPlus, by simp [Token.isQuotedChar, notQuote, notMark, notNewline]⟩
  · cases isLetter : summand.component <;> rw [isLetter] at behind <;>
      rcases List.mem_pair.mp behind with rfl | rfl <;> decide
  · exact ofBlank (summand.blankAfter c after)

theorem isQuotedChar_of_mem_sum {summands : List Summand} (member : c ∈ sum summands) :
    Token.isQuotedChar c = true := by
  rcases Text.of_mem_intercalate member with rfl | ⟨text, isText, inText⟩
  · decide
  · obtain ⟨summand, -, rfl⟩ := List.mem_map.mp isText
    exact (of_mem_written summand inText).2

theorem scan_sum (summands : List Summand) (place : Nat) (rest : List Char) :
    Piece.scan place (('"' :: sum summands ++ ['"']) ++ rest) =
      .token ⟨.quoted (sum summands), .of place ('"' :: sum summands ++ ['"'])⟩ ::
        Piece.scan (place + Text.byteLength ('"' :: sum summands ++ ['"'])) rest :=
  Piece.scan_append place
    (Token.isSpelled_quoted.mpr ⟨rfl, fun _ member => isQuotedChar_of_mem_sum member⟩)
    fun _ _ => trivial

theorem items_sum {summands : List Summand} (nonempty : summands ≠ []) :
    Text.items '+' (sum summands) = summands.map term := by
  rw [Text.items, sum, Text.pieces_intercalate (by simpa using nonempty), List.map_map]
  · exact List.map_congr_left fun summand _ => trim_written summand
  · simp only [List.mem_map, forall_exists_index, and_imp, forall_apply_eq_imp_iff₂]
    exact fun summand _ member => (of_mem_written summand member).1 rfl

variable {K : Type} {network : Network K} {line : LineId} {alignment : AlignmentDraft}

theorem readTerm_term (statement : Statement) {item : Located (List Char)}
    (isItem : item.value = summand.term) :
    ∃ place, Statement.readTerm true statement item = .ok (summand.reference place) := by
  refine ⟨.between item.span.start
    (item.span.start + Text.byteLength (Text.escape summand.name)), ?_⟩
  rw [Statement.readTerm, isItem, splitTerm?_term]
  simp only [Statement.stationRef, if_true, Text.unescape_escape summand.no_backslash]
  rfl

theorem resolveTerm_reference (isLine : alignment.line = some line) {station : StationId}
    (named : network.stationNamed? line (String.ofList summand.name) = some station)
    (place : Span) :
    Draft.resolveTerm network alignment (summand.reference place) =
      .ok (summand.coordinate station) := by
  have found : Draft.resolveStation network alignment (summand.reference place).station =
      .ok station := by
    simp [Draft.resolveStation, Draft.stationLine, reference, isLine, Draft.stationOn, named]
  rw [Draft.resolveTerm, found]
  rfl

theorem exists_references {summands : List Summand} {stations : List StationId} (statement : Statement)
    (isLine : alignment.line = some line)
    (named : List.Forall₂ (fun summand station =>
      network.stationNamed? line (String.ofList summand.name) = some station) summands stations)
    {items : List (Located (List Char))} (areItems : items.map Located.value = summands.map term) :
    ∃ references, items.mapM (Statement.readTerm true statement) = .ok references ∧
      references.mapM (Draft.resolveTerm network alignment) =
        .ok (List.zipWith coordinate summands stations) := by
  induction named generalizing items with
  | nil =>
      obtain rfl := List.map_eq_nil_iff.mp areItems
      exact ⟨[], rfl, rfl⟩
  | @cons summand station _ _ isNamed others ih =>
      obtain ⟨item, rest, rfl, isItem, areRest⟩ := List.map_eq_cons_iff.mp areItems
      obtain ⟨place, read⟩ := summand.readTerm_term statement isItem
      obtain ⟨references, readRest, resolved⟩ := ih areRest
      refine ⟨summand.reference place :: references, ?_, ?_⟩
      · rw [List.mapM_cons, read, readRest]
        rfl
      · rw [List.mapM_cons, summand.resolveTerm_reference isLine isNamed, resolved]
        rfl

/-- A side of an `equal` statement under a line, written as a sum of coordinates of stations of the
line, is one string, and what is read of it is resolved to just these coordinates in their order. Of the
dots of a text one is found just if it is the only one behind an even number of backslashes. -/
theorem coordinates_of_sum {summands : List Summand} (nonempty : summands ≠ [])
    {stations : List StationId} (isLine : alignment.line = some line)
    (named : List.Forall₂ (fun summand station =>
      network.stationNamed? line (String.ofList summand.name) = some station) summands stations)
    (statement : Statement) (span : Span) :
    (∀ place rest, Piece.scan place (('"' :: sum summands ++ ['"']) ++ rest) =
      .token ⟨.quoted (sum summands), .of place ('"' :: sum summands ++ ['"'])⟩ ::
        Piece.scan (place + Text.byteLength ('"' :: sum summands ++ ['"'])) rest) ∧
    (∃ references, statement.readTerms true ⟨.quoted, sum summands, span⟩ = .ok references ∧
      references.mapM (Draft.resolveTerm network alignment) =
        .ok (List.zipWith coordinate summands stations)) ∧
    ∀ text position, Text.openDot? text = some position ↔
      ∀ other, Text.IsOpenDot text other ↔ other = position := by
  refine ⟨scan_sum summands, ?_, fun _ _ => Text.openDot?_eq_some_iff⟩
  have areItems := Argument.values_items ⟨.quoted, sum summands, span⟩ '+'
  rw [items_sum nonempty] at areItems
  exact exists_references statement isLine named areItems

def crossing : Network Rat where
  lines := [⟨"red", [("A", ⟨0⟩), ("St. Pancras", ⟨1⟩)], [], [], []⟩]
  lineNames := [("red", ⟨0⟩)]
  stations := [⟨"A", ⟨0⟩, .station, "A", ⟨0, 0⟩⟩,
    ⟨"St. Pancras", ⟨0⟩, .station, "St. Pancras", ⟨9, 9⟩⟩]
  curves := []
  alignments := []
  overlaps := []

def crossingSummands : List Summand :=
  [⟨"St. Pancras".toList, .y, [], [' '], by simp, by decide, by simp, by simp,
      by simp [Text.isBlank]⟩,
    ⟨['A'], .x, [' '], [], by simp, by decide, by simp, by simp [Text.isBlank], by simp⟩]

def crossingStatement : Statement where
  line := 4
  head := ⟨.word, "equal".toList, .between 90 95⟩
  operands := [⟨.quoted, "St\\. Pancras.y + A.x".toList, .between 96 118⟩,
    ⟨.quoted, "A.x".toList, .between 119 124⟩]

def crossingAlignment : AlignmentDraft := ⟨.equal [] [], some ⟨0⟩, crossingStatement.origin, ""⟩

theorem coordinates_of_sum_crossing :
    sum crossingSummands = "St\\. Pancras.y + A.x".toList ∧
      ∃ references, crossingStatement.readTerms true
          ⟨.quoted, sum crossingSummands, .between 96 118⟩ = .ok references ∧
        references.mapM (Draft.resolveTerm crossing crossingAlignment) =
          .ok [⟨⟨1⟩, .y⟩, ⟨⟨0⟩, .x⟩] := by
  have nonempty : crossingSummands ≠ [] := List.cons_ne_nil _ _
  have isLine : crossingAlignment.line = some ⟨0⟩ := rfl
  have named : List.Forall₂ (fun summand station =>
      crossing.stationNamed? ⟨0⟩ (String.ofList summand.name) = some station) crossingSummands
      [⟨1⟩, ⟨0⟩] := .cons (by decide) (.cons (by decide) .nil)
  obtain ⟨-, read, -⟩ := coordinates_of_sum nonempty isLine named crossingStatement
    (.between 96 118)
  exact ⟨by decide, read⟩

end Summand

namespace Network

def voidSource : List Char := "line red:\nequal \"\" \"\"\n".toList

def voidStatements : List Statement :=
  [⟨1, ⟨.word, "line".toList, .between 0 4⟩, [⟨.word, "red:".toList, .between 5 9⟩]⟩,
    ⟨2, ⟨.word, "equal".toList, .between 10 15⟩,
      [⟨.quoted, [], .between 16 18⟩, ⟨.quoted, [], .between 19 21⟩]⟩]

theorem statements_void : (tokenize voidSource).map Statement.ofTokens = .ok voidStatements := by
  cbv

/-- The sum of no coordinates is the empty text, and it is refused as a malformed term. -/
theorem ofSource_void : Summand.sum [] = [] ∧
    (ofSource (fun _ name => some name) voidSource : Except (List Diagnostic) (Network Rat)) =
      .error [Complaint.diagnostic (.malformedTerm "") (.between 17 17) (some 2)] :=
  ⟨rfl, ofSource_eq_error statements_void rfl⟩

end Network

end TransitMap
