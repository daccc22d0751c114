import TransitMap.Proofs.Source.Token

namespace TransitMap

def Located.shift (located : Located α) (offset : Nat) : Located α :=
  ⟨located.value, located.span.shift offset⟩

def Diagnostic.shift (diagnostic : Diagnostic) (offset : Nat) : Diagnostic :=
  { diagnostic with
    labels := diagnostic.labels.map fun label => { label with span := label.span.shift offset } }

theorem Span.shift_between (start stop offset : Nat) :
    (between start stop).shift offset = between (start + offset) (stop + offset) := by
  simp [shift, between, Nat.add_max_add_right]

namespace Piece

def shift (offset : Nat) : Piece → Piece
  | token read => token (read.shift offset)
  | fault complaint span => fault complaint (span.shift offset)

theorem diagnostic?_shift (offset : Nat) (piece : Piece) :
    (piece.shift offset).diagnostic? =
      piece.diagnostic?.map fun diagnostic => diagnostic.shift offset := by
  cases piece <;> rfl

theorem filterMap_diagnostic?_shift (offset : Nat) (pieces : List Piece) :
    (pieces.map (shift offset)).filterMap diagnostic? =
      (pieces.filterMap diagnostic?).map fun diagnostic => diagnostic.shift offset := by
  rw [List.filterMap_map, List.map_filterMap]
  exact congrArg (List.filterMap · pieces) (funext (diagnostic?_shift offset))

theorem scan_add (start offset : Nat) (text : List Char) :
    scan (start + offset) text = (scan start text).map (shift offset) := by
  induction text using scan_induction generalizing start with
  | nil => simp
  | append token own rest spelled stops ih =>
      rw [scan_append _ spelled stops, scan_append _ spelled stops, List.map_cons,
        Nat.add_right_comm, ih, shift, Located.shift, Span.shift_between]
  | opened body rest inside stops ih =>
      rw [scan_opened _ inside stops, scan_opened _ inside stops, List.map_cons,
        Nat.add_right_comm, ih, shift, Span.shift_between]
  | foreign c rest isForeign ih =>
      rw [scan_foreign _ rest isForeign, scan_foreign _ rest isForeign, List.map_cons,
        Nat.add_right_comm start offset c.utf8Size, Nat.add_right_comm start offset 1, ih, shift,
        Span.shift_between]

def lineEnd (place : Nat) : Located Token := ⟨.newline, .between place (place + 1)⟩

theorem head?_append_newline {holds : Char → Prop} {text : List Char}
    (inside : ∀ c ∈ text.head?, holds c) (atEnd : holds '\n') (rest : List Char) :
    ∀ c ∈ (text ++ '\n' :: rest).head?, holds c := by
  cases text with
  | nil => simpa using atEnd
  | cons c others => simpa using inside

/-- No piece goes beyond a line end, wherever reading has to start again. -/
theorem scan_lineBreak (start : Nat) (first second : List Char) :
    scan start (first ++ '\n' :: second) =
      scan start first ++ token (lineEnd (start + Text.byteLength first)) ::
        scan (start + Text.byteLength first + 1) second := by
  induction first using scan_induction generalizing start with
  | nil =>
      have isNewline : Token.newline.IsSpelled ['\n'] := rfl
      rw [List.nil_append, scan_nil, List.nil_append]
      exact scan_append start isNewline fun _ _ => trivial
  | append token own rest spelled stops ih =>
      have later := head?_append_newline stops token.stopsAt_newline second
      rw [List.append_assoc, scan_append start spelled later, ih, scan_append start spelled stops,
        List.cons_append, Text.byteLength_append, Nat.add_assoc start]
  | opened body rest inside stops ih =>
      have later := head?_append_newline stops Token.breaksOff_newline second
      rw [List.append_assoc, scan_opened start inside later, ih, scan_opened start inside stops,
        List.cons_append, Text.byteLength_append, Nat.add_assoc start]
  | foreign c rest isForeign ih =>
      rw [List.cons_append, scan_foreign start _ isForeign, ih, scan_foreign start rest isForeign,
        List.cons_append, Text.byteLength, Nat.add_assoc start]

theorem scan_zero_lineBreak (first second : List Char) :
    scan 0 (first ++ '\n' :: second) =
      scan 0 first ++ token (lineEnd (Text.byteLength first)) ::
        (scan 0 second).map (shift (Text.byteLength first + 1)) := by
  rw [scan_lineBreak, Nat.zero_add, ← scan_add, Nat.zero_add]

end Piece

theorem lexicalFaults_lineBreak (first second : List Char) :
    lexicalFaults (first ++ '\n' :: second) =
      lexicalFaults first ++
        (lexicalFaults second).map (Diagnostic.shift · (Text.byteLength first + 1)) := by
  rw [lexicalFaults_eq, lexicalFaults_eq, lexicalFaults_eq, Piece.scan_zero_lineBreak,
    List.filterMap_append, ← Piece.filterMap_diagnostic?_shift]
  rfl

theorem tokenize_lineBreak_of_ok {first second : List Char} {front back : List (Located Token)}
    (isFront : tokenize first = .ok front) (isBack : tokenize second = .ok back) :
    tokenize (first ++ '\n' :: second) =
      .ok (front ++ Piece.lineEnd (Text.byteLength first) ::
        back.map (Located.shift · (Text.byteLength first + 1))) := by
  rw [tokenize_eq_ok_iff] at isFront isBack ⊢
  rw [Piece.scan_zero_lineBreak, isFront, isBack, List.map_append, List.map_cons, List.map_map,
    List.map_map]
  rfl

/-- Reading goes line by line: faults of two texts with a line end between them are those of the
first one and then those of the second one in their places, and so are the tokens if there is no
fault. -/
theorem tokenize_lineBreak (first second : List Char) :
    lexicalFaults (first ++ '\n' :: second) =
      lexicalFaults first ++
        (lexicalFaults second).map (Diagnostic.shift · (Text.byteLength first + 1)) ∧
    (lexicalFaults (first ++ '\n' :: second) = [] ↔
      ∃ front back, tokenize first = .ok front ∧ tokenize second = .ok back ∧
        tokenize (first ++ '\n' :: second) =
          .ok (front ++ Piece.lineEnd (Text.byteLength first) ::
            back.map (Located.shift · (Text.byteLength first + 1)))) := by
  refine ⟨lexicalFaults_lineBreak first second, fun noFault => ?_, fun tokens => ?_⟩
  · rw [lexicalFaults_lineBreak, List.append_eq_nil_iff, List.map_eq_nil_iff] at noFault
    obtain ⟨front, isFront⟩ := lexicalFaults_eq_nil_iff.mp noFault.1
    obtain ⟨back, isBack⟩ := lexicalFaults_eq_nil_iff.mp noFault.2
    exact ⟨front, back, isFront, isBack, tokenize_lineBreak_of_ok isFront isBack⟩
  · obtain ⟨front, back, -, -, read⟩ := tokens
    exact lexicalFaults_eq_nil_iff.mpr ⟨_, read⟩

end TransitMap
