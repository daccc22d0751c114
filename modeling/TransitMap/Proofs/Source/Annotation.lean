import TransitMap.Proofs.Source.LineBreak
import TransitMap.Proofs.Source.SharedNetwork

namespace TransitMap

namespace Text

/-- White space within a line, and perhaps a comment behind it. -/
def IsTrailer (trailer : List Char) : Prop :=
  ∃ blanks comment, trailer = blanks ++ comment ∧ (∀ c ∈ blanks, isBlank c = true ∧ c ≠ '\n') ∧
    (comment = [] ∨ ∃ remark, comment = '#' :: remark ∧ '\n' ∉ remark)

/-- The other text has a trailer at the end of each line. -/
inductive Annotated : List Char → List Char → Prop
  | last {line trailer : List Char} (single : '\n' ∉ line) (isTrailer : IsTrailer trailer) :
      Annotated line (line ++ trailer)
  | cons {line trailer rest other : List Char} (single : '\n' ∉ line)
      (isTrailer : IsTrailer trailer) (annotated : Annotated rest other) :
      Annotated (line ++ '\n' :: rest) (line ++ trailer ++ '\n' :: other)

theorem isTrailer_nil : IsTrailer [] := ⟨[], [], rfl, by simp, .inl rfl⟩

theorem IsTrailer.no_newline {trailer : List Char} (isTrailer : IsTrailer trailer) :
    '\n' ∉ trailer := by
  obtain ⟨blanks, comment, rfl, areBlanks, isComment⟩ := isTrailer
  intro member
  rcases List.mem_append.mp member with inBlanks | inComment
  · exact (areBlanks '\n' inBlanks).2 rfl
  · rcases isComment with rfl | ⟨remark, rfl, noNewline⟩
    · cases inComment
    · rcases List.mem_cons.mp inComment with same | inRemark
      · exact absurd same (by decide)
      · exact noNewline inRemark

theorem IsTrailer.blanks_append {blanks trailer : List Char} (isTrailer : IsTrailer trailer)
    (areBlanks : ∀ c ∈ blanks, isBlank c = true ∧ c ≠ '\n') : IsTrailer (blanks ++ trailer) := by
  obtain ⟨more, comment, rfl, areMore, isComment⟩ := isTrailer
  refine ⟨blanks ++ more, comment, by simp, ?_, isComment⟩
  intro c member
  exact (List.mem_append.mp member).elim (areBlanks c) (areMore c)

theorem IsTrailer.of_head? {trailer : List Char} (isTrailer : IsTrailer trailer) :
    ∀ c ∈ trailer.head?, (isBlank c = true ∧ c ≠ '\n') ∨ c = '#' := by
  obtain ⟨blanks, comment, rfl, areBlanks, isComment⟩ := isTrailer
  cases blanks with
  | nil => rcases isComment with rfl | ⟨remark, rfl, -⟩ <;> simp
  | cons c rest =>
      rintro _ ⟨⟩
      exact .inl (areBlanks c List.mem_cons_self)

theorem isTrailer_comment {remark : List Char} (noNewline : '\n' ∉ remark) :
    IsTrailer ('#' :: remark) :=
  ⟨[], '#' :: remark, rfl, by simp, .inr ⟨remark, rfl, noNewline⟩⟩

theorem Annotated.prepend {c : Char} (inLine : c ≠ '\n') {rest other : List Char}
    (annotated : Annotated rest other) : Annotated (c :: rest) (c :: other) := by
  cases annotated with
  | last single isTrailer =>
      exact .last (List.not_mem_cons_of_ne_of_not_mem inLine.symm single) isTrailer
  | cons single isTrailer annotated =>
      exact .cons (List.not_mem_cons_of_ne_of_not_mem inLine.symm single) isTrailer annotated

theorem Annotated.refl (text : List Char) : Annotated text text := by
  induction text with
  | nil => exact .last List.not_mem_nil isTrailer_nil
  | cons c rest ih =>
      by_cases isNewline : c = '\n'
      · subst isNewline
        exact .cons List.not_mem_nil isTrailer_nil ih
      · exact ih.prepend isNewline

theorem IsTrailer.annotated {trailer : List Char} (isTrailer : IsTrailer trailer)
    (before : List Char) {after : List Char} (stops : ∀ c ∈ after.head?, c = '\n') :
    Annotated (before ++ after) (before ++ trailer ++ after) := by
  induction before with
  | nil =>
      cases after with
      | nil =>
          rw [List.append_nil, List.append_nil]
          exact .last List.not_mem_nil isTrailer
      | cons c rest =>
          obtain rfl := stops c rfl
          exact .cons List.not_mem_nil isTrailer (.refl rest)
  | cons c rest ih =>
      by_cases isNewline : c = '\n'
      · subst isNewline
        exact .cons List.not_mem_nil isTrailer_nil ih
      · exact ih.prepend isNewline

end Text

namespace Piece

/-- The reader passes over white space and comments, and does not look where a complaint is. -/
structure IsReader {γ : Type} (read : Piece → Option γ) : Prop where
  blank : ∀ span, read (token ⟨.blank, span⟩) = none
  comment : ∀ text span, read (token ⟨.comment text, span⟩) = none
  fault : ∀ complaint span other, read (fault complaint span) = read (fault complaint other)

variable {γ : Type} {read : Piece → Option γ} {trailer : List Char}

theorem IsReader.scan_comment (isReader : IsReader read) {comment : List Char}
    (isComment : comment = [] ∨ ∃ remark, comment = '#' :: remark ∧ '\n' ∉ remark) (start : Nat) :
    (scan start comment).filterMap read = [] := by
  rcases isComment with rfl | ⟨remark, rfl, noNewline⟩
  · simp
  · have spelled : (Token.comment remark).IsSpelled ('#' :: remark) :=
      ⟨rfl, fun c member same => noNewline (same ▸ member)⟩
    rw [← List.append_nil ('#' :: remark), scan_append start spelled (by simp), scan_nil]
    simp [isReader.comment]

theorem IsReader.scan_trailer (isReader : IsReader read) (isTrailer : Text.IsTrailer trailer)
    (start : Nat) : (scan start trailer).filterMap read = [] := by
  obtain ⟨blanks, comment, rfl, areBlanks, isComment⟩ := isTrailer
  by_cases none : blanks = []
  · rw [none, List.nil_append, isReader.scan_comment isComment]
  · have spelled : Token.blank.IsSpelled blanks := ⟨none, areBlanks⟩
    have stops : ∀ c ∈ comment.head?, Token.blank.StopsAt c := by
      rcases isComment with rfl | ⟨remark, rfl, -⟩
      · simp
      · rintro _ ⟨⟩
        exact (by decide : Token.isBlankChar '#' = false)
    rw [scan_append start spelled stops, List.filterMap_cons_none (isReader.blank _),
      isReader.scan_comment isComment]

theorem stopsAt_trailer (isTrailer : Text.IsTrailer trailer) {token : Token}
    (notBlank : token ≠ .blank) (notComment : ∀ text, token ≠ .comment text) :
    ∀ c ∈ trailer.head?, token.StopsAt c := by
  intro c member
  cases token with
  | word text =>
      rcases isTrailer.of_head? c member with ⟨isBlank, -⟩ | rfl
      · simp [Token.StopsAt, Token.isWordChar, isBlank]
      · exact (by decide : Token.isWordChar '#' = false)
  | quoted text | newline => trivial
  | comment text => exact absurd rfl (notComment text)
  | blank => exact absurd rfl notBlank

theorem isQuotedChar_of_isBlank {c : Char} (isBlank : Text.isBlank c = true) (inLine : c ≠ '\n') :
    Token.isQuotedChar c = true := by
  simp only [Token.isQuotedChar, Bool.and_eq_true, bne_iff_ne]
  refine ⟨⟨?_, inLine⟩, ?_⟩
  all_goals
    rintro rfl
    exact absurd isBlank (by decide)

/-- Nothing more is read at the end of a line that has a trailer. -/
theorem IsReader.scan_append_trailer (isReader : IsReader read)
    (isTrailer : Text.IsTrailer trailer) (text : List Char) (start : Nat) :
    (scan start (text ++ trailer)).filterMap read = (scan start text).filterMap read := by
  induction text using scan_induction generalizing start with
  | nil => rw [List.nil_append, isReader.scan_trailer isTrailer, scan_nil, List.filterMap_nil]
  | append token own rest spelled stops ih =>
      by_cases isLast : rest = []
      -- White space and comments at the end take up the trailer, other tokens stop before it.
      · subst isLast
        rw [List.append_nil]
        by_cases isBlank : token = .blank
        · subst isBlank
          have isOwn : Text.IsTrailer own :=
            List.append_nil own ▸ Text.isTrailer_nil.blanks_append spelled.2
          rw [isReader.scan_trailer (isTrailer.blanks_append spelled.2),
            isReader.scan_trailer isOwn]
        · by_cases isComment : ∃ remark, token = .comment remark
          · obtain ⟨remark, rfl⟩ := isComment
            obtain ⟨rfl, inLine⟩ := spelled
            have noNewline : '\n' ∉ remark := fun member => inLine '\n' member rfl
            have both : '\n' ∉ remark ++ trailer := by
              simp [noNewline, isTrailer.no_newline]
            rw [List.cons_append, isReader.scan_trailer (Text.isTrailer_comment both),
              isReader.scan_trailer (Text.isTrailer_comment noNewline)]
          · have stops := stopsAt_trailer isTrailer isBlank (not_exists.mp isComment)
            rw [scan_append start spelled stops, ← List.append_nil own,
              scan_append start spelled (by simp)]
            simp only [List.filterMap_cons, isReader.scan_trailer isTrailer, scan_nil,
              List.filterMap_nil, List.append_nil]
      · obtain ⟨c, others, rfl⟩ := List.exists_cons_of_ne_nil isLast
        rw [List.append_assoc, scan_append start spelled stops,
          scan_append start spelled (show ∀ d ∈ (c :: others ++ trailer).head?, _ from stops)]
        simp only [List.filterMap_cons, ih]
  | opened body rest inside stops ih =>
      cases rest with
      | nil =>
          -- An open string goes on through the white space, so that only its end moves.
          obtain ⟨blanks, comment, rfl, areBlanks, isComment⟩ := isTrailer
          have prolonged : ∀ c ∈ body ++ blanks, Token.isQuotedChar c = true := by
            intro c member
            rcases List.mem_append.mp member with inBody | inBlanks
            · exact inside c inBody
            · exact isQuotedChar_of_isBlank (areBlanks c inBlanks).1 (areBlanks c inBlanks).2
          have breaksOff : ∀ c ∈ comment.head?, Token.BreaksOff c := by
            rcases isComment with rfl | ⟨remark, rfl, -⟩
            · simp
            · rintro _ ⟨⟩
              exact ⟨by decide, by decide⟩
          rw [scan_opened start inside stops, List.append_nil, ← List.append_assoc,
            List.cons_append, scan_opened start prolonged breaksOff]
          simp only [List.filterMap_cons, isReader.scan_comment isComment, scan_nil,
            List.filterMap_nil]
          rw [isReader.fault]
      | cons c others =>
          rw [List.append_assoc, scan_opened start inside stops,
            scan_opened start inside (show ∀ d ∈ (c :: others ++ trailer).head?, _ from stops)]
          simp only [List.filterMap_cons, ih]
  | foreign c rest isForeign ih =>
      rw [List.cons_append, scan_foreign start _ isForeign, scan_foreign start rest isForeign]
      simp only [List.filterMap_cons, ih]

end Piece

theorem Span.shift_of (place offset : Nat) (text : List Char) :
    (of place text).shift offset = of (place + offset) text := by
  rw [of, of, shift_between, Nat.add_right_comm]

namespace Piece

def argument? : Piece → Option Argument
  | token ⟨.word text, span⟩ => some ⟨.word, text, span⟩
  | token ⟨.quoted text, span⟩ => some ⟨.quoted, text, span⟩
  | _ => none

theorem isReader_argument? : IsReader argument? := ⟨fun _ => rfl, fun _ _ => rfl, fun _ _ _ => rfl⟩

theorem argument?_shift (offset : Nat) (piece : Piece) :
    (piece.shift offset).argument? = piece.argument?.map fun argument =>
      { argument with span := argument.span.shift offset } := by
  cases piece with
  | token read =>
      obtain ⟨_ | _ | _ | _ | _, span⟩ := read
      all_goals rfl
  | fault complaint span => rfl

theorem exists_of_mem_arguments {before text : List Char} {argument : Argument}
    (member : argument ∈ (scan (Text.byteLength before) text).filterMap argument?) :
    ∃ left right, before ++ text = left ++ argument.written ++ right ∧
      argument.span = .of (Text.byteLength left) argument.written := by
  induction text using scan_induction generalizing before with
  | nil => simp at member
  | append token own rest spelled stops ih =>
      rw [scan_append _ spelled stops, ← Text.byteLength_append] at member
      rw [← List.append_assoc]
      cases isArgument : argument? (.token ⟨token, .between (Text.byteLength before)
          (Text.byteLength (before ++ own))⟩) with
      | none =>
          rw [List.filterMap_cons_none isArgument] at member
          exact ih member
      | some first =>
          rw [List.filterMap_cons_some isArgument, List.mem_cons] at member
          rcases member with rfl | later
          · refine ⟨before, rest, ?_⟩
            cases token with
            | word text =>
                obtain rfl := Option.some.inj isArgument
                obtain ⟨rfl, -, -⟩ := spelled
                exact ⟨rfl, by rw [Span.of, ← Text.byteLength_append]; rfl⟩
            | quoted text =>
                obtain rfl := Option.some.inj isArgument
                obtain ⟨rfl, -⟩ := spelled
                exact ⟨rfl, by rw [Span.of, ← Text.byteLength_append]; rfl⟩
            | comment text | blank | newline => cases isArgument
          · exact ih later
  | opened body rest inside stops ih =>
      rw [scan_opened _ inside stops, ← Text.byteLength_append,
        List.filterMap_cons_none rfl] at member
      rw [← List.append_assoc]
      exact ih member
  | foreign c rest isForeign ih =>
      rw [scan_foreign _ rest isForeign, List.filterMap_cons_none rfl] at member
      rw [List.append_cons]
      apply ih
      simpa [Text.byteLength] using member

end Piece

/-- The arguments of a line in two sources, in one of which it has a trailer. -/
theorem SharedLine.arguments {source other trailer : List Char} (shared : SharedLine source other)
    (isTrailer : Text.IsTrailer trailer) :
    List.Forall₂ shared.IsArgument
      ((Piece.scan (Text.byteLength shared.before) shared.text).filterMap Piece.argument?)
      ((Piece.scan (Text.byteLength shared.otherBefore) (shared.text ++ trailer)).filterMap
        Piece.argument?) := by
  rw [Piece.isReader_argument?.scan_append_trailer isTrailer]
  -- In both sources the line is scanned as if it stood at the start, and then moved to its place.
  have moved : ∀ offset, (Piece.scan offset shared.text).filterMap Piece.argument? =
      ((Piece.scan 0 shared.text).filterMap Piece.argument?).map fun argument =>
        { argument with span := argument.span.shift offset } := by
    intro offset
    conv_lhs => rw [← Nat.zero_add offset, Piece.scan_add]
    rw [List.filterMap_map, List.map_filterMap]
    exact congrArg (List.filterMap · _) (funext (Piece.argument?_shift offset))
  rw [moved (Text.byteLength shared.before), moved (Text.byteLength shared.otherBefore),
    List.forall₂_map_left_iff, List.forall₂_map_right_iff, List.forall₂_same]
  intro argument member
  change argument ∈ (Piece.scan (Text.byteLength []) shared.text).filterMap Piece.argument? at member
  obtain ⟨left, right, isText, isSpan⟩ := Piece.exists_of_mem_arguments member
  refine ⟨rfl, rfl, _, _, ⟨left, right, isText, rfl, rfl⟩, ?_, ?_⟩
  all_goals
    rw [isSpan, Span.shift_of, Text.byteLength_append, Nat.add_comm]
    rfl

theorem Statement.group_append {front : List (Located Token)}
    (single : ∀ token ∈ front, token.value ≠ .newline) (line : Nat) (arguments : List Argument)
    (back : List (Located Token)) :
    group line arguments (front ++ back) =
      group line (arguments ++ (front.map Piece.token).filterMap Piece.argument?) back := by
  induction front generalizing arguments with
  | nil => simp
  | cons first rest ih =>
      rw [List.forall_mem_cons] at single
      obtain ⟨token, span⟩ := first
      rw [List.cons_append, List.map_cons]
      cases token with
      | word text | quoted text =>
          rw [group, ih single.2, List.append_assoc]
          rfl
      | comment text | blank =>
          rw [group, ih single.2]
          rfl
      | newline => exact absurd rfl single.1

theorem Piece.not_newline_of_mem_scan {start : Nat} {text : List Char} (single : '\n' ∉ text)
    {read : Located Token} (member : Piece.token read ∈ scan start text) :
    read.value ≠ .newline := by
  induction text using scan_induction generalizing start with
  | nil => simp at member
  | append token own rest spelled stops ih =>
      rw [scan_append start spelled stops, List.mem_cons] at member
      rw [List.mem_append, not_or] at single
      rcases member with same | later
      · obtain rfl := Piece.token.inj same
        rintro rfl
        obtain rfl := spelled
        simp at single
      · exact ih single.2 later
  | opened body rest inside stops ih =>
      rw [scan_opened start inside stops, List.mem_cons] at member
      rw [List.mem_append, not_or] at single
      exact ih single.2 (member.resolve_left (by simp))
  | foreign c rest isForeign ih =>
      rw [scan_foreign start rest isForeign, List.mem_cons] at member
      exact ih (List.not_mem_of_not_mem_cons single) (member.resolve_left (by simp))

theorem SharedLine.ofArguments {source other : List Char} {shared : SharedLine source other}
    {arguments otherArguments : List Argument}
    (areArguments : List.Forall₂ shared.IsArgument arguments otherArguments) :
    List.Forall₂ (Statement.Alike source other)
      (Statement.ofArguments shared.number arguments)
      (Statement.ofArguments shared.number otherArguments) := by
  cases areArguments with
  | nil => exact .nil
  | cons head operands => exact .cons ⟨shared, rfl, rfl, head, operands⟩ .nil

theorem Text.IsTrailer.statement {source other before otherBefore line trailer : List Char}
    {number : Nat} (isTrailer : IsTrailer trailer) (isLine : IsLine source number before line)
    (isOtherLine : IsLine other number otherBefore (line ++ trailer))
    {tokens otherTokens : List (Located Token)}
    (read : Piece.scan (byteLength before) line = tokens.map Piece.token)
    (otherRead : Piece.scan (byteLength otherBefore) (line ++ trailer) =
      otherTokens.map Piece.token) :
    List.Forall₂ (Statement.Alike source other)
      (Statement.ofArguments number ((tokens.map Piece.token).filterMap Piece.argument?))
      (Statement.ofArguments number ((otherTokens.map Piece.token).filterMap Piece.argument?)) := by
  let shared : SharedLine source other :=
    { number, text := line, before, otherBefore
      isLine := ⟨[], by rwa [List.append_nil]⟩
      isOtherLine := ⟨trailer, isOtherLine⟩ }
  rw [← read, ← otherRead]
  exact SharedLine.ofArguments (shared.arguments isTrailer)

theorem Statement.group_of_scan {start : Nat} {text : List Char} (single : '\n' ∉ text)
    {front : List (Located Token)} (read : Piece.scan start text = front.map Piece.token)
    (line : Nat) (back : List (Located Token)) :
    group line [] (front ++ back) =
      group line ((front.map Piece.token).filterMap Piece.argument?) back := by
  rw [group_append, List.nil_append]
  intro token member
  apply Piece.not_newline_of_mem_scan single
  rw [read]
  exact List.mem_map_of_mem member

theorem Piece.exists_tokens_of_lineBreak {start : Nat} {line rest : List Char}
    {tokens : List (Located Token)}
    (read : scan start (line ++ '\n' :: rest) = tokens.map token) :
    ∃ front back, tokens = front ++ lineEnd (start + Text.byteLength line) :: back ∧
      scan start line = front.map token ∧
      scan (start + Text.byteLength line + 1) rest = back.map token := by
  rw [scan_lineBreak] at read
  obtain ⟨front, others, rfl, isFront, isOthers⟩ := List.map_eq_append_iff.mp read.symm
  obtain ⟨first, back, rfl, isFirst, isBack⟩ := List.map_eq_cons_iff.mp isOthers
  obtain rfl := Piece.token.inj isFirst
  exact ⟨front, back, rfl, isFront.symm, isBack.symm⟩

theorem Text.Annotated.statements {text otherText : List Char}
    (annotated : Annotated text otherText) {before otherBefore : List Char} {number : Nat}
    (begins : BeginsLine number before) (otherBegins : BeginsLine number otherBefore)
    {tokens otherTokens : List (Located Token)}
    (read : Piece.scan (byteLength before) text = tokens.map Piece.token)
    (otherRead : Piece.scan (byteLength otherBefore) otherText = otherTokens.map Piece.token) :
    List.Forall₂ (Statement.Alike (before ++ text) (otherBefore ++ otherText))
      (Statement.group number [] tokens) (Statement.group number [] otherTokens) := by
  induction annotated generalizing before otherBefore number tokens otherTokens with
  | @last line trailer single isTrailer =>
      have otherSingle : '\n' ∉ line ++ trailer := by simp [single, isTrailer.no_newline]
      rw [← List.append_nil tokens, ← List.append_nil otherTokens,
        Statement.group_of_scan single read, Statement.group_of_scan otherSingle otherRead]
      apply isTrailer.statement _ _ read otherRead
      · exact ⟨begins, single, [], by simp, by simp⟩
      · exact ⟨otherBegins, otherSingle, [], by simp, by simp⟩
  | @cons line trailer rest other single isTrailer annotated ih =>
      have otherSingle : '\n' ∉ line ++ trailer := by simp [single, isTrailer.no_newline]
      obtain ⟨front, back, rfl, isFront, isBack⟩ := Piece.exists_tokens_of_lineBreak read
      obtain ⟨otherFront, otherBack, rfl, isOtherFront, isOtherBack⟩ :=
        Piece.exists_tokens_of_lineBreak otherRead
      rw [Statement.group_of_scan single isFront,
        Statement.group_of_scan otherSingle isOtherFront]
      apply List.rel_append
      · apply isTrailer.statement _ _ isFront isOtherFront
        · exact ⟨begins, single, '\n' :: rest, by simp, by simp⟩
        · exact ⟨otherBegins, otherSingle, '\n' :: other, by simp, by simp⟩
      · rw [← byteLength_separated _ _ (rfl : '\n'.utf8Size = 1)] at isBack isOtherBack
        have later := ih (begins.next single) (otherBegins.next otherSingle) isBack isOtherBack
        rwa [List.append_assoc, List.append_assoc, List.append_assoc, List.append_assoc] at later

/-- What is wrong, without the places. -/
def Diagnostic.withoutLabels (diagnostic : Diagnostic) : Diagnostic := { diagnostic with labels := [] }

theorem Diagnostic.Alike.withoutLabels {source other : List Char} {here there : Diagnostic}
    (alike : Alike source other here there) : here.withoutLabels = there.withoutLabels := by
  induction alike with
  | complaint shared arises marks => rfl
  | related message alike agree ih => exact ih

namespace Piece

def wording? (piece : Piece) : Option Diagnostic := piece.diagnostic?.map Diagnostic.withoutLabels

theorem isReader_wording? : IsReader wording? := ⟨fun _ => rfl, fun _ _ => rfl, fun _ _ _ => rfl⟩

theorem wording?_shift (offset : Nat) (piece : Piece) :
    (piece.shift offset).wording? = piece.wording? := by
  cases piece <;> rfl

theorem wordings_scan (start : Nat) (text : List Char) :
    (scan start text).filterMap wording? = (scan 0 text).filterMap wording? := by
  conv_lhs => rw [← Nat.zero_add start, scan_add]
  rw [List.filterMap_map]
  exact congrArg (List.filterMap · _) (funext (wording?_shift start))

theorem wordings_annotated {text otherText : List Char} (annotated : Text.Annotated text otherText)
    (start : Nat) :
    (scan start otherText).filterMap wording? = (scan start text).filterMap wording? := by
  induction annotated generalizing start with
  | @last line trailer single isTrailer => exact isReader_wording?.scan_append_trailer isTrailer line start
  | @cons line trailer rest other single isTrailer annotated ih =>
      rw [scan_lineBreak, scan_lineBreak, List.filterMap_append, List.filterMap_append,
        isReader_wording?.scan_append_trailer isTrailer, List.filterMap_cons_none rfl,
        List.filterMap_cons_none rfl, ih, wordings_scan _ rest,
        wordings_scan (start + Text.byteLength line + 1) rest]

end Piece

theorem lexicalFaults_annotated {source other : List Char} (annotated : Text.Annotated source other) :
    (lexicalFaults other).map Diagnostic.withoutLabels =
      (lexicalFaults source).map Diagnostic.withoutLabels := by
  rw [lexicalFaults_eq, lexicalFaults_eq, List.map_filterMap, List.map_filterMap]
  exact Piece.wordings_annotated annotated 0

theorem tokenize_eq_error {source : List Char} (faults : lexicalFaults source ≠ []) :
    tokenize source = .error (lexicalFaults source) := by
  unfold lexicalFaults at *
  cases read : tokenize source with
  | ok tokens => simp [read] at faults
  | error diagnostics => rfl

namespace Network

variable {K : Type} [Scalar K]

theorem alike_of_annotated (resolver : Resolver) {source other : List Char}
    (annotated : Text.Annotated source other) {tokens otherTokens : List (Located Token)}
    (tokenized : tokenize source = .ok tokens) (otherTokenized : tokenize other = .ok otherTokens) :
    Outcome.Agree (List.Forall₂ (Diagnostic.Alike source other)) Eq
      (ofSource resolver source : Except (List Diagnostic) (Network K))
      (ofSource resolver other) :=
  ofSource_alike resolver tokenized otherTokenized
    (annotated.statements Text.beginsLine_nil Text.beginsLine_nil
      (tokenize_eq_ok_iff.mp tokenized) (tokenize_eq_ok_iff.mp otherTokenized))

/-- White space and comments at the ends of lines change neither the network of a source nor what is
wrong with it. -/
theorem ofSource_annotated (resolver : Resolver) {source other : List Char}
    (annotated : Text.Annotated source other) :
    (∀ network : Network K,
      ofSource resolver other = .ok network ↔ ofSource resolver source = .ok network) ∧
    ∀ faults otherFaults,
      (ofSource resolver source : Except (List Diagnostic) (Network K)) = .error faults →
      (ofSource resolver other : Except (List Diagnostic) (Network K)) = .error otherFaults →
      otherFaults.map Diagnostic.withoutLabels = faults.map Diagnostic.withoutLabels := by
  have lexical := lexicalFaults_annotated annotated
  by_cases reads : lexicalFaults source = []
  · have otherReads : lexicalFaults other = [] := by simpa [reads] using lexical
    obtain ⟨tokens, tokenized⟩ := lexicalFaults_eq_nil_iff.mp reads
    obtain ⟨otherTokens, otherTokenized⟩ := lexicalFaults_eq_nil_iff.mp otherReads
    have alike := alike_of_annotated (K := K) resolver annotated tokenized otherTokenized
    generalize (ofSource resolver source : Except (List Diagnostic) (Network K)) = result,
      (ofSource resolver other : Except (List Diagnostic) (Network K)) = otherResult at alike ⊢
    cases alike with
    | ok same => simp [same]
    | error related =>
        refine ⟨by simp, ?_⟩
        rintro _ _ ⟨⟩ ⟨⟩
        rw [← List.forall₂_eq_eq_eq, List.forall₂_map_left_iff, List.forall₂_map_right_iff]
        exact related.flip.imp fun _ _ alike => alike.withoutLabels.symm
  · have otherFails : lexicalFaults other ≠ [] := by
      rintro none
      rw [none] at lexical
      exact reads (List.map_eq_nil_iff.mp lexical.symm)
    have failed : ∀ source, lexicalFaults source ≠ [] →
        (ofSource resolver source : Except (List Diagnostic) (Network K)) =
          .error (lexicalFaults source) := by
      intro source faults
      rw [ofSource, tokenize_eq_error faults]
      rfl
    rw [failed source reads, failed other otherFails]
    refine ⟨by simp, ?_⟩
    rintro _ _ ⟨⟩ ⟨⟩
    exact lexical

def remarkedSource : List Char :=
  cornerSource.take 9 ++ [' ', '\r', '#', 'o', 'n', 'e'] ++ cornerSource.drop 9

theorem ofSource_annotated_corner :
    Text.Annotated cornerSource remarkedSource ∧
      ofSource (fun _ name => some name) remarkedSource = .ok corner := by
  have isTrailer : Text.IsTrailer [' ', '\r', '#', 'o', 'n', 'e'] :=
    ⟨[' ', '\r'], ['#', 'o', 'n', 'e'], rfl, by simp [Text.isBlank], .inr ⟨_, rfl, by decide⟩⟩
  have isLineEnd : (cornerSource.drop 9).head? = some '\n' := by cbv
  have stops : ∀ c ∈ (cornerSource.drop 9).head?, c = '\n' := by simp only [isLineEnd]; simp
  have annotated := isTrailer.annotated (cornerSource.take 9) stops
  rw [List.take_append_drop] at annotated
  exact ⟨annotated, ((ofSource_annotated _ annotated).1 corner).mpr ofSource_corner⟩

end Network

end TransitMap
