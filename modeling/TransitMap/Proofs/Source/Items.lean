import TransitMap.Proofs.Source.Annotation
import TransitMap.Proofs.Source.CurveReferences
import TransitMap.Proofs.Text

namespace TransitMap

namespace Text

variable {separator : Char} {text piece front item : List Char}

/-- The piece of a text behind this many separators, which goes up to the next one. -/
structure IsPiece (separator : Char) (text : List Char) (count : Nat)
    (front piece back : List Char) : Prop where
  cut : text = front ++ piece ++ back
  behind : front.count separator = count
  opens : ∀ c ∈ front.getLast?, c = separator
  apart : separator ∉ piece
  closes : ∀ c ∈ back.head?, c = separator

/-- The item is what remains of the text without the white space at its ends. -/
structure IsTrimmed (text item : List Char) : Prop where
  blanks : ∃ before after, text = before ++ item ++ after ∧
    (∀ c ∈ before, isBlank c = true) ∧ ∀ c ∈ after, isBlank c = true
  starts : ∀ c ∈ item.head?, isBlank c = false
  stops : ∀ c ∈ item.getLast?, isBlank c = false

theorem notMem_of_mem_pieces (member : piece ∈ pieces separator text) : separator ∉ piece := by
  induction text generalizing piece with
  | nil =>
      obtain rfl := List.mem_singleton.mp member
      exact List.not_mem_nil
  | cons c rest ih =>
      rw [pieces] at member
      split at member
      · rcases List.mem_cons.mp member with rfl | later
        · exact List.not_mem_nil
        · exact ih later
      · next differs =>
          split at member
          · next first others found =>
              rw [found, List.forall_mem_cons] at ih
              rcases List.mem_cons.mp member with rfl | later
              · simp [ih.1, Ne.symm differs]
              · exact ih.2 _ later
          · next none => exact absurd none (pieces_ne_nil separator rest)

theorem starts_trimStart (text : List Char) : ∀ c ∈ (trimStart text).head?, isBlank c = false := by
  rw [← trimStart_eq_self_iff]
  exact List.dropWhile_idempotent isBlank text

theorem stops_trimStop (text : List Char) : ∀ c ∈ (trimStop text).getLast?, isBlank c = false := by
  rw [trimStop, List.getLast?_reverse]
  exact starts_trimStart text.reverse

theorem starts_trimStop (starts : ∀ c ∈ text.head?, isBlank c = false) :
    ∀ c ∈ (trimStop text).head?, isBlank c = false := by
  intro c member
  obtain ⟨blanks, isText, -⟩ := exists_append_trimStop text
  apply starts
  rw [isText, List.head?_append, Option.mem_def.mp member]
  rfl

theorem isTrimmed_trim (text : List Char) : IsTrimmed text (trim text) := by
  obtain ⟨blanks, isText, areBlanks⟩ := exists_append_trim text
  exact ⟨⟨_, blanks, isText, fun c member => List.mem_takeWhile_imp member, areBlanks⟩,
    starts_trimStop (starts_trimStart text), stops_trimStop _⟩

end Text

/-- The item is a text that stands at a place of the source, without the white space at its ends, and
its span selects it there. -/
structure Located.IsItemAt (source : List Char) (place : Nat) (text : List Char)
    (item : Located (List Char)) : Prop where
  trimmed : Text.IsTrimmed text item.value
  start : place ≤ item.span.start
  stop : item.span.stop ≤ place + Text.byteLength text
  selects : Text.StandsAt source item.span item.value
  isEmpty : item.span.isEmpty = item.value.isEmpty

/-- The items of a text that stands at a place of the source: one for each piece of it, in order. -/
structure AreItems (source : List Char) (place : Nat) (separator : Char) (text : List Char)
    (items : List (Located (List Char))) : Prop where
  standsAt : Text.StandsAt source (.of place text) text
  length : items.length = text.count separator + 1
  item : ∀ index item, items[index]? = some item →
    ∃ front piece back, Text.IsPiece separator text index front piece back ∧
      item.IsItemAt source (place + Text.byteLength front) piece

theorem AreItems.exists_isItemAt {source text : List Char} {place : Nat} {separator : Char}
    {items : List (Located (List Char))} (areItems : AreItems source place separator text items)
    {item : Located (List Char)} (member : item ∈ items) :
    ∃ start piece, item.IsItemAt source start piece := by
  obtain ⟨index, found⟩ := List.mem_iff_getElem?.mp member
  obtain ⟨front, piece, back, -, isItem⟩ := areItems.item index item found
  exact ⟨_, piece, isItem⟩

theorem Text.StandsAt.isEmpty_eq {source text : List Char} {span : Span}
    (standsAt : StandsAt source span text) : span.isEmpty = text.isEmpty := by
  obtain ⟨before, after, -, start, stop⟩ := standsAt
  have empty : span.start = span.stop ↔ text = [] := by
    rw [← byteLength_eq_zero_iff]
    omega
  rw [Bool.eq_iff_iff, Span.isEmpty, beq_iff_eq, empty, List.isEmpty_iff]

theorem Text.StandsAt.inner {source front text back : List Char} {span : Span}
    (standsAt : StandsAt source span (front ++ text ++ back)) :
    StandsAt source (.of (span.start + byteLength front) text) text := by
  obtain ⟨before, after, rfl, start, -⟩ := standsAt
  refine ⟨before ++ front, back ++ after, by simp only [List.append_assoc], ?_, ?_⟩
  · rw [byteLength_append, start, Span.start_of]
  · rw [byteLength_append, start, Span.stop_of]

theorem isItemAt_trimmedAt {source text : List Char} {place : Nat}
    (standsAt : Text.StandsAt source (.of place text) text) :
    (trimmedAt place text).IsItemAt source place text := by
  obtain ⟨blanks, isText, -⟩ := Text.exists_append_trim text
  have selects : Text.StandsAt source (trimmedAt place text).span (Text.trim text) := by
    have whole : Text.StandsAt source (.of place text)
        (text.takeWhile Text.isBlank ++ Text.trim text ++ blanks) := isText ▸ standsAt
    exact whole.inner
  constructor
  case trimmed => exact Text.isTrimmed_trim text
  case start => exact Nat.le_add_right ..
  case stop =>
    have size := congrArg Text.byteLength isText
    simp only [Text.byteLength_append] at size
    rw [trimmedAt, Span.stop_between (Nat.le_add_right ..)]
    omega
  case selects => exact selects
  case isEmpty => exact selects.isEmpty_eq

theorem length_itemsAt (separator : Char) (place : Nat) (texts : List (List Char)) :
    (itemsAt separator place texts).length = texts.length := by
  have same := congrArg List.length (values_itemsAt separator place texts)
  simpa using same

/-- The items of pieces, behind all that stands before them in their text. -/
theorem exists_isPiece_of_itemsAt {separator : Char} (place : Nat) {front : List Char}
    (opens : ∀ c ∈ front.getLast?, c = separator) {texts : List (List Char)}
    (apart : ∀ text ∈ texts, separator ∉ text) {index : Nat} {item : Located (List Char)}
    (found : (itemsAt separator (place + Text.byteLength front) texts)[index]? = some item) :
    ∃ before piece back,
      Text.IsPiece separator (front ++ [separator].intercalate texts)
        (front.count separator + index) before piece back ∧
      item = trimmedAt (place + Text.byteLength before) piece := by
  induction texts generalizing front index with
  | nil => cases found
  | cons text rest ih =>
      rw [List.forall_mem_cons] at apart
      cases index with
      | zero =>
          obtain rfl := Option.some.inj found
          cases rest with
          | nil =>
              exact ⟨front, text, [], ⟨by simp, by simp, opens, apart.1, by simp⟩, rfl⟩
          | cons next others =>
              refine ⟨front, text, separator :: [separator].intercalate (next :: others),
                ⟨?_, by simp, opens, apart.1, by simp⟩, rfl⟩
              rw [List.intercalate_cons_cons, List.append_assoc, List.append_assoc,
                List.singleton_append]
      | succ index =>
          cases rest with
          | nil => cases found
          | cons next others =>
              -- The rest stands behind this piece and the separator.
              have behind : place + Text.byteLength front + Text.byteLength text +
                  separator.utf8Size = place + Text.byteLength (front ++ text ++ [separator]) := by
                simp [Text.byteLength, Nat.add_assoc]
              have later : (itemsAt separator
                  (place + Text.byteLength (front ++ text ++ [separator]))
                  (next :: others))[index]? = some item := by
                rw [← behind]
                exact found
              obtain ⟨before, piece, back, isPiece, isItem⟩ := ih (by simp) apart.2 later
              refine ⟨before, piece, back, ?_, isItem⟩
              have isText : front ++ text ++ [separator] ++ [separator].intercalate (next :: others) =
                  front ++ [separator].intercalate (text :: next :: others) := by
                rw [List.intercalate_cons_cons]
                simp only [List.append_assoc]
              have count : (front ++ text ++ [separator]).count separator + index =
                  front.count separator + (index + 1) := by
                simp [List.count_eq_zero.mpr apart.1, Nat.add_assoc, Nat.add_comm 1]
              rwa [isText, count] at isPiece

theorem areItems_itemsAt {source text : List Char} {place : Nat}
    (standsAt : Text.StandsAt source (.of place text) text) (separator : Char) :
    AreItems source place separator text
      (itemsAt separator place (Text.pieces separator text)) := by
  constructor
  case standsAt => exact standsAt
  case length => rw [length_itemsAt, Text.length_pieces]
  case item =>
    intro index item found
    have atStart : (itemsAt separator (place + Text.byteLength [])
        (Text.pieces separator text))[index]? = some item := found
    obtain ⟨front, piece, back, isPiece, rfl⟩ := exists_isPiece_of_itemsAt place (by simp)
      (fun _ member => Text.notMem_of_mem_pieces member) atStart
    rw [Text.intercalate_pieces, List.nil_append, List.count_nil, Nat.zero_add] at isPiece
    have inText : Text.StandsAt source (.of place text) (front ++ piece ++ back) :=
      isPiece.cut ▸ standsAt
    exact ⟨front, piece, back, isPiece, isItemAt_trimmedAt inText.inner⟩

theorem Statement.eq_of_mem_ofArguments {line : Nat} {arguments : List Argument}
    {statement : Statement} (member : statement ∈ ofArguments line arguments) :
    statement.head :: statement.operands = arguments := by
  cases arguments with
  | nil => cases member
  | cons head operands =>
      obtain rfl := List.mem_singleton.mp member
      rfl

theorem Statement.mem_of_mem_group {line : Nat} {arguments : List Argument}
    {tokens : List (Located Token)} {statement : Statement}
    (member : statement ∈ group line arguments tokens) :
    ∀ argument ∈ statement.head :: statement.operands,
      argument ∈ arguments ++ (tokens.map Piece.token).filterMap Piece.argument? := by
  intro argument isArgument
  induction tokens generalizing line arguments with
  | nil =>
      rw [eq_of_mem_ofArguments member] at isArgument
      exact List.mem_append_left _ isArgument
  | cons first rest ih =>
      obtain ⟨token, span⟩ := first
      cases token with
      | word text | quoted text => simpa [Piece.argument?] using ih member
      | comment text | blank => exact ih member
      | newline =>
          rcases List.mem_append.mp member with ended | later
          · rw [eq_of_mem_ofArguments ended] at isArgument
            exact List.mem_append_left _ isArgument
          · exact List.mem_append_right _ (ih later)

theorem Statement.standsAt_of_mem_ofTokens {source : List Char} {tokens : List (Located Token)}
    (read : tokenize source = .ok tokens) {statement : Statement}
    (member : statement ∈ ofTokens tokens) {argument : Argument}
    (isArgument : argument ∈ statement.head :: statement.operands) :
    Text.StandsAt source argument.span argument.written := by
  have isRead := mem_of_mem_group member argument isArgument
  rw [List.nil_append, ← tokenize_eq_ok_iff.mp read] at isRead
  change argument ∈ (Piece.scan (Text.byteLength []) source).filterMap Piece.argument? at isRead
  obtain ⟨before, after, isSource, isSpan⟩ := Piece.exists_of_mem_arguments isRead
  have isSource : source = before ++ argument.written ++ after := isSource
  rw [isSource, isSpan]
  exact Span.standsAt_of before argument.written after

theorem Argument.standsAt_text {source : List Char} {argument : Argument}
    (isQuoted : argument.kind = .quoted)
    (standsAt : Text.StandsAt source argument.span argument.written) :
    Text.StandsAt source (.of (argument.span.start + 1) argument.text) argument.text := by
  rw [written, isQuoted] at standsAt
  have quoted : Text.StandsAt source argument.span (['"'] ++ argument.text ++ ['"']) := standsAt
  exact quoted.inner

theorem Argument.areItems_of_quoted {source : List Char} {argument : Argument}
    (isQuoted : argument.kind = .quoted)
    (standsAt : Text.StandsAt source argument.span argument.written) (separator : Char) :
    AreItems source (argument.span.start + 1) separator argument.text
      (argument.items separator) := by
  rw [items, textStart, isQuoted]
  exact areItems_itemsAt (standsAt_text isQuoted standsAt) separator

theorem Text.splitOnce?_append {separator : Char} {text : List Char} (apart : separator ∉ text)
    (rest : List Char) : splitOnce? separator (text ++ separator :: rest) = some (text, rest) := by
  induction text with
  | nil => simp [splitOnce?]
  | cons c others ih =>
      simp only [List.mem_cons, not_or] at apart
      rw [List.cons_append, splitOnce?, if_neg (Ne.symm apart.1), ih apart.2]
      rfl

/-- The stations of a curve reference, behind its line and a colon, as a word of their own. -/
def Argument.stations (argument : Argument) (line stations : List Char) : Argument :=
  ⟨.word, stations, .of (argument.span.start + 1 + Text.byteLength line + 1) stations⟩

theorem Argument.areItems_stations {source : List Char} {argument : Argument}
    (isQuoted : argument.kind = .quoted)
    (standsAt : Text.StandsAt source argument.span argument.written) {line stations : List Char}
    (isText : argument.text = line ++ ':' :: stations) :
    AreItems source (argument.span.start + 1 + Text.byteLength line + 1) ',' stations
      ((argument.stations line stations).items ',') := by
  have whole : argument.text = line ++ [':'] ++ stations ++ [] := by
    rw [isText, List.append_nil, List.append_assoc, List.singleton_append]
  have inText := standsAt_text isQuoted standsAt
  rw [whole] at inText
  have behind := inText.inner
  rw [Span.start_of, Text.byteLength_append, ← Nat.add_assoc] at behind
  exact areItems_itemsAt behind ','

theorem Statement.items_of_namedCurve {statement : Statement} {argument : Argument}
    {line stations : List Char} (isText : argument.text = line ++ ':' :: stations)
    (apart : ':' ∉ line) {target : CurveRef}
    (read : namedCurve statement argument = .ok target) :
    ((argument.stations line stations).items ',').map Located.string =
      [target.start, target.stop] := by
  rw [namedCurve, isText, Text.splitOnce?_append apart] at read
  dsimp only at read
  split at read
  · next first second areItems =>
      have isItems : (argument.stations line stations).items ',' = [first, second] := areItems
      split at read
      · cases read
      · obtain rfl := Except.ok.inj read
        rw [isItems]
        rfl
  · cases read

/-- The name is what stands before the only open dot of an item, without the white space between them,
and its span selects it from the source. -/
structure Located.IsNameOf (source : List Char) (item name : Located (List Char)) : Prop where
  dot : ∃ before after, item.value = before ++ '.' :: after ∧
    (∀ place, Text.IsOpenDot item.value place ↔ place = before.length) ∧
    Text.IsTrimmed before name.value
  nonempty : name.value ≠ []
  start : name.span.start = item.span.start
  stop : name.span.stop ≤ item.span.stop
  selects : Text.StandsAt source name.span name.value

def Statement.ReadsTerm (source : List Char) (inside : Bool) (statement : Statement)
    (item : Located (List Char)) (term : TermRef) : Prop :=
  ∃ name, item.IsNameOf source name ∧ stationRef inside statement name = .ok term.station ∧
    term.station.span = name.span

/-- The fault is reported where the item stands, or where the name in it does. -/
def Statement.FaultsTerm (source : List Char) (statement : Statement) (item : Located (List Char))
    (fault : Diagnostic) : Prop :=
  fault = statement.diagnostic (.malformedTerm (String.ofList item.value)) item.span ∨
    ∃ name complaint, item.IsNameOf source name ∧ fault = statement.diagnostic complaint name.span

/-- The terms of a sum are read from its items, one from each, unless one of them is at fault. -/
structure Statement.ReadsTerms (source : List Char) (inside : Bool) (statement : Statement)
    (argument : Argument) : Prop where
  terms : ∀ terms, readTerms inside statement argument = .ok terms →
    List.Forall₂ (statement.ReadsTerm source inside) (argument.items '+') terms
  fault : ∀ fault, readTerms inside statement argument = .error fault →
    ∃ item ∈ argument.items '+', statement.FaultsTerm source item fault

theorem Located.IsItemAt.isNameOf {source text : List Char} {place : Nat}
    {item : Located (List Char)} (isItem : item.IsItemAt source place text) {name : List Char}
    {component : Component} (split : Statement.splitTerm? item.value = some (name, component)) :
    item.IsNameOf source ⟨name, .of item.span.start name⟩ := by
  obtain ⟨dot, isDot, rfl, nonempty⟩ := Statement.name_of_splitTerm? split
  have isOnly := Text.openDot?_eq_some_iff.mp isDot
  obtain ⟨before, after, isValue, rfl, -⟩ := (isOnly dot).mpr rfl
  have isBefore : item.value.take before.length = before := by
    rw [isValue, List.take_left]
  rw [isBefore] at nonempty ⊢
  obtain ⟨blanks, isText, areBlanks⟩ := Text.exists_append_trimStop before
  obtain ⟨left, right, -, start, stop⟩ := isItem.selects
  constructor
  case dot =>
    refine ⟨before, after, isValue, isOnly, ⟨[], blanks, isText, by simp, areBlanks⟩, ?_,
      Text.stops_trimStop before⟩
    apply Text.starts_trimStop
    intro c member
    apply isItem.trimmed.starts
    rw [isValue, List.head?_append, Option.mem_def.mp member]
    rfl
  case nonempty => exact nonempty
  case start => rfl
  case stop =>
    have size := congrArg Text.byteLength isText
    rw [Text.byteLength_append] at size
    rw [Span.stop_of, ← stop, ← start, isValue, Text.byteLength_append]
    omega
  case selects =>
    have whole : item.value = [] ++ Text.trimStop before ++ (blanks ++ '.' :: after) := by
      rw [isValue, List.nil_append, ← List.append_assoc, ← isText]
    have selects := isItem.selects
    rw [whole] at selects
    exact selects.inner

namespace Statement

variable {statement : Statement} {inside : Bool} {name : Located (List Char)}

theorem span_of_stationRef {reference : StationRef}
    (read : stationRef inside statement name = .ok reference) : reference.span = name.span := by
  unfold stationRef qualifiedRef at read
  split at read
  · obtain rfl := Except.ok.inj read
    rfl
  · dsimp only at read
    split at read
    · cases read
    · split at read
      · cases read
      · obtain rfl := Except.ok.inj read
        rfl

theorem exists_complaint_of_stationRef {fault : Diagnostic}
    (failed : stationRef inside statement name = .error fault) :
    ∃ complaint, fault = statement.diagnostic complaint name.span := by
  unfold stationRef qualifiedRef at failed
  split at failed
  · cases failed
  · dsimp only at failed
    split at failed
    · exact ⟨_, (Except.error.inj failed).symm⟩
    · split at failed
      · exact ⟨_, (Except.error.inj failed).symm⟩
      · cases failed

variable {source text : List Char} {place : Nat} {item : Located (List Char)}

theorem readsTerm_of_readTerm (isItem : item.IsItemAt source place text) {term : TermRef}
    (read : readTerm inside statement item = .ok term) :
    statement.ReadsTerm source inside item term := by
  unfold readTerm at read
  cases split : splitTerm? item.value with
  | none =>
      rw [split] at read
      cases read
  | some parts =>
      rw [split] at read
      obtain ⟨station, found, read⟩ := Outcome.bind_eq_ok.mp read
      obtain rfl := Except.ok.inj read
      exact ⟨_, isItem.isNameOf split, found, span_of_stationRef found⟩

theorem faultsTerm_of_readTerm (isItem : item.IsItemAt source place text) {fault : Diagnostic}
    (failed : readTerm inside statement item = .error fault) :
    statement.FaultsTerm source item fault := by
  unfold readTerm at failed
  cases split : splitTerm? item.value with
  | none =>
      rw [split] at failed
      exact .inl (Except.error.inj failed).symm
  | some parts =>
      rw [split] at failed
      rcases Outcome.bind_eq_error.mp failed with failed | ⟨station, -, failed⟩
      · obtain ⟨complaint, isFault⟩ := exists_complaint_of_stationRef failed
        exact .inr ⟨_, complaint, isItem.isNameOf split, isFault⟩
      · cases failed

theorem readsTerms_of_quoted {argument : Argument} (isQuoted : argument.kind = .quoted)
    (areAt : ∀ item ∈ argument.items '+', ∃ place text, item.IsItemAt source place text) :
    statement.ReadsTerms source inside argument := by
  constructor
  case terms =>
    intro terms read
    obtain ⟨quoted, isRead, areTerms⟩ := Outcome.bind_eq_ok.mp read
    obtain ⟨-, rfl⟩ := eq_of_quoted isRead
    have related := (List.forall₂_and_left _ _).mpr ⟨areAt, Outcome.mapM_eq_ok.mp areTerms⟩
    refine related.imp fun item term pair => ?_
    obtain ⟨⟨place, text, isItem⟩, isTerm⟩ := pair
    exact readsTerm_of_readTerm isItem isTerm
  case fault =>
    intro fault failed
    rcases Outcome.bind_eq_error.mp failed with notQuoted | ⟨quoted, isRead, inItem⟩
    · rw [Statement.quoted, isQuoted] at notQuoted
      cases notQuoted
    · obtain ⟨-, rfl⟩ := eq_of_quoted isRead
      obtain ⟨item, isMember, failed⟩ := Outcome.exists_of_mapM_eq_error inItem
      obtain ⟨place, text, isItem⟩ := areAt item isMember
      exact ⟨item, isMember, faultsTerm_of_readTerm isItem failed⟩

end Statement

/-- The items of a string in a source are its pieces, one for each, without the white space at their
ends, and their spans select them from the source. So are the stations of a curve reference, and so
are the names of the terms of a sum within its items. -/
theorem items_of_source {source : List Char} {tokens : List (Located Token)}
    (read : tokenize source = .ok tokens) {statement : Statement}
    (member : statement ∈ Statement.ofTokens tokens) {argument : Argument}
    (isArgument : argument ∈ statement.head :: statement.operands)
    (isQuoted : argument.kind = .quoted) :
    (∀ separator, AreItems source (argument.span.start + 1) separator argument.text
      (argument.items separator)) ∧
    (∀ line stations, argument.text = line ++ ':' :: stations → ':' ∉ line →
      AreItems source (argument.span.start + 1 + Text.byteLength line + 1) ',' stations
        ((argument.stations line stations).items ',') ∧
      ∀ reader target, Statement.namedCurve reader argument = .ok target →
        ((argument.stations line stations).items ',').map Located.string =
          [target.start, target.stop]) ∧
    ∀ inside reader, Statement.ReadsTerms source inside reader argument := by
  have standsAt := Statement.standsAt_of_mem_ofTokens read member isArgument
  have areItems := Argument.areItems_of_quoted isQuoted standsAt
  refine ⟨areItems, fun line stations isText apart => ⟨?_, fun reader target isCurve => ?_⟩,
    fun inside reader => ?_⟩
  · exact Argument.areItems_stations isQuoted standsAt isText
  · exact Statement.items_of_namedCurve isText apart isCurve
  · exact Statement.readsTerms_of_quoted isQuoted fun item member =>
      (areItems '+').exists_isItemAt member

def wideSource : List Char :=
  "curve \"A,B\" up,right parallelto curve \"é: A ,\u3000B\"".toList

def wideReference : Argument := ⟨.quoted, "é: A ,\u3000B".toList, .between 38 51⟩

def wideStatement : Statement where
  line := 1
  head := ⟨.word, "curve".toList, .between 0 5⟩
  operands := [⟨.quoted, "A,B".toList, .between 6 11⟩, ⟨.word, "up,right".toList, .between 12 20⟩,
    ⟨.word, "parallelto".toList, .between 21 31⟩, ⟨.word, "curve".toList, .between 32 37⟩,
    wideReference]

theorem statements_wide :
    ∃ tokens, tokenize wideSource = .ok tokens ∧ Statement.ofTokens tokens = [wideStatement] := by
  have said : (tokenize wideSource).map Statement.ofTokens = .ok [wideStatement] := by cbv
  cases read : tokenize wideSource with
  | error faults =>
      rw [read] at said
      cases said
  | ok tokens =>
      rw [read] at said
      exact ⟨tokens, rfl, Except.ok.inj said⟩

theorem items_of_source_wide :
    (∃ tokens, tokenize wideSource = .ok tokens ∧ wideStatement ∈ Statement.ofTokens tokens) ∧
      wideReference ∈ wideStatement.head :: wideStatement.operands ∧
      wideReference.kind = .quoted ∧
      AreItems wideSource 42 ',' " A ,\u3000B".toList
        [⟨['A'], .between 43 44⟩, ⟨['B'], .between 49 50⟩] := by
  obtain ⟨tokens, read, areStatements⟩ := statements_wide
  have member : wideStatement ∈ Statement.ofTokens tokens := by
    rw [areStatements]
    exact List.mem_singleton_self _
  have isArgument : wideReference ∈ wideStatement.head :: wideStatement.operands := by
    decide
  have isText : wideReference.text = ['é'] ++ ':' :: " A ,\u3000B".toList := by decide
  obtain ⟨-, ofLine, -⟩ := items_of_source read member isArgument rfl
  obtain ⟨areItems, -⟩ := ofLine _ _ isText (by decide)
  exact ⟨⟨tokens, read, member⟩, isArgument, rfl, areItems⟩

end TransitMap
