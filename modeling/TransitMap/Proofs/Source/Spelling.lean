import TransitMap.Proofs.Source.ConstraintReferences
import TransitMap.Proofs.Text

/-!
How the statements of a line spell the names of its stations. A name that is declared is looked up as it
stands, without the white space around it, or with its dots unescaped, and so a reference that spells it
as declared leads to its station or not.
-/

namespace TransitMap

/-- The stations that a statement of a line names stand in its first operand: as the whole string, as
items of a list, or as items in which a backslash takes a dot. -/
inductive Spelling where
  | whole
  | item
  | dotted
  deriving DecidableEq, Repr

namespace Spelling

def ofKeyword? : String → Option Spelling
  | "endpoint" => some whole
  | "edges" | "curve" => some item
  | "vertical" | "horizontal" | "up-right" | "down-left" | "down-right" | "up-left" => some dotted
  | _ => none

def texts : Spelling → List Char → List (List Char)
  | whole, text => [text]
  | item, text | dotted, text => Text.pieces ',' text

/-- The name that a text is looked up under. -/
def name : Spelling → List Char → List Char
  | whole, text => text
  | item, text => Text.trim text
  | dotted, text => Text.unescape (Text.trim text)

def names (spelling : Spelling) (text : List Char) : List String :=
  (spelling.texts text).map fun text => String.ofList (spelling.name text)

/-- The text at a position of the string is the name, in a list perhaps with white space around it. -/
def Spells (spelling : Spelling) (text : List Char) (position : Nat) (name : List Char) : Prop :=
  ∃ before after, (spelling.texts text)[position]? = some (before ++ name ++ after) ∧
    match spelling with
    | whole => before = [] ∧ after = []
    | item | dotted =>
        (∀ c ∈ before, Text.isBlank c = true) ∧ ∀ c ∈ after, Text.isBlank c = true

/-- The name is looked up as it is declared. -/
def Keeps : Spelling → List Char → Prop
  | whole, _ => True
  | item, name => Text.trim name = name
  | dotted, name => Text.trim name = name ∧ ¬ ['\\', '.'] <:+: name

theorem name_eq_self_iff {spelling : Spelling} {text : List Char} :
    spelling.name text = text ↔ spelling.Keeps text := by
  cases spelling with
  | whole => simp [name, Keeps]
  | item => rfl
  | dotted =>
      constructor
      · intro same
        -- Neither step makes a text longer, so neither changes it.
        have unescaped := Text.length_unescape_le (Text.trim text)
        rw [show Text.unescape (Text.trim text) = text from same] at unescaped
        have isTrimmed := (Text.trim_sublist text).eq_of_length_le unescaped
        rw [name, isTrimmed] at same
        exact ⟨isTrimmed, Text.unescape_eq_self_iff.mp same⟩
      · rintro ⟨isTrimmed, noEscape⟩
        rw [name, isTrimmed, Text.unescape_eq_self_iff.mpr noEscape]

theorem Spells.exists_text {spelling : Spelling} {text : List Char} {position : Nat}
    {declared : List Char} (spells : spelling.Spells text position declared) :
    ∃ spelled, (spelling.texts text)[position]? = some spelled ∧
      spelling.name spelled = spelling.name declared := by
  obtain ⟨before, after, found, blanks⟩ := spells
  refine ⟨_, found, ?_⟩
  cases spelling with
  | whole =>
      obtain ⟨rfl, rfl⟩ := blanks
      simp [name]
  | item => exact Text.trim_append blanks.1 _ blanks.2
  | dotted => rw [name, name, Text.trim_append blanks.1 _ blanks.2]

end Spelling

def AlignmentRef.stations : AlignmentRef → List StationRef
  | axis _ stations | diagonal _ stations => stations
  | sameStation .. | equal .. => []

def StationRef.located (reference : StationRef) : Located String := ⟨reference.name, reference.span⟩

/-- What a statement of a line finds when it looks the stations up that it names. -/
def Command.lookUps {K : Type} (network : Network K) (line : LineId) (origin : Origin) :
    Command → List (Except Diagnostic StationId)
  | .edges names => names.map fun name => Draft.stationOn network line name origin
  | .curve start stop _ => [start, stop].map fun name => Draft.stationOn network line name origin
  | .endpoint name _ => [Draft.stationOn network line name origin]
  | .alignment rule =>
      rule.stations.map (Draft.resolveStation network ⟨rule, some line, origin, ""⟩)
  | .line _ | .multiLine | .station .. | .overlap .. => []

namespace Statement

variable {statement : Statement} {command : Command} {spelling : Spelling}

/-- The statement names stations of its line, and the command looks them up under these names. -/
def LooksUp (statement : Statement) (spelling : Spelling) (command : Command) : Prop :=
  ∃ argument rest, ∃ names : List (Located String), statement.operands = argument :: rest ∧
    names.map Located.value = spelling.names argument.text ∧
    ∀ {K : Type} (network : Network K) (line : LineId) (origin : Origin),
      command.lookUps network line origin =
        names.map fun name => Draft.stationOn network line name origin

theorem names_item (text : List Char) : Spelling.item.names text = Text.names text := by
  rw [Text.names, Text.items, List.map_map]
  rfl

theorem looksUp_of_edgesOf (read : edgesOf statement = .ok command) :
    statement.LooksUp .item command := by
  unfold edgesOf at read
  split at read
  · next stations operands =>
      simp only [Outcome.bind_eq_ok, Except.ok.injEq] at read
      obtain ⟨items, areNames, rfl⟩ := read
      obtain ⟨-, rfl⟩ := items_of_names areNames
      refine ⟨stations, [], _, operands, ?_, fun _ _ _ => rfl⟩
      rw [names_item, ← names_itemsAt stations.textStart, List.map_map]
      rfl
  · cases read

theorem looksUp_of_curveOf (read : curveOf statement = .ok command) :
    statement.LooksUp .item command := by
  obtain ⟨start, stop, shape, rfl⟩ := eq_curve_of_curveOf read
  obtain ⟨stations, argument, operands, areOperands, areNames, -⟩ := of_curveOf read
  refine ⟨stations, argument :: operands, [start, stop], areOperands, ?_, fun _ _ _ => rfl⟩
  rw [names_item, areNames]
  rfl

theorem looksUp_of_endpointOf (read : endpointOf statement = .ok command) :
    statement.LooksUp .whole command := by
  unfold endpointOf at read
  split at read
  · next station kind operands =>
      simp only [Outcome.bind_eq_ok, Except.ok.injEq] at read
      obtain ⟨station, isQuoted, kind, -, rfl⟩ := read
      obtain ⟨-, rfl⟩ := eq_of_quoted isQuoted
      exact ⟨station, _, [station.located], operands, rfl, fun _ _ _ => rfl⟩
  · cases read

theorem looksUp_of_listAlignment {make : List StationRef → AlignmentRef}
    (stationsOf : ∀ stations, (make stations).stations = stations)
    (read : listAlignment true statement make = .ok command) :
    statement.LooksUp .dotted command := by
  obtain ⟨rule, rfl⟩ := eq_alignment_of_listAlignment read
  obtain ⟨stations, references, operands, rfl, areReferences⟩ := of_listAlignment read
  have areReferences : (stations.items ',').map (fun item =>
      (⟨none, String.ofList (Text.unescape item.value), item.span⟩ : StationRef)) = references := by
    rw [← List.forall₂_eq_eq_eq, List.forall₂_map_left_iff]
    exact (Outcome.mapM_eq_ok.mp areReferences).imp fun _ _ => Except.ok.inj
  refine ⟨stations, [], references.map StationRef.located, operands, ?_, ?_⟩
  · have areNames := congrArg (List.map fun text => String.ofList (Text.unescape text))
      (Argument.values_items stations ',')
    rw [Text.items, List.map_map, List.map_map] at areNames
    rw [← areReferences, List.map_map, List.map_map]
    exact areNames
  · intro K network line origin
    rw [Command.lookUps, stationsOf, ← areReferences, List.map_map, List.map_map, List.map_map]
    rfl

theorem looksUp_of_command (isSpelling : Spelling.ofKeyword? statement.keyword = some spelling)
    (read : statement.command true = .ok command) : statement.LooksUp spelling command := by
  unfold Spelling.ofKeyword? at isSpelling
  split at isSpelling <;> cases isSpelling
  all_goals
    next same =>
      simp only [Statement.command, same] at read
      first
        | exact looksUp_of_endpointOf (of_underLine read).2
        | exact looksUp_of_edgesOf (of_underLine read).2
        | exact looksUp_of_curveOf (of_underLine read).2
        | exact looksUp_of_listAlignment (fun _ => rfl) read

end Statement

/-- The stations that a statement of a line looks up, or why the first look-up that fails does. -/
def Command.stationsFound {K : Type} (network : Network K) (line : LineId) (origin : Origin)
    (command : Command) : Except Diagnostic (List StationId) :=
  (command.lookUps network line origin).mapM fun result => result

namespace Draft

variable {K : Type} {draft : Draft K} {id : LineId} {statement : Statement} {command : Command}
  {outcome : Except Diagnostic Unit} {fault : Diagnostic}

theorem placeCurve_eq_error (places : List CurvePlace) {start stop : Located String}
    {shape : ShapeRef} {origin : Origin}
    (failed : (Command.curve start stop shape).stationsFound draft.network id origin =
      .error fault) :
    draft.placeCurve places ⟨id, start, stop, shape, origin⟩ = .error fault := by
  simp only [Command.stationsFound, Command.lookUps, List.map_cons, List.map_nil, List.mapM_cons,
    List.mapM_nil, Outcome.bind_eq_error, pure, Except.pure, reduceCtorEq, and_false, exists_false,
    or_false] at failed
  rw [placeCurve]
  rcases failed with missing | ⟨first, found, missing⟩
  · simp only [missing]
    rfl
  · simp only [found, missing]
    rfl

theorem resolveRule_eq_error {network : Network K} {rule : AlignmentRef} {origin : Origin}
    (text : String)
    (failed : (Command.alignment rule).stationsFound network id origin = .error fault) :
    resolveRule network ⟨rule, some id, origin, text⟩ = .error fault := by
  cases rule with
  | axis axis stations | diagonal diagonal stations =>
      -- Of the alignment a look-up uses the line and the origin only.
      rw [Command.stationsFound, Command.lookUps, List.mapM_map] at failed
      exact congrArg (fun found => found >>= _) failed
  | sameStation | equal => cases failed

variable [Scalar K]

/-- How a command of a line comes out: at once, or with the curves and the alignments behind all
statements. -/
inductive CarriesOut (draft : Draft K) (id : LineId) (statement : Statement) :
    Command → Except Diagnostic Unit → Prop
  | atOnce {command : Command} (resolver : Resolver) (source : List Char) :
      statement.command true = .ok command → command.IsAtOnce →
      CarriesOut draft id statement command
        ((draft.step resolver source (some id) statement).map fun _ => ())
  | curve (places : List CurvePlace) (start stop : Located String) (shape : ShapeRef) :
      CarriesOut draft id statement (.curve start stop shape)
        ((draft.placeCurve places ⟨id, start, stop, shape, statement.origin⟩).map fun _ => ())
  | alignment (rule : AlignmentRef) (text : String) :
      CarriesOut draft id statement (.alignment rule)
        ((resolveRule draft.network ⟨rule, some id, statement.origin, text⟩).map fun _ => ())

theorem step_eq_error (resolver : Resolver) (source : List Char)
    (read : statement.command true = .ok command) (atOnce : command.IsAtOnce)
    (failed : command.stationsFound draft.network id statement.origin = .error fault) :
    draft.step resolver source (some id) statement = .error fault := by
  rw [step, Option.isSome_some, read]
  cases command with
  | curve | alignment | overlap => cases atOnce
  | line | multiLine | station => cases failed
  | edges names =>
      rw [Command.stationsFound, Command.lookUps, List.mapM_map] at failed
      change (declareEdges draft id names statement.origin >>= _) = _
      rw [declareEdges]
      exact congrArg (fun found => (found >>= _) >>= _) failed
  | endpoint name kind =>
      have missing : stationOn draft.network id name statement.origin = .error fault := by
        simpa [Command.stationsFound, Command.lookUps] using failed
      change (declareEndpoint draft id name kind statement.origin >>= _) = _
      rw [declareEndpoint, missing]
      rfl

/-- Whatever a look-up fails with is what the command fails with. -/
theorem CarriesOut.eq_error (carried : draft.CarriesOut id statement command outcome)
    (failed : command.stationsFound draft.network id statement.origin = .error fault) :
    outcome = .error fault := by
  cases carried with
  | atOnce resolver source read isAtOnce =>
      rw [step_eq_error resolver source read isAtOnce failed]
      rfl
  | curve places =>
      rw [placeCurve_eq_error places failed]
      rfl
  | alignment rule text =>
      rw [resolveRule_eq_error text failed]
      rfl

theorem CarriesOut.exists_of_mem_lookUps (carried : draft.CarriesOut id statement command (.ok ())) :
    ∀ result ∈ command.lookUps draft.network id statement.origin,
      ∃ station, result = .ok station := by
  cases found : command.stationsFound draft.network id statement.origin with
  | error fault => cases carried.eq_error found
  | ok stations => simpa using Outcome.exists_of_mem_map found

end Draft

theorem Statement.underLines_take (scope : Option String) (statements : List Statement) (count : Nat) :
    underLines scope (statements.take count) = (underLines scope statements).take count := by
  induction statements generalizing scope count with
  | nil => simp [underLines]
  | cons statement rest ih =>
      cases count with
      | zero => rfl
      | succ count => simp [underLines, ih]

theorem Declarations.forall₂_underLines {scope : Option String} {statements : List Statement}
    {declarations : Declarations}
    (read : Declarations.ofStatements scope statements = .ok declarations) :
    List.Forall₂ (fun entry said => said.1 = entry.scope ∧
      entry.statement.command entry.scope.isSome = .ok said.2)
      (Statement.underLines scope statements) declarations := by
  induction statements generalizing scope declarations with
  | nil =>
      obtain rfl := Except.ok.inj read
      exact .nil
  | cons statement rest ih =>
      simp only [Declarations.ofStatements, Outcome.bind_eq_ok, Except.ok.injEq] at read
      obtain ⟨command, isCommand, others, readRest, rfl⟩ := read
      rw [← Statement.scopeBehind_eq isCommand] at readRest
      exact .cons ⟨rfl, isCommand⟩ (ih readRest)

def ScopedStatement.Declares (entry : ScopedStatement) (line : String) (name : List Char) : Prop :=
  entry.scope = some line ∧
    (entry.statement.keyword = "station" ∨ entry.statement.keyword = "alignment-point") ∧
    ∃ argument rest, entry.statement.operands = argument :: rest ∧ argument.text = name

/-- The statement names a station of the line at a position, spelled as this name. -/
def ScopedStatement.Refers (entry : ScopedStatement) (line : String) (spelling : Spelling)
    (position : Nat) (name : List Char) : Prop :=
  entry.scope = some line ∧ Spelling.ofKeyword? entry.statement.keyword = some spelling ∧
    ∃ argument rest, entry.statement.operands = argument :: rest ∧
      spelling.Spells argument.text position name

namespace Statement

variable {statement : Statement} {inside : Bool} {command : Command}

theorem name_of_stationOf {kind : StationKind} (read : stationOf statement kind = .ok command) :
    ∃ argument rest x y, statement.operands = argument :: rest ∧
      command = .station kind argument.located x y := by
  unfold stationOf at read
  split at read
  · next name x y operands =>
      simp only [Outcome.bind_eq_ok] at read
      obtain ⟨name, isQuoted, x, -, y, -, read⟩ := read
      obtain ⟨-, rfl⟩ := eq_of_quoted isQuoted
      split at read
      · cases read
      · exact ⟨name, _, x, y, operands, (Except.ok.inj read).symm⟩
  · cases read

theorem name_of_station (isKeyword : statement.keyword = "station" ∨
      statement.keyword = "alignment-point") (read : statement.command inside = .ok command) :
    ∃ argument rest kind x y, statement.operands = argument :: rest ∧
      command = .station kind argument.located x y := by
  rcases isKeyword with same | same
  all_goals
    simp only [Statement.command, same] at read
    obtain ⟨argument, rest, x, y, operands, rfl⟩ := name_of_stationOf (of_underLine read).2
    exact ⟨argument, rest, _, x, y, operands, rfl⟩

end Statement

namespace Network

variable {K : Type} [Scalar K] {network : Network K} {resolver : Resolver}
  {declarations : Declarations}

theorem Holds.exists_names (holds : Holds resolver network declarations) (sound : network.Declared)
    {line : String} {written : StationDeclaration} (member : written ∈ declarations.stations line) :
    ∃ id station, network.lineNamed? line = some id ∧ network.Names id written.name station := by
  have isLine : line ∈ network.lines.map Line.name := by
    rw [holds.lineNames]
    by_contra undeclared
    rw [(holds.undeclared line undeclared).1] at member
    cases member
  obtain ⟨found, listed, rfl⟩ := List.mem_map.mp isLine
  obtain ⟨index, atIndex⟩ := List.mem_iff_getElem?.mp listed
  have atLine : network.line? ⟨index⟩ = some found := atIndex
  obtain ⟨index, isWritten⟩ := List.mem_iff_getElem?.mp member
  obtain ⟨item, -, isStation⟩ :=
    Outcome.exists_right_of_forall₂ (holds.line _ _ atLine).stations isWritten
  exact ⟨_, item.2, sound.indexed.lineNamed?_name atLine, isStation.names⟩

end Network

namespace Draft

variable {K : Type} [Scalar K] {resolver : Resolver} {source : List Char}
  {statements : List Statement} {declaring position count : Nat}
  {declaration reference : ScopedStatement} {line : String} {name : List Char}
  {spelling : Spelling} {command : Command} {draft : Draft K}

theorem declared_of_declares
    (declared : (Statement.underLines none statements)[declaring]? = some declaration)
    (declares : declaration.Declares line name) (behind : declaring < count)
    (reached : ofStatements resolver source none empty (statements.take count) = .ok draft) :
    draft.network.Declared ∧ ∃ id station, draft.network.lineNamed? line = some id ∧
      draft.network.Names id (String.ofList name) station := by
  have noScope : UnderLine (.empty : Network K) none := fun _ isScope => by cases isScope
  have sound := sound_empty.ofStatements noScope reached
  obtain ⟨declarations, said, holds⟩ :=
    holds_ofStatements sound_empty noScope (Network.holds_empty resolver) reached
  obtain ⟨scope, isKeyword, argument, rest, operands, rfl⟩ := declares
  have atDeclaring : (Statement.underLines none (statements.take count))[declaring]? =
      some declaration := by
    rw [Statement.underLines_take, List.getElem?_take_of_lt behind, declared]
  obtain ⟨⟨_, command⟩, atCommand, rfl, read⟩ :=
    Outcome.exists_right_of_forall₂ (Declarations.forall₂_underLines said) atDeclaring
  obtain ⟨other, _, kind, x, y, same, rfl⟩ := Statement.name_of_station isKeyword read
  rw [operands, List.cons.injEq] at same
  obtain ⟨rfl, -⟩ := same
  have member : ⟨kind, argument.string, x, y⟩ ∈ declarations.stations line := by
    rw [Declarations.stations, Declarations.under, List.mem_filterMap]
    refine ⟨.station kind argument.located x y, ?_, rfl⟩
    refine List.mem_map.mpr ⟨_, List.mem_filter.mpr ⟨List.mem_of_getElem? atCommand, ?_⟩, rfl⟩
    simp [scope]
  exact ⟨sound.declared, holds.exists_names sound.declared member⟩

/-- When a station is declared, a statement of its line that names it as it is declared finds it just if
the name is looked up as it stands. Otherwise the statement finds the station of the line that has the
name which is looked up, or none. -/
theorem lookUp_of_refers
    (declared : (Statement.underLines none statements)[declaring]? = some declaration)
    (declares : declaration.Declares line name) (behind : declaring < count)
    (reached : ofStatements resolver source none empty (statements.take count) = .ok draft)
    (refers : reference.Refers line spelling position name)
    (read : reference.statement.command true = .ok command) :
    ∃ id station result, draft.network.lineNamed? line = some id ∧
      draft.network.Names id (String.ofList name) station ∧
      (command.lookUps draft.network id reference.statement.origin)[position]? = some result ∧
      (result = .ok station ↔ spelling.Keeps name) ∧
      ((∃ other, result = .ok other ∧
          draft.network.Names id (String.ofList (spelling.name name)) other) ∨
        ∃ fault, result = .error fault ∧ fault.code = .unknownStation) ∧
      ∀ outcome, draft.CarriesOut id reference.statement command outcome →
        (outcome = .ok () → ∃ other, result = .ok other) ∧
        ∀ fault, command.stationsFound draft.network id reference.statement.origin =
          .error fault → outcome = .error fault := by
  obtain ⟨sound, id, station, isLine, names⟩ := declared_of_declares declared declares behind reached
  obtain ⟨-, isSpelling, argument, rest, operands, spells⟩ := refers
  obtain ⟨other, _, looked, same, areNames, lookUps⟩ :=
    Statement.looksUp_of_command isSpelling read
  rw [operands, List.cons.injEq] at same
  obtain ⟨rfl, -⟩ := same
  obtain ⟨spelled, atPosition, sameName⟩ := spells.exists_text
  have atName := congrArg (·[position]?) areNames
  simp only [Spelling.names, List.getElem?_map, atPosition, Option.map_some, sameName] at atName
  obtain ⟨found, atFound, isName⟩ := Option.map_eq_some_iff.mp atName
  refine ⟨id, station, stationOn draft.network id found reference.statement.origin, isLine, names,
    ?_, ?_, ?_, fun outcome carried => ⟨?_, fun fault => carried.eq_error⟩⟩
  · rw [lookUps, List.getElem?_map, atFound, Option.map_some]
  · rw [← Spelling.name_eq_self_iff]
    constructor
    · intro isFound
      have isNamed := (names_of_stationOn sound isFound).stationName
      rw [names.stationName, isName] at isNamed
      exact (String.ofList_injective isNamed).symm
    · intro isKept
      rw [stationOn, isName, isKept, sound.stationNamed?_of_names names]
  · rw [stationOn, isName]
    cases isFound : draft.network.stationNamed? id (String.ofList (spelling.name name)) with
    | some other => exact .inl ⟨other, rfl, sound.names_of_stationNamed? isFound⟩
    | none => exact .inr ⟨_, rfl, rfl⟩
  · rintro rfl
    refine carried.exists_of_mem_lookUps _ ?_
    rw [lookUps]
    exact List.mem_map_of_mem (List.mem_of_getElem? atFound)

end Draft

namespace Network

def spacedSource : List Char :=
  "line red:\nstation \" A \" 0 0\nstation \"B\" 10 0\nedges \" A , B\"\n".toList

def spacedStation : Statement :=
  ⟨3, ⟨.word, "station".toList, .between 28 35⟩, [⟨.quoted, ['B'], .between 36 39⟩,
    ⟨.word, "10".toList, .between 40 42⟩, ⟨.word, ['0'], .between 43 44⟩]⟩

def spacedEdges : Statement :=
  ⟨4, ⟨.word, "edges".toList, .between 45 50⟩, [⟨.quoted, " A , B".toList, .between 51 59⟩]⟩

def spacedStatements : List Statement :=
  [⟨1, ⟨.word, "line".toList, .between 0 4⟩, [⟨.word, "red:".toList, .between 5 9⟩]⟩,
    ⟨2, ⟨.word, "station".toList, .between 10 17⟩, [⟨.quoted, " A ".toList, .between 18 23⟩,
      ⟨.word, ['0'], .between 24 25⟩, ⟨.word, ['0'], .between 26 27⟩]⟩,
    spacedStation, spacedEdges]

theorem statements_spaced :
    (tokenize spacedSource).map Statement.ofTokens = .ok spacedStatements := by
  cbv

theorem lookUp_of_refers_spaced :
    ∃ draft : Draft Rat, Draft.ofStatements (fun _ name => some name) spacedSource none .empty
        (spacedStatements.take 3) = .ok draft ∧
      ∃ id station command, spacedEdges.command true = .ok command ∧
        draft.network.Names id "B" station ∧
        (command.lookUps draft.network id spacedEdges.origin)[1]? = some (.ok station) := by
  obtain ⟨draft, reached⟩ : ∃ draft : Draft Rat, Draft.ofStatements (fun _ name => some name)
      spacedSource none .empty (spacedStatements.take 3) = .ok draft := ⟨_, rfl⟩
  obtain ⟨command, read⟩ : ∃ command, spacedEdges.command true = .ok command := ⟨_, rfl⟩
  have declared : (Statement.underLines none spacedStatements)[2]? =
      some ⟨some "red", spacedStation⟩ := rfl
  have declares : ScopedStatement.Declares ⟨some "red", spacedStation⟩ "red" ['B'] :=
    ⟨rfl, .inl rfl, _, _, rfl, rfl⟩
  have refers : ScopedStatement.Refers ⟨some "red", spacedEdges⟩ "red" .item 1 ['B'] :=
    ⟨rfl, rfl, _, _, rfl, [' '], [], rfl, by simp [Text.isBlank], by simp⟩
  obtain ⟨id, station, result, -, names, atPosition, found, -⟩ :=
    Draft.lookUp_of_refers declared declares (by decide) reached refers read
  have isKept : Spelling.item.Keeps ['B'] := rfl
  rw [found.mpr isKept] at atPosition
  exact ⟨draft, reached, id, station, command, read, names, atPosition⟩

/-- A reference in an `edges` list that spells the name of a station as it is declared. -/
theorem ofSource_spaced :
    (∃ declaration, (Statement.underLines none spacedStatements)[1]? = some declaration ∧
      declaration.Declares "red" " A ".toList) ∧
    ScopedStatement.Refers ⟨some "red", spacedEdges⟩ "red" .item 0 " A ".toList ∧
    (ofSource (fun _ name => some name) spacedSource : Except (List Diagnostic) (Network Rat)) =
      .error [Complaint.diagnostic (.unknownStation "A" "red") (.between 53 54) (some 4)] :=
  ⟨⟨_, rfl, rfl, .inl rfl, _, _, rfl, rfl⟩,
    ⟨rfl, rfl, _, _, rfl, [], [], rfl, by simp, by simp⟩,
    ofSource_eq_error statements_spaced rfl⟩

end Network

end TransitMap
