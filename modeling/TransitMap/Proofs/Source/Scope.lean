import TransitMap.Proofs.Source.Reading

namespace TransitMap

structure ScopedStatement where
  scope : Option String
  statement : Statement
  deriving DecidableEq, Repr

def alignmentKeywords : List String :=
  ["vertical", "horizontal", "up-right", "down-left", "down-right", "up-left", "same-station", "equal"]

def Command.keywords : Command → List String
  | line _ => ["line"]
  | multiLine => ["multi-line", "multi-line:"]
  | station .. => ["station", "alignment-point"]
  | edges _ => ["edges"]
  | curve .. => ["curve"]
  | endpoint .. => ["endpoint"]
  | alignment _ => alignmentKeywords
  | overlap .. => ["zindex"]

/-- The command is carried out when it is read, with nothing left to be resolved. -/
def Command.IsAtOnce : Command → Prop
  | curve .. | alignment _ | overlap .. => False
  | _ => True

theorem Command.IsAtOnce.keywords {command : Command} (atOnce : command.IsAtOnce) :
    ∀ keyword ∈ command.keywords,
      keyword ≠ "curve" ∧ keyword ∉ alignmentKeywords ∧ keyword ≠ "zindex" := by
  cases command with
  | curve | alignment | overlap => cases atOnce
  | _ => simp [Command.keywords, alignmentKeywords]

namespace Statement

def scopeBehind (current : Option String) (statement : Statement) : Option String :=
  match statement.keyword, statement.operands with
  | "line", [name] =>
      some (String.ofList (if name.text.getLast? = some ':' then name.text.dropLast else name.text))
  | "multi-line", _ | "multi-line:", _ => none
  | _, _ => current

def underLines : Option String → List Statement → List ScopedStatement
  | _, [] => []
  | scope, statement :: rest =>
      ⟨scope, statement⟩ :: underLines (statement.scopeBehind scope) rest

variable {statement : Statement} {inside : Bool} {command : Command}

theorem eq_of_word {argument read : Argument} {usage : Usage}
    (isWord : statement.word argument usage = .ok read) : argument.kind = .word ∧ read = argument := by
  unfold word at isWord
  split at isWord
  · next kind => exact ⟨kind, (Except.ok.inj isWord).symm⟩
  · cases isWord

theorem eq_of_quoted {argument read : Argument} {usage : Usage}
    (isQuoted : statement.quoted argument usage = .ok read) :
    argument.kind = .quoted ∧ read = argument := by
  unfold quoted at isQuoted
  split at isQuoted
  · next kind => exact ⟨kind, (Except.ok.inj isQuoted).symm⟩
  · cases isQuoted

theorem eq_line_of_header (read : header statement = .ok command) :
    ∃ argument name, statement.operands = [argument] ∧ command = .line name ∧
      name.value = String.ofList
        (if argument.text.getLast? = some ':' then argument.text.dropLast else argument.text) := by
  unfold header at read
  split at read
  · next argument operands =>
      simp only [Outcome.bind_eq_ok] at read
      obtain ⟨word, isWord, read⟩ := read
      obtain ⟨-, rfl⟩ := eq_of_word isWord
      generalize isText :
        (if word.text.getLast? = some ':' then word.text.dropLast else word.text) = text at read
      split at read
      · cases read
      · exact ⟨word, _, operands, (Except.ok.inj read).symm, by rw [isText]⟩
  · cases read

theorem eq_curve_of_curveOf (read : curveOf statement = .ok command) :
    ∃ start stop shape, command = .curve start stop shape := by
  unfold curveOf at read
  split at read
  · simp only [Outcome.bind_eq_ok] at read
    obtain ⟨⟨start, stop⟩, -, keyword, -, read⟩ := read
    split at read
    · simp only [Outcome.bind_eq_ok, Except.ok.injEq] at read
      obtain ⟨shape, -, rfl⟩ := read
      exact ⟨_, _, _, rfl⟩
    · simp only [Outcome.bind_eq_ok] at read
      obtain ⟨bend, -, read⟩ := read
      split at read
      · exact ⟨_, _, _, (Except.ok.inj read).symm⟩
      · simp only [Outcome.bind_eq_ok, Except.ok.injEq] at read
        obtain ⟨target, -, rfl⟩ := read
        exact ⟨_, _, _, rfl⟩
  · cases read

theorem eq_multiLine_of_ite {isAlone : Bool} {fault : Diagnostic}
    (read : (if isAlone then .ok .multiLine else .error fault : Except Diagnostic Command) =
      .ok command) : command = .multiLine := by
  split at read
  · exact (Except.ok.inj read).symm
  · cases read

theorem keyword_of_command (read : statement.command inside = .ok command) :
    statement.keyword ∈ command.keywords := by
  unfold Statement.command at read
  generalize statement.keyword = keyword at read ⊢
  split at read
  · obtain ⟨argument, name, -, rfl, -⟩ := eq_line_of_header read
    simp [Command.keywords]
  · obtain rfl := eq_multiLine_of_ite read
    simp [Command.keywords]
  · obtain rfl := eq_multiLine_of_ite read
    simp [Command.keywords]
  · obtain ⟨name, x, y, rfl⟩ := eq_station_of_stationOf (of_underLine read).2
    simp [Command.keywords]
  · obtain ⟨name, x, y, rfl⟩ := eq_station_of_stationOf (of_underLine read).2
    simp [Command.keywords]
  · obtain ⟨names, rfl⟩ := eq_edges_of_edgesOf (of_underLine read).2
    simp [Command.keywords]
  · obtain ⟨start, stop, shape, rfl⟩ := eq_curve_of_curveOf (of_underLine read).2
    simp [Command.keywords]
  · obtain ⟨station, kind, rfl⟩ := eq_endpoint_of_endpointOf (of_underLine read).2
    simp [Command.keywords]
  iterate 6
    · obtain ⟨rule, rfl⟩ := eq_alignment_of_listAlignment read
      simp [Command.keywords, alignmentKeywords]
  · obtain ⟨rule, rfl⟩ := eq_alignment_of_sameStationOf read
    simp [Command.keywords, alignmentKeywords]
  · split at read
    · simp only [Outcome.bind_eq_ok, Except.ok.injEq] at read
      obtain ⟨left, -, right, -, rfl⟩ := read
      simp [Command.keywords, alignmentKeywords]
    · cases read
  · obtain ⟨above, below, rfl⟩ := eq_overlap_of_overlapOf read
    simp [Command.keywords]
  · cases read

theorem scopeBehind_eq (read : statement.command inside = .ok command) (current : Option String) :
    statement.scopeBehind current = command.scope current := by
  have isKeyword := keyword_of_command read
  cases command with
  | line name =>
      have isLine : statement.keyword = "line" := by simpa [Command.keywords] using isKeyword
      simp only [Statement.command, isLine] at read
      obtain ⟨argument, _, isOperand, ⟨⟩, isName⟩ := eq_line_of_header read
      simp only [scopeBehind, isLine, isOperand, Command.scope, isName]
  | multiLine =>
      have isNone : statement.keyword = "multi-line" ∨ statement.keyword = "multi-line:" := by
        simpa [Command.keywords] using isKeyword
      rcases isNone with same | same
      · simp only [scopeBehind, same, Command.scope]
      · simp only [scopeBehind, same, Command.scope]
  | station | edges | curve | endpoint | alignment | overlap =>
      simp only [Command.keywords, alignmentKeywords, List.mem_cons, List.not_mem_nil, or_false] at isKeyword
      unfold scopeBehind
      split <;> simp_all [Command.scope]

end Statement

namespace ScopedStatement

def isCurve (entry : ScopedStatement) : Bool := entry.statement.keyword == "curve"

def isAlignment (entry : ScopedStatement) : Bool := alignmentKeywords.contains entry.statement.keyword

def isOverlap (entry : ScopedStatement) : Bool := entry.statement.keyword == "zindex"

end ScopedStatement

namespace Draft

variable {K : Type} {draft next : Draft K} {network : Network K}

structure KeepsCurve (network : Network K) (entry : ScopedStatement) (curve : CurveDraft) : Prop where
  scope : entry.scope = some (network.lineName curve.line)
  known : curve.line.index < network.lines.length
  read : entry.statement.command true = .ok (.curve curve.start curve.stop curve.shape)
  origin : curve.origin = entry.statement.origin

structure KeepsAlignment (network : Network K) (entry : ScopedStatement)
    (alignment : AlignmentDraft) : Prop where
  scope : entry.scope = alignment.line.map network.lineName
  known : UnderLine network alignment.line
  read : entry.statement.command alignment.line.isSome = .ok (.alignment alignment.rule)
  origin : alignment.origin = entry.statement.origin

structure KeepsOverlap (entry : ScopedStatement) (overlap : OverlapDraft) : Prop where
  read : ∃ inside, entry.statement.command inside = .ok (.overlap overlap.above overlap.below)
  origin : overlap.origin = entry.statement.origin

/-- What waits in a draft is what the statements of a source leave to be resolved. -/
structure Keeps (entries : List ScopedStatement) (draft : Draft K) : Prop where
  curves : List.Forall₂ (KeepsCurve draft.network) (entries.filter ScopedStatement.isCurve)
    draft.curves
  alignments : List.Forall₂ (KeepsAlignment draft.network)
    (entries.filter ScopedStatement.isAlignment) draft.alignments
  overlaps : List.Forall₂ KeepsOverlap (entries.filter ScopedStatement.isOverlap) draft.overlaps

theorem keeps_empty : Keeps [] (empty : Draft K) := ⟨.nil, .nil, .nil⟩

/-- The lines are those of the other network, and perhaps more behind them. -/
def Extends (network other : Network K) : Prop :=
  ∃ more, other.lines.map Line.name = network.lines.map Line.name ++ more

theorem Extends.lineName {other : Network K} (grown : Extends network other) {line : LineId}
    (known : line.index < network.lines.length) : other.lineName line = network.lineName line := by
  obtain ⟨more, names⟩ := grown
  have bound : line.index < (network.lines.map Line.name).length := by rwa [List.length_map]
  simp only [Network.lineName, Network.line?, ← List.getElem?_map, names]
  rw [List.getElem?_append_left bound]

theorem Extends.length_le {other : Network K} (grown : Extends network other) :
    network.lines.length ≤ other.lines.length := by
  obtain ⟨more, names⟩ := grown
  have size := congrArg List.length names
  rw [List.length_map, List.length_append, List.length_map] at size
  omega

theorem KeepsCurve.mono {other : Network K} (grown : Extends network other)
    {entry : ScopedStatement} {curve : CurveDraft} (keeps : KeepsCurve network entry curve) :
    KeepsCurve other entry curve where
  scope := by rw [keeps.scope, grown.lineName keeps.known]
  known := Nat.lt_of_lt_of_le keeps.known grown.length_le
  read := keeps.read
  origin := keeps.origin

theorem KeepsAlignment.mono {other : Network K} (grown : Extends network other)
    {entry : ScopedStatement} {alignment : AlignmentDraft}
    (keeps : KeepsAlignment network entry alignment) : KeepsAlignment other entry alignment where
  scope := by
    rw [keeps.scope]
    cases isLine : alignment.line with
    | none => rfl
    | some line => rw [Option.map_some, Option.map_some, grown.lineName (keeps.known line isLine)]
  known := keeps.known.mono grown.length_le
  read := keeps.read
  origin := keeps.origin

theorem Keeps.mono {entries : List ScopedStatement} (keeps : Keeps entries draft)
    (grown : Extends draft.network next.network) (curves : next.curves = draft.curves)
    (alignments : next.alignments = draft.alignments) (overlaps : next.overlaps = draft.overlaps) :
    Keeps entries next where
  curves := by
    rw [curves]
    exact keeps.curves.imp fun _ _ => KeepsCurve.mono grown
  alignments := by
    rw [alignments]
    exact keeps.alignments.imp fun _ _ => KeepsAlignment.mono grown
  overlaps := by
    rw [overlaps]
    exact keeps.overlaps

structure SameWaiting (draft next : Draft K) : Prop where
  curves : next.curves = draft.curves
  alignments : next.alignments = draft.alignments
  overlaps : next.overlaps = draft.overlaps

theorem sameWaiting_declareLine {name : Located String} {origin : Origin} {line : LineId}
    (declared : draft.declareLine name origin = .ok (line, next)) : SameWaiting draft next := by
  unfold declareLine at declared
  split at declared
  · cases declared
  · cases declared
    exact ⟨rfl, rfl, rfl⟩

theorem sameWaiting_declareStation [Scalar K] {resolver : Resolver} {line : LineId}
    {kind : StationKind} {name : Located String} {x y : Int} {origin : Origin}
    (declared : draft.declareStation resolver line kind name x y origin = .ok next) :
    SameWaiting draft next := by
  unfold declareStation at declared
  dsimp only at declared
  split at declared
  · cases declared
  · simp only [Outcome.bind_eq_ok, Except.ok.injEq] at declared
    obtain ⟨identifier, -, rfl⟩ := declared
    exact ⟨rfl, rfl, rfl⟩

theorem sameWaiting_declareEdges {line : LineId} {names : List (Located String)} {origin : Origin}
    (declared : draft.declareEdges line names origin = .ok next) : SameWaiting draft next := by
  simp only [declareEdges, Outcome.bind_eq_ok, Except.ok.injEq] at declared
  obtain ⟨stations, -, rfl⟩ := declared
  exact ⟨rfl, rfl, rfl⟩

theorem sameWaiting_declareEndpoint {line : LineId} {station kind : Located String}
    {origin : Origin} (declared : draft.declareEndpoint line station kind origin = .ok next) :
    SameWaiting draft next := by
  simp only [declareEndpoint, Outcome.bind_eq_ok, Except.ok.injEq] at declared
  obtain ⟨station, -, kind, -, rfl⟩ := declared
  exact ⟨rfl, rfl, rfl⟩

theorem Keeps.concat {entries : List ScopedStatement} (keeps : Keeps entries draft)
    (grown : Extends draft.network next.network) (same : SameWaiting draft next)
    {entry : ScopedStatement} (notCurve : entry.isCurve = false)
    (notAlignment : entry.isAlignment = false) (notOverlap : entry.isOverlap = false) :
    Keeps (entries ++ [entry]) next := by
  have keeps := keeps.mono grown same.curves same.alignments same.overlaps
  refine ⟨?_, ?_, ?_⟩
  · simpa [List.filter_append, notCurve] using keeps.curves
  · simpa [List.filter_append, notAlignment] using keeps.alignments
  · simpa [List.filter_append, notOverlap] using keeps.overlaps

variable [Scalar K] {resolver : Resolver} {source : List Char} {scope nextScope : Option LineId}
  {declarations : Declarations} {entries : List ScopedStatement}

theorem extends_of_holds {command : Command}
    (holds : Network.Holds resolver draft.network declarations)
    (nextHolds : Network.Holds resolver next.network (declarations ++ [(scope.map draft.network.lineName, command)])) :
    Extends draft.network next.network :=
  ⟨command.lineName?.toList, by
    rw [nextHolds.lineNames, holds.lineNames, Declarations.lineNames_concat]⟩

theorem inside_of_curve {statement : Statement} {inside : Bool} {start stop : Located String}
    {shape : ShapeRef} (read : statement.command inside = .ok (.curve start stop shape)) :
    inside = true ∧ Statement.curveOf statement = .ok (.curve start stop shape) := by
  have isCurve : statement.keyword = "curve" := by
    simpa [Command.keywords] using Statement.keyword_of_command read
  simp only [Statement.command, isCurve] at read
  exact Statement.of_underLine read

theorem sameWaiting_of_step {statement : Statement} {command : Command}
    (read : statement.command scope.isSome = .ok command) (atOnce : command.IsAtOnce)
    (stepped : draft.step resolver source scope statement = .ok (nextScope, next)) :
    SameWaiting draft next := by
  unfold Draft.step at stepped
  simp only [read, Outcome.bind_eq_ok, Except.ok.injEq, exists_eq_left'] at stepped
  cases command with
  | line name =>
      simp only [Outcome.bind_eq_ok, Except.ok.injEq, Prod.mk.injEq] at stepped
      obtain ⟨⟨line, declared⟩, isDeclared, rfl, rfl⟩ := stepped
      exact sameWaiting_declareLine isDeclared
  | multiLine =>
      simp only [Except.ok.injEq, Prod.mk.injEq] at stepped
      obtain ⟨rfl, rfl⟩ := stepped
      exact ⟨rfl, rfl, rfl⟩
  | curve | alignment | overlap => cases atOnce
  | station | edges | endpoint =>
      cases scope with
      | none =>
          simp only [Except.ok.injEq, Prod.mk.injEq] at stepped
          obtain ⟨rfl, rfl⟩ := stepped
          exact ⟨rfl, rfl, rfl⟩
      | some line =>
          simp only [Outcome.bind_eq_ok, Outcome.pure_eq_ok, Prod.mk.injEq] at stepped
          obtain ⟨declared, isDeclared, rfl, rfl⟩ := stepped
          first
            | exact sameWaiting_declareStation isDeclared
            | exact sameWaiting_declareEdges isDeclared
            | exact sameWaiting_declareEndpoint isDeclared

/-- Each statement that leaves something to be resolved leaves it at the end. -/
theorem Keeps.step (keeps : Keeps entries draft) (sound : draft.Sound)
    (known : UnderLine draft.network scope)
    (holds : Network.Holds resolver draft.network declarations) {statement : Statement}
    (stepped : draft.step resolver source scope statement = .ok (nextScope, next)) :
    Keeps (entries ++ [⟨scope.map draft.network.lineName, statement⟩]) next := by
  obtain ⟨command, read, -, nextHolds⟩ := holds_step sound known holds stepped
  have grown := extends_of_holds holds nextHolds
  have isKeyword := Statement.keyword_of_command read
  by_cases atOnce : command.IsAtOnce
  -- What is carried out at once only adds to the network, where what waits keeps its line.
  · obtain ⟨notCurve, notAlignment, notOverlap⟩ := atOnce.keywords _ isKeyword
    apply keeps.concat grown (sameWaiting_of_step read atOnce stepped)
    · simpa [ScopedStatement.isCurve] using notCurve
    · simpa [ScopedStatement.isAlignment] using notAlignment
    · simpa [ScopedStatement.isOverlap] using notOverlap
  unfold Draft.step at stepped
  simp only [read, Outcome.bind_eq_ok, Except.ok.injEq, exists_eq_left'] at stepped
  cases command with
  | line | multiLine | station | edges | endpoint => exact absurd trivial atOnce
  | curve start stop shape =>
      have isCurve : statement.keyword = "curve" := by simpa [Command.keywords] using isKeyword
      cases scope with
      | none => cases (inside_of_curve read).1
      | some line =>
          simp only [Except.ok.injEq, Prod.mk.injEq] at stepped
          obtain ⟨rfl, rfl⟩ := stepped
          refine ⟨?_, ?_, ?_⟩
          · simp only [List.filter_append, List.filter_cons, ScopedStatement.isCurve, isCurve]
            exact List.rel_append keeps.curves (.cons ⟨rfl, known line rfl, read, rfl⟩ .nil)
          · simpa [List.filter_append, ScopedStatement.isAlignment, isCurve, alignmentKeywords]
              using keeps.alignments
          · simpa [List.filter_append, ScopedStatement.isOverlap, isCurve] using keeps.overlaps
  | alignment rule =>
      simp only [Except.ok.injEq, Prod.mk.injEq] at stepped
      obtain ⟨rfl, rfl⟩ := stepped
      have isAlignment : alignmentKeywords.contains statement.keyword = true := by
        simpa [Command.keywords] using isKeyword
      have others : ∀ keyword ∈ alignmentKeywords, keyword ≠ "curve" ∧ keyword ≠ "zindex" := by
        simp [alignmentKeywords]
      obtain ⟨notCurve, notOverlap⟩ := others _ isKeyword
      refine ⟨?_, ?_, ?_⟩
      · simpa [List.filter_append, ScopedStatement.isCurve, notCurve] using keeps.curves
      · simp only [List.filter_append, List.filter_cons, ScopedStatement.isAlignment, isAlignment]
        exact List.rel_append keeps.alignments (.cons ⟨rfl, known, read, rfl⟩ .nil)
      · simpa [List.filter_append, ScopedStatement.isOverlap, notOverlap] using keeps.overlaps
  | overlap above below =>
      simp only [Except.ok.injEq, Prod.mk.injEq] at stepped
      obtain ⟨rfl, rfl⟩ := stepped
      have isOverlap : statement.keyword = "zindex" := by simpa [Command.keywords] using isKeyword
      refine ⟨?_, ?_, ?_⟩
      · simpa [List.filter_append, ScopedStatement.isCurve, isOverlap] using keeps.curves
      · simpa [List.filter_append, ScopedStatement.isAlignment, isOverlap, alignmentKeywords]
          using keeps.alignments
      · simp only [List.filter_append, List.filter_cons, ScopedStatement.isOverlap, isOverlap]
        exact List.rel_append keeps.overlaps (.cons ⟨⟨_, read⟩, rfl⟩ .nil)

theorem Keeps.ofStatements (keeps : Keeps entries draft) (sound : draft.Sound)
    (known : UnderLine draft.network scope)
    (holds : Network.Holds resolver draft.network declarations) {statements : List Statement}
    (carriedOut : ofStatements resolver source scope draft statements = .ok next) :
    Keeps (entries ++ Statement.underLines (scope.map draft.network.lineName) statements) next := by
  induction statements generalizing draft scope declarations entries with
  | nil =>
      obtain rfl := Except.ok.inj carriedOut
      simpa [Statement.underLines] using keeps
  | cons statement rest ih =>
      simp only [Draft.ofStatements, Outcome.bind_eq_ok] at carriedOut
      obtain ⟨⟨middleScope, middle⟩, stepped, carriedOut⟩ := carriedOut
      obtain ⟨middleSound, middleKnown⟩ := sound.step known stepped
      obtain ⟨command, read, sameScope, middleHolds⟩ := holds_step sound known holds stepped
      have later := ih (keeps.step sound known holds stepped) middleSound middleKnown middleHolds
        carriedOut
      rw [← sameScope, ← Statement.scopeBehind_eq read] at later
      rwa [Statement.underLines, List.append_cons]

end Draft

end TransitMap
