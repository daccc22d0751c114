import TransitMap.Proofs.Source.Declaration
import TransitMap.Proofs.Source.Soundness

namespace TransitMap

namespace Draft

variable {K : Type} [Scalar K] {draft next : Draft K} {resolver : Resolver} {source : List Char}
  {scope nextScope : Option LineId} {declarations : Declarations}

theorem hasIdentifier_of_identifierOf {line : String} {kind : StationKind} {name : Located String}
    {x y : Int} {origin : Origin} {identifier : String}
    (identified : identifierOf resolver line kind name origin = .ok identifier) :
    StationDeclaration.HasIdentifier resolver line ⟨kind, name.value, x, y⟩ identifier := by
  unfold identifierOf at identified
  cases kind with
  | alignmentPoint => exact (Except.ok.inj identified).symm
  | station =>
      dsimp only at identified
      split at identified
      · next found => exact found.trans (congrArg some (Except.ok.inj identified))
      · cases identified

theorem holds_declareLine (sound : draft.Sound)
    (holds : Network.Holds resolver draft.network declarations) (under : Option String)
    {name : Located String} {origin : Origin} {line : LineId}
    (declared : draft.declareLine name origin = .ok (line, next)) :
    next.network.lineName line = name.value ∧
      Network.Holds resolver next.network (declarations ++ [(under, .line name)]) := by
  unfold declareLine at declared
  split at declared
  · cases declared
  · next missing =>
      have added := holds.addLine sound.declared under missing
      simp only [Network.addLine, missing, Except.ok.injEq, Prod.mk.injEq] at declared added
      obtain ⟨rfl, rfl⟩ := declared
      exact ⟨by simp [Network.lineName, Network.line?, Line.empty], added⟩

theorem holds_declareStation (sound : draft.Sound)
    (holds : Network.Holds resolver draft.network declarations) {line : LineId}
    (known : UnderLine draft.network (some line)) {kind : StationKind} {name : Located String}
    {x y : Int} {origin : Origin}
    (declared : draft.declareStation resolver line kind name x y origin = .ok next) :
    next.network.lines.map Line.name = draft.network.lines.map Line.name ∧
      Network.Holds resolver next.network
        (declarations ++ [(some (draft.network.lineName line), .station kind name x y)]) := by
  unfold declareStation at declared
  dsimp only at declared
  split at declared
  · cases declared
  · next missing =>
      simp only [Outcome.bind_eq_ok, Except.ok.injEq] at declared
      obtain ⟨identifier, identified, rfl⟩ := declared
      exact ⟨Network.names_lines_addStation .., holds.addStation sound.declared known missing
        (hasIdentifier_of_identifierOf identified)⟩

theorem holds_declareEdges (sound : draft.Sound)
    (holds : Network.Holds resolver draft.network declarations) {line : LineId}
    (known : UnderLine draft.network (some line)) {names : List (Located String)} {origin : Origin}
    (declared : draft.declareEdges line names origin = .ok next) :
    next.network.lines.map Line.name = draft.network.lines.map Line.name ∧
      Network.Holds resolver next.network
        (declarations ++ [(some (draft.network.lineName line), .edges names)]) := by
  simp only [declareEdges, Outcome.bind_eq_ok, Except.ok.injEq] at declared
  obtain ⟨stations, found, rfl⟩ := declared
  have named := (Outcome.mapM_eq_ok.mp found).imp fun name station =>
    names_of_stationOn sound.declared
  exact ⟨Network.names_connect .., holds.connect sound.declared known named⟩

theorem holds_declareEndpoint (sound : draft.Sound)
    (holds : Network.Holds resolver draft.network declarations) {line : LineId}
    (known : UnderLine draft.network (some line)) {station kind : Located String} {origin : Origin}
    (declared : draft.declareEndpoint line station kind origin = .ok next) :
    next.network.lines.map Line.name = draft.network.lines.map Line.name ∧
      Network.Holds resolver next.network
        (declarations ++ [(some (draft.network.lineName line), .endpoint station kind)]) := by
  simp only [declareEndpoint, Outcome.bind_eq_ok, Except.ok.injEq] at declared
  obtain ⟨id, -, ⟨axis, half⟩, -, rfl⟩ := declared
  exact ⟨Network.names_modifyLine _ line fun _ => rfl,
    holds.addEndpoint sound.declared known station kind _⟩

/-- What a statement says is what the network holds on top. -/
theorem holds_step (sound : draft.Sound) (known : UnderLine draft.network scope)
    (holds : Network.Holds resolver draft.network declarations) {statement : Statement}
    (stepped : draft.step resolver source scope statement = .ok (nextScope, next)) :
    ∃ command, statement.command scope.isSome = .ok command ∧
      command.scope (scope.map draft.network.lineName) = nextScope.map next.network.lineName ∧
      Network.Holds resolver next.network
        (declarations ++ [(scope.map draft.network.lineName, command)]) := by
  unfold Draft.step at stepped
  dsimp only at stepped
  rw [Outcome.bind_eq_ok] at stepped
  obtain ⟨command, read, stepped⟩ := stepped
  refine ⟨command, read, ?_⟩
  have waiting (waits : command.Waits scope) := holds.wait sound.declared known waits
  have sameScope {line : LineId}
      (same : next.network.lines.map Line.name = draft.network.lines.map Line.name) :
      (some line).map draft.network.lineName = (some line).map next.network.lineName := by
    simp only [Option.map_some, Network.lineName_congr same]
  cases command with
  | line name =>
      simp only [Outcome.bind_eq_ok, Except.ok.injEq, Prod.mk.injEq] at stepped
      obtain ⟨⟨line, declared⟩, isDeclared, rfl, rfl⟩ := stepped
      obtain ⟨named, holds⟩ := holds_declareLine sound holds _ isDeclared
      exact ⟨congrArg some named.symm, holds⟩
  | multiLine =>
      simp only [Except.ok.injEq, Prod.mk.injEq] at stepped
      obtain ⟨rfl, rfl⟩ := stepped
      exact ⟨rfl, waiting trivial⟩
  | alignment rule | overlap above below =>
      simp only [Except.ok.injEq, Prod.mk.injEq] at stepped
      obtain ⟨rfl, rfl⟩ := stepped
      exact ⟨rfl, waiting trivial⟩
  | curve start stop shape =>
      cases scope with
      | none | some line =>
          simp only [Except.ok.injEq, Prod.mk.injEq] at stepped
          obtain ⟨rfl, rfl⟩ := stepped
          exact ⟨rfl, waiting trivial⟩
  | station kind name x y =>
      cases scope with
      | none =>
          simp only [Except.ok.injEq, Prod.mk.injEq] at stepped
          obtain ⟨rfl, rfl⟩ := stepped
          exact ⟨rfl, waiting trivial⟩
      | some line =>
          simp only [Outcome.bind_eq_ok, Outcome.pure_eq_ok, Prod.mk.injEq] at stepped
          obtain ⟨declared, isDeclared, rfl, rfl⟩ := stepped
          obtain ⟨same, holds⟩ := holds_declareStation sound holds known isDeclared
          exact ⟨sameScope same, holds⟩
  | edges names =>
      cases scope with
      | none =>
          simp only [Except.ok.injEq, Prod.mk.injEq] at stepped
          obtain ⟨rfl, rfl⟩ := stepped
          exact ⟨rfl, waiting trivial⟩
      | some line =>
          simp only [Outcome.bind_eq_ok, Outcome.pure_eq_ok, Prod.mk.injEq] at stepped
          obtain ⟨declared, isDeclared, rfl, rfl⟩ := stepped
          obtain ⟨same, holds⟩ := holds_declareEdges sound holds known isDeclared
          exact ⟨sameScope same, holds⟩
  | endpoint station kind =>
      cases scope with
      | none =>
          simp only [Except.ok.injEq, Prod.mk.injEq] at stepped
          obtain ⟨rfl, rfl⟩ := stepped
          exact ⟨rfl, waiting trivial⟩
      | some line =>
          simp only [Outcome.bind_eq_ok, Outcome.pure_eq_ok, Prod.mk.injEq] at stepped
          obtain ⟨declared, isDeclared, rfl, rfl⟩ := stepped
          obtain ⟨same, holds⟩ := holds_declareEndpoint sound holds known isDeclared
          exact ⟨sameScope same, holds⟩

theorem holds_ofStatements (sound : draft.Sound) (known : UnderLine draft.network scope)
    (holds : Network.Holds resolver draft.network declarations) {statements : List Statement}
    (carriedOut : ofStatements resolver source scope draft statements = .ok next) :
    ∃ more, Declarations.ofStatements (scope.map draft.network.lineName) statements = .ok more ∧
      Network.Holds resolver next.network (declarations ++ more) := by
  induction statements generalizing draft scope declarations with
  | nil =>
      obtain rfl := Except.ok.inj carriedOut
      exact ⟨[], rfl, by rwa [List.append_nil]⟩
  | cons statement rest ih =>
      simp only [Draft.ofStatements, Outcome.bind_eq_ok] at carriedOut
      obtain ⟨⟨middleScope, middle⟩, stepped, carriedOut⟩ := carriedOut
      obtain ⟨middleSound, middleKnown⟩ := sound.step known stepped
      obtain ⟨command, read, sameScope, middleHolds⟩ := holds_step sound known holds stepped
      obtain ⟨more, readMore, holdsAll⟩ := ih middleSound middleKnown middleHolds carriedOut
      refine ⟨(scope.map draft.network.lineName, command) :: more, ?_, by rwa [List.append_cons]⟩
      rw [← sameScope] at readMore
      simp only [Declarations.ofStatements, Option.isSome_map, Outcome.bind_eq_ok, Except.ok.injEq]
      exact ⟨command, read, more, readMore, rfl⟩

end Draft

namespace Network

variable {K : Type} {network : Network K}

def ListsCurves (network : Network K) : Prop :=
  ∀ id line, network.line? id = some line → ∀ curve,
    curve ∈ line.curves ↔ ∃ found, network.curve? curve = some found ∧ found.line = id

theorem line?_addCurve (network : Network K) (curve : Curve) (id : LineId) :
    (network.addCurve curve).2.line? id =
      if curve.line = id then (network.line? id).map fun line =>
        { line with curves := line.curves ++ [⟨network.curves.length⟩] }
      else network.line? id :=
  line?_modifyLine network curve.line id _

theorem curve?_addCurve (network : Network K) (curve : Curve) (id : CurveId) :
    (network.addCurve curve).2.curve? id =
      if id.index = network.curves.length then some curve else network.curve? id :=
  getElem?_concat network.curves curve id.index

theorem ListsCurves.addCurve (lists : network.ListsCurves) (curve : Curve) :
    (network.addCurve curve).2.ListsCurves := by
  have fresh : network.curve? ⟨network.curves.length⟩ = none := List.getElem?_eq_none (Nat.le_refl _)
  intro id line found other
  rw [line?_addCurve] at found
  simp only [curve?_addCurve]
  split at found
  · next own =>
      obtain ⟨before, atBefore, rfl⟩ := Option.map_eq_some_iff.mp found
      rw [List.mem_append, List.mem_singleton, lists id before atBefore other]
      obtain ⟨index⟩ := other
      by_cases new : index = network.curves.length
      · subst new
        simp [own]
      · simp [new]
  · next foreign =>
      rw [lists id line found other]
      obtain ⟨index⟩ := other
      by_cases new : index = network.curves.length
      · subst new
        simp [foreign, fresh]
      · simp [new]

theorem ListsCurves.congr {other : Network K} (lists : network.ListsCurves)
    (lines : other.lines = network.lines) (curves : other.curves = network.curves) :
    other.ListsCurves := by
  simpa only [ListsCurves, line?, curve?, lines, curves] using lists

end Network

namespace Draft

variable {K : Type} {network result : Network K}

theorem listsCurves_of_resolveCurves {places : List CurvePlace}
    {curves : List (CurveDraft × CurvePlace)} (lists : network.ListsCurves)
    (resolved : resolveCurves places network curves = .ok result) : result.ListsCurves := by
  induction curves generalizing network with
  | nil => exact Except.ok.inj resolved ▸ lists
  | cons placed rest ih =>
      simp only [resolveCurves, Outcome.bind_eq_ok] at resolved
      obtain ⟨shape, -, resolved⟩ := resolved
      exact ih (lists.addCurve _) resolved

theorem listsCurves_of_resolveAlignments {written : List AlignmentDraft}
    (lists : network.ListsCurves) (resolved : resolveAlignments network written = .ok result) :
    result.ListsCurves := by
  induction written generalizing network with
  | nil => exact Except.ok.inj resolved ▸ lists
  | cons alignment rest ih =>
      simp only [resolveAlignments, Outcome.bind_eq_ok] at resolved
      obtain ⟨rule, -, resolved⟩ := resolved
      have stillLists : (network.addAlignment
          ⟨rule, alignment.line, alignment.origin.line, alignment.text⟩).ListsCurves :=
        lists.congr rfl rfl
      exact ih stillLists resolved

theorem listsCurves_of_resolveOverlaps {written : List OverlapDraft}
    (lists : network.ListsCurves) (resolved : resolveOverlaps network written = .ok result) :
    result.ListsCurves := by
  induction written generalizing network with
  | nil => exact Except.ok.inj resolved ▸ lists
  | cons overlap rest ih =>
      simp only [resolveOverlaps, Outcome.bind_eq_ok] at resolved
      obtain ⟨above, -, below, -, resolved⟩ := resolved
      have stillLists : (network.addOverlap ⟨above, below, overlap.origin.line⟩).ListsCurves :=
        lists.congr rfl rfl
      exact ih stillLists resolved

theorem listsCurves_of_resolve {draft : Draft K} {origins : SourceMap}
    (lists : draft.network.ListsCurves) (resolved : draft.resolve = .ok (network, origins)) :
    network.ListsCurves := by
  simp only [resolve, Outcome.bind_eq_ok, Except.ok.injEq, Prod.mk.injEq] at resolved
  obtain ⟨places, -, first, curves, second, alignments, third, overlaps, rfl, -⟩ := resolved
  have lists := listsCurves_of_resolveCurves lists curves
  exact listsCurves_of_resolveOverlaps (listsCurves_of_resolveAlignments lists alignments) overlaps

end Draft

namespace Network

variable {K : Type} [Scalar K] {network : Network K} {resolver : Resolver} {source : List Char}
  {declarations : Declarations}

theorem Holds.bare (holds : Holds resolver network declarations) :
    Holds resolver network.bare declarations where
  lineNames := by
    rw [← holds.lineNames]
    simp [Network.bare, Function.comp_def]
  line id line found := by
    rw [line?_bare] at found
    obtain ⟨before, atBefore, rfl⟩ := Option.map_eq_some_iff.mp found
    have old := holds.line id before atBefore
    exact ⟨old.stations, old.edges, rfl⟩
  undeclared := holds.undeclared

theorem Holds.names_of_bare (holds : Holds resolver network.bare declarations) :
    network.lines.map Line.name = declarations.lineNames := by
  rw [← holds.lineNames]
  simp [Network.bare, Function.comp_def]

theorem Holds.line_of_bare (holds : Holds resolver network.bare declarations) {id : LineId}
    {line : Line} (found : network.line? id = some line) :
    HoldsLine resolver network declarations id { line with curves := [] } := by
  have held := holds.line id { line with curves := [] } (by rw [line?_bare, found, Option.map_some])
  exact ⟨held.stations, held.edges, rfl⟩

/-- A network that is read from a source holds what the source declares, and its lines list their
curves. -/
theorem holds_of_ofSource (read : ofSource resolver source = .ok network) :
    network.Declared ∧ network.ListsCurves ∧
      ∃ declarations, Declarations.ofSource source = .ok declarations ∧
        Holds resolver network.bare declarations := by
  simp only [ofSource, alone, Outcome.bind_eq_ok, Outcome.mapError_eq_ok] at read
  obtain ⟨tokens, tokenized, draft, drafted, ⟨resolved, origins⟩, isResolved, read⟩ := read
  dsimp only at read
  split at read
  · obtain rfl := Except.ok.inj read
    have noScope : Draft.UnderLine (empty : Network K) none := fun _ isScope => by cases isScope
    have sound := Draft.sound_empty.ofStatements noScope drafted
    obtain ⟨declarations, said, holds⟩ :=
      Draft.holds_ofStatements Draft.sound_empty noScope (holds_empty resolver) drafted
    obtain ⟨⟨places, describes⟩, -⟩ := Draft.describes_of_resolve sound isResolved
    refine ⟨sound.declared.of_bare_eq describes.bare, ?_, declarations, ?_,
      describes.bare ▸ holds.bare⟩
    · refine Draft.listsCurves_of_resolve (fun id line found curve => ?_) isResolved
      simp [(holds.line id line found).no_curves, curve?, sound.no_curves]
    · simp only [Declarations.ofSource, Outcome.bind_eq_ok, Outcome.mapError_eq_ok]
      exact ⟨tokens, tokenized, said⟩
  · cases read

theorem exists_sketch_of_ofSource (read : ofSource resolver source = .ok network)
    {id : StationId} {station : Station K} (found : network.station? id = some station) :
    ∃ x y, station.sketch = .ofGrid x y := by
  obtain ⟨declared, -, declarations, -, holds⟩ := holds_of_ofSource read
  obtain ⟨line, atLine, listed⟩ := declared.line_of_station found
  obtain ⟨index, atIndex⟩ := List.mem_iff_getElem?.mp listed
  obtain ⟨said, -, -, identifier, -, isStation⟩ :=
    Outcome.exists_left_of_forall₂ (holds.line_of_bare atLine).stations atIndex
  rw [found] at isStation
  exact ⟨said.x, said.y, congrArg Station.sketch (Option.some.inj isStation)⟩

theorem ofSource_eq_error {statements : List Statement} {fault : Diagnostic}
    (said : (tokenize source).map Statement.ofTokens = .ok statements)
    (refused : Draft.ofStatements resolver source none (Draft.empty : Draft K) statements =
      .error fault) :
    (ofSource resolver source : Except (List Diagnostic) (Network K)) = .error [fault] := by
  cases tokenized : tokenize source with
  | error faults =>
      rw [tokenized] at said
      cases said
  | ok tokens =>
      rw [tokenized] at said
      obtain rfl := Except.ok.inj said
      rw [ofSource, tokenized]
      simp [bind, Except.bind, alone, Except.mapError, refused]

end Network

end TransitMap
