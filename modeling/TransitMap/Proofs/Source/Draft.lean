import TransitMap.Proofs.Network.Declared
import TransitMap.Proofs.Source.Command
import TransitMap.Source.Draft

namespace TransitMap

namespace Network

variable {K : Type} {network : Network K}

@[simp] theorem length_lines_addEdge (network : Network K) (line : LineId)
    (start stop : StationId) :
    (network.addEdge line start stop).2.lines.length = network.lines.length := by
  rw [addEdge]
  split <;> simp

theorem OnLine.of_stations {other : Network K} {line : LineId} {station : StationId}
    (onLine : network.OnLine line station) (same : other.stations = network.stations) :
    other.OnLine line station := by
  simpa only [OnLine, station?, same] using onLine

end Network

namespace Draft

variable {K : Type} {draft : Draft K}

theorem names_of_stationOn {network : Network K} (declared : network.Declared) {line : LineId}
    {name : Located String} {origin : Origin} {station : StationId}
    (found : stationOn network line name origin = .ok station) :
    network.Names line name.value station := by
  unfold stationOn at found
  split at found
  · next named =>
      obtain rfl := Except.ok.inj found
      exact declared.names_of_stationNamed? named
  · cases found

def UnderLine (network : Network K) (scope : Option LineId) : Prop :=
  ∀ line, scope = some line → line.index < network.lines.length

theorem UnderLine.mono {network other : Network K} {scope : Option LineId}
    (known : UnderLine network scope) (bound : network.lines.length ≤ other.lines.length) :
    UnderLine other scope :=
  fun line isScope => Nat.lt_of_lt_of_le (known line isScope) bound

structure Sound (draft : Draft K) : Prop where
  declared : draft.network.Declared
  no_curves : draft.network.curves = []
  no_alignments : draft.network.alignments = []
  no_overlaps : draft.network.overlaps = []
  curves : ∀ curve ∈ draft.curves, curve.shape.Fits curve.start.value curve.stop.value
  alignments : ∀ alignment ∈ draft.alignments, UnderLine draft.network alignment.line

theorem sound_empty : (empty : Draft K).Sound where
  declared := Network.declared_empty
  no_curves := rfl
  no_alignments := rfl
  no_overlaps := rfl
  curves := by simp [empty]
  alignments := by simp [empty]

theorem Sound.declare (sound : draft.Sound) {network : Network K} (declared : network.Declared)
    (noCurves : network.curves = draft.network.curves)
    (noAlignments : network.alignments = draft.network.alignments)
    (noOverlaps : network.overlaps = draft.network.overlaps)
    (bound : draft.network.lines.length ≤ network.lines.length) (headers : List Span)
    (stations : List Origin) :
    ({ draft with network, headers, stations } : Draft K).Sound where
  declared := declared
  no_curves := noCurves.trans sound.no_curves
  no_alignments := noAlignments.trans sound.no_alignments
  no_overlaps := noOverlaps.trans sound.no_overlaps
  curves := sound.curves
  alignments alignment member := (sound.alignments alignment member).mono bound

theorem Sound.declareLine (sound : draft.Sound) {name : Located String} {origin : Origin}
    {line : LineId} {next : Draft K} (nonempty : name.value ≠ "")
    (declared : draft.declareLine name origin = .ok (line, next)) :
    next.Sound ∧ UnderLine next.network (some line) := by
  unfold Draft.declareLine at declared
  split at declared
  · cases declared
  · next missing =>
      simp only [Network.addLine, missing, Except.ok.injEq, Prod.mk.injEq] at declared
      obtain ⟨rfl, rfl⟩ := declared
      have added := sound.declared.addLine missing nonempty
      simp only [Network.addLine, missing] at added
      constructor
      · exact sound.declare added rfl rfl rfl (by simp) _ _
      · intro other same
        obtain rfl := Option.some.inj same
        simp

theorem Sound.declareStation [Scalar K] (sound : draft.Sound) {resolver : Resolver}
    {line : LineId} {kind : StationKind} {name : Located String} {x y : Int} {origin : Origin}
    {next : Draft K} (known : line.index < draft.network.lines.length)
    (declared : draft.declareStation resolver line kind name x y origin = .ok next) :
    next.Sound ∧ next.network.lines.length = draft.network.lines.length := by
  unfold Draft.declareStation at declared
  dsimp only at declared
  split at declared
  · cases declared
  · next missing =>
      simp only [Outcome.bind_eq_ok, Except.ok.injEq] at declared
      obtain ⟨identifier, -, rfl⟩ := declared
      have size : (draft.network.addStation
          ⟨name.value, line, kind, identifier, .ofGrid x y⟩).2.lines.length =
            draft.network.lines.length := List.length_modify ..
      exact ⟨sound.declare (sound.declared.addStation known missing) rfl rfl rfl
        (Nat.le_of_eq size.symm) _ _, size⟩

structure Connected (before after : Network K) : Prop where
  declared : after.Declared
  stations : after.stations = before.stations
  lines : after.lines.length = before.lines.length
  curves : after.curves = before.curves
  alignments : after.alignments = before.alignments
  overlaps : after.overlaps = before.overlaps

theorem connected_connect {network : Network K} (declared : network.Declared) {line : LineId}
    {stations : List StationId} (onLine : ∀ station ∈ stations, network.OnLine line station) :
    Connected network (connect network line stations) := by
  fun_induction connect network line stations with
  | case1 network first second rest ih =>
      have added := declared.addEdge (onLine first (by simp)) (onLine second (by simp))
      have stillOnLine : ∀ station ∈ second :: rest,
          (network.addEdge line first second).2.OnLine line station :=
        fun station member =>
          (onLine station (List.mem_cons_of_mem _ member)).of_stations (by simp)
      obtain ⟨declared, stations, lines, curves, alignments, overlaps⟩ := ih added stillOnLine
      refine ⟨declared, stations.trans (by simp), lines.trans (by simp), curves.trans ?_,
        alignments.trans ?_, overlaps.trans ?_⟩
      all_goals
        rw [Network.addEdge]
        split <;> rfl
  | case2 network stations => exact ⟨declared, rfl, rfl, rfl, rfl, rfl⟩

theorem Sound.declareEdges (sound : draft.Sound) {line : LineId} {names : List (Located String)}
    {origin : Origin} {next : Draft K}
    (declared : draft.declareEdges line names origin = .ok next) :
    next.Sound ∧ next.network.lines.length = draft.network.lines.length := by
  simp only [Draft.declareEdges, Outcome.bind_eq_ok, Except.ok.injEq] at declared
  obtain ⟨stations, found, rfl⟩ := declared
  have onLine : ∀ station ∈ stations, draft.network.OnLine line station := by
    intro station member
    obtain ⟨name, -, stationFound⟩ := Outcome.exists_of_mem_mapM found member
    exact (names_of_stationOn sound.declared stationFound).onLine
  have connected := connected_connect sound.declared onLine
  exact ⟨sound.declare connected.declared connected.curves connected.alignments connected.overlaps
    (Nat.le_of_eq connected.lines.symm) _ _, connected.lines⟩

theorem acceptsHalf_of_endpointKind {kind : Located String} {origin : Origin} {axis : EndpointAxis}
    {half : Option Direction} (read : endpointKind kind origin = .ok (axis, half)) :
    ∀ direction, half = some direction → axis.acceptsHalf direction = true := by
  unfold endpointKind at read
  dsimp only at read
  split at read
  · cases read
  · split at read
    · simp only [Except.ok.injEq, Prod.mk.injEq] at read
      rintro direction isHalf
      cases read.2.trans isHalf
    · split at read
      · next accepted =>
          simp only [Except.ok.injEq, Prod.mk.injEq] at read
          obtain ⟨rfl, rfl⟩ := read
          rintro direction ⟨⟩
          exact (Option.filter_eq_some_iff.mp accepted).2
      · cases read

theorem Sound.declareEndpoint (sound : draft.Sound) {line : LineId}
    {station kind : Located String} {origin : Origin} {next : Draft K}
    (declared : draft.declareEndpoint line station kind origin = .ok next) :
    next.Sound ∧ next.network.lines.length = draft.network.lines.length := by
  simp only [Draft.declareEndpoint, Outcome.bind_eq_ok, Except.ok.injEq] at declared
  obtain ⟨id, found, ⟨axis, half⟩, read, rfl⟩ := declared
  have onLine := (names_of_stationOn sound.declared found).onLine
  have added : (draft.network.addEndpoint line ⟨id, axis, half, origin.line⟩).Declared :=
    sound.declared.addEndpoint onLine (acceptsHalf_of_endpointKind read)
  have size : (draft.network.addEndpoint line ⟨id, axis, half, origin.line⟩).lines.length =
      draft.network.lines.length := List.length_modify ..
  exact ⟨sound.declare added rfl rfl rfl (Nat.le_of_eq size.symm) _ _, size⟩

theorem Sound.addAlignment (sound : draft.Sound) {alignment : AlignmentDraft}
    (known : UnderLine draft.network alignment.line) :
    ({ draft with alignments := draft.alignments ++ [alignment] } : Draft K).Sound := by
  refine ⟨sound.declared, sound.no_curves, sound.no_alignments, sound.no_overlaps, sound.curves, ?_⟩
  intro other member
  rcases List.mem_append.mp member with earlier | new
  · exact sound.alignments other earlier
  · rw [List.mem_singleton.mp new]
    exact known

theorem Sound.addOverlap (sound : draft.Sound) (overlap : OverlapDraft) :
    ({ draft with overlaps := draft.overlaps ++ [overlap] } : Draft K).Sound :=
  ⟨sound.declared, sound.no_curves, sound.no_alignments, sound.no_overlaps, sound.curves,
    sound.alignments⟩

theorem Sound.addCurve (sound : draft.Sound) {curve : CurveDraft}
    (fits : curve.shape.Fits curve.start.value curve.stop.value) :
    ({ draft with curves := draft.curves ++ [curve] } : Draft K).Sound := by
  refine ⟨sound.declared, sound.no_curves, sound.no_alignments, sound.no_overlaps, ?_,
    sound.alignments⟩
  intro other member
  rcases List.mem_append.mp member with earlier | new
  · exact sound.curves other earlier
  · rw [List.mem_singleton.mp new]
    exact fits

theorem Sound.step [Scalar K] (sound : draft.Sound) {resolver : Resolver} {source : List Char}
    {scope nextScope : Option LineId} {statement : Statement} {next : Draft K}
    (known : UnderLine draft.network scope)
    (stepped : draft.step resolver source scope statement = .ok (nextScope, next)) :
    next.Sound ∧ UnderLine next.network nextScope := by
  unfold Draft.step at stepped
  dsimp only at stepped
  rw [Outcome.bind_eq_ok] at stepped
  obtain ⟨command, read, stepped⟩ := stepped
  have fits := Statement.fits_of_command read
  cases command with
  | line name =>
      simp only [Outcome.bind_eq_ok, Except.ok.injEq, Prod.mk.injEq] at stepped
      obtain ⟨⟨line, declared⟩, isDeclared, rfl, rfl⟩ := stepped
      exact sound.declareLine fits isDeclared
  | multiLine =>
      simp only [Except.ok.injEq, Prod.mk.injEq] at stepped
      obtain ⟨rfl, rfl⟩ := stepped
      exact ⟨sound, by rintro line ⟨⟩⟩
  | alignment rule =>
      simp only [Except.ok.injEq, Prod.mk.injEq] at stepped
      obtain ⟨rfl, rfl⟩ := stepped
      exact ⟨sound.addAlignment known, known⟩
  | overlap above below =>
      simp only [Except.ok.injEq, Prod.mk.injEq] at stepped
      obtain ⟨rfl, rfl⟩ := stepped
      exact ⟨sound.addOverlap _, known⟩
  | station kind name x y =>
      cases scope with
      | none =>
          simp only [Except.ok.injEq, Prod.mk.injEq] at stepped
          obtain ⟨rfl, rfl⟩ := stepped
          exact ⟨sound, known⟩
      | some line =>
          simp only [Outcome.bind_eq_ok, Outcome.pure_eq_ok, Prod.mk.injEq] at stepped
          obtain ⟨declared, isDeclared, rfl, rfl⟩ := stepped
          obtain ⟨nextSound, size⟩ := sound.declareStation (known line rfl) isDeclared
          exact ⟨nextSound, known.mono (Nat.le_of_eq size.symm)⟩
  | edges names =>
      cases scope with
      | none =>
          simp only [Except.ok.injEq, Prod.mk.injEq] at stepped
          obtain ⟨rfl, rfl⟩ := stepped
          exact ⟨sound, known⟩
      | some line =>
          simp only [Outcome.bind_eq_ok, Outcome.pure_eq_ok, Prod.mk.injEq] at stepped
          obtain ⟨declared, isDeclared, rfl, rfl⟩ := stepped
          obtain ⟨nextSound, size⟩ := sound.declareEdges isDeclared
          exact ⟨nextSound, known.mono (Nat.le_of_eq size.symm)⟩
  | curve start stop shape =>
      cases scope with
      | none =>
          simp only [Except.ok.injEq, Prod.mk.injEq] at stepped
          obtain ⟨rfl, rfl⟩ := stepped
          exact ⟨sound, known⟩
      | some line =>
          simp only [Except.ok.injEq, Prod.mk.injEq] at stepped
          obtain ⟨rfl, rfl⟩ := stepped
          exact ⟨sound.addCurve fits, known⟩
  | endpoint station kind =>
      cases scope with
      | none =>
          simp only [Except.ok.injEq, Prod.mk.injEq] at stepped
          obtain ⟨rfl, rfl⟩ := stepped
          exact ⟨sound, known⟩
      | some line =>
          simp only [Outcome.bind_eq_ok, Outcome.pure_eq_ok, Prod.mk.injEq] at stepped
          obtain ⟨declared, isDeclared, rfl, rfl⟩ := stepped
          obtain ⟨nextSound, size⟩ := sound.declareEndpoint isDeclared
          exact ⟨nextSound, known.mono (Nat.le_of_eq size.symm)⟩

theorem Sound.ofStatements [Scalar K] (sound : draft.Sound) {resolver : Resolver}
    {source : List Char} {scope : Option LineId} {statements : List Statement} {next : Draft K}
    (known : UnderLine draft.network scope)
    (carriedOut : ofStatements resolver source scope draft statements = .ok next) : next.Sound := by
  induction statements generalizing draft scope with
  | nil =>
      obtain rfl := Except.ok.inj carriedOut
      exact sound
  | cons statement rest ih =>
      simp only [Draft.ofStatements, Outcome.bind_eq_ok] at carriedOut
      obtain ⟨⟨nextScope, middle⟩, stepped, carriedOut⟩ := carriedOut
      obtain ⟨middleSound, middleKnown⟩ := sound.step known stepped
      exact ih middleSound middleKnown carriedOut

end Draft

end TransitMap
