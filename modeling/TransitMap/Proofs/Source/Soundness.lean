import Mathlib
import TransitMap.Proofs.Network.WellFormed
import TransitMap.Proofs.Source.Resolution
import TransitMap.Source.Soundness

namespace TransitMap

namespace Draft

variable {K : Type} {draft : Draft K} {network : Network K} {places : List CurvePlace}

theorem Describes.stations_eq (describes : draft.Describes places network) :
    network.stations = draft.network.stations := by
  have same := congrArg Network.stations describes.bare
  exact same

theorem Describes.length_lines (describes : draft.Describes places network) :
    network.lines.length = draft.network.lines.length := by
  simpa [Network.bare] using congrArg (List.length ∘ Network.lines) describes.bare

theorem Describes.exists_place (describes : draft.Describes places network) {id : CurveId}
    {curve : Curve} (found : network.curve? id = some curve) :
    ∃ written place, written ∈ draft.curves ∧ places[id.index]? = some place ∧
      Placed draft.network written place ∧
      IsCurve draft.network places (written, place) curve := by
  obtain ⟨⟨written, place⟩, atIndex, isCurve⟩ := Outcome.exists_left_of_forall₂ describes.curves found
  obtain ⟨writtenAt, placeAt⟩ := List.getElem?_zip_eq_some.mp atIndex
  obtain ⟨other, otherAt, placed⟩ := Outcome.exists_left_of_forall₂ describes.placed placeAt
  obtain rfl := Option.some.inj (writtenAt.symm.trans otherAt)
  exact ⟨written, place, List.mem_of_getElem? writtenAt, placeAt, placed, isCurve⟩

theorem Describes.exists_curve (describes : draft.Describes places network) {index : Nat}
    {place : CurvePlace} (found : places[index]? = some place) :
    ∃ curve, network.curve? ⟨index⟩ = some curve ∧ curve.line = place.line ∧
      curve.start = place.start ∧ curve.stop = place.stop := by
  have sameLength := describes.placed.length_eq
  have curvesLength := describes.curves.length_eq
  rw [List.length_zip] at curvesLength
  have bound := (List.getElem?_eq_some_iff.mp found).1
  have inCurves : index < network.curves.length := by omega
  have atCurve : network.curve? ⟨index⟩ = some network.curves[index] :=
    List.getElem?_eq_getElem inCurves
  obtain ⟨written, other, -, otherAt, -, shape, -, same⟩ := describes.exists_place atCurve
  obtain rfl := Option.some.inj (otherAt.symm.trans found)
  exact ⟨_, atCurve, by rw [same], by rw [same], by rw [same]⟩

theorem Describes.curve_of_find? (describes : draft.Describes places network) {line : LineId}
    {start stop : StationId} {id : CurveId}
    (found : CurvePlace.find? places line start stop = some id) :
    ∃ curve, network.curve? id = some curve := by
  simp only [CurvePlace.find?, Option.map_eq_some_iff] at found
  obtain ⟨index, found, rfl⟩ := found
  have bound := (List.findIdx?_eq_some_iff_getElem.mp found).1
  obtain ⟨curve, atCurve, -⟩ := describes.exists_curve (List.getElem?_eq_getElem bound)
  exact ⟨curve, atCurve⟩

theorem Describes.curve_of_resolveCurve (describes : draft.Describes places network)
    {ownLine : LineId} {reference : CurveRef} {origin : Origin} {id : CurveId}
    (resolved : resolveCurve draft.network places ownLine reference origin = .ok id) :
    ∃ curve, network.curve? id = some curve := by
  simp only [resolveCurve, Outcome.bind_eq_ok] at resolved
  obtain ⟨line, -, start, -, stop, -, resolved⟩ := resolved
  split at resolved
  · next found =>
      obtain rfl := Except.ok.inj resolved
      exact describes.curve_of_find? found
  · cases resolved

theorem legsRun_legs {stations : List StationId} {bends : List Bend} {start stop : StationId}
    (sameLength : stations.length = bends.length + 1) (atStart : stations.head? = some start)
    (atStop : stations.getLast? = some stop) : LegsRun start stop (legs stations bends) := by
  fun_induction legs stations bends generalizing start with
  | case1 first second rest bend bends ih =>
      obtain rfl := Option.some.inj atStart
      refine ⟨rfl, ih (by simpa using sameLength) rfl ?_⟩
      rwa [List.getLast?_cons_cons] at atStop
  | case2 stations bends short =>
      cases stations with
      | nil => cases atStart
      | cons first rest =>
          cases rest with
          | nil => exact (Option.some.inj atStart).symm.trans (Option.some.inj atStop)
          | cons second rest =>
              cases bends with
              | nil => simp at sameLength
              | cons bend bends => exact (short first second rest bend bends rfl rfl).elim

theorem mem_of_mem_legs {stations : List StationId} {bends : List Bend} {leg : Leg}
    (member : leg ∈ legs stations bends) :
    leg.start ∈ stations ∧ leg.stop ∈ stations ∧ leg.bend ∈ bends := by
  fun_induction legs stations bends with
  | case1 first second rest bend bends ih =>
      rcases List.mem_cons.mp member with rfl | later
      · simp
      · obtain ⟨start, stop, turn⟩ := ih later
        exact ⟨List.mem_cons_of_mem _ start, List.mem_cons_of_mem _ stop,
          List.mem_cons_of_mem _ turn⟩
  | case2 => cases member

theorem legs_ne_nil {stations : List StationId} {bends : List Bend}
    (sameLength : stations.length = bends.length + 1) (nonempty : bends ≠ []) :
    legs stations bends ≠ [] := by
  obtain ⟨bend, others, rfl⟩ := List.exists_cons_of_ne_nil nonempty
  obtain _ | ⟨first, _ | ⟨second, rest⟩⟩ := stations
  · simp at sameLength
  · simp at sameLength
  · simp [legs]

end Draft

namespace Network

variable {K : Type} {network : Network K} {origins : SourceMap}

theorem misfit?_eq_none (sound : network.findings origins = []) {id : CurveId} {curve : Curve}
    (found : network.curve? id = some curve) : network.misfit? origins id = none := by
  have none := (List.append_eq_nil_iff.mp sound).2
  rw [List.filterMap_eq_nil_iff] at none
  exact none id (mem_curveIds.mpr (List.getElem?_eq_some_iff.mp found).1)

/-- Parts that are there and that no complaint is about follow one another. -/
theorem partsRun_of_brokenJoin?_eq_none {origin : Origin} {reached stop : StationId}
    {parts : List CurveId} (known : ∀ part ∈ parts, ∃ curve, network.curve? part = some curve)
    (sound : network.brokenJoin? origins origin stop reached parts = none) :
    network.PartsRun reached stop parts := by
  induction parts generalizing reached with
  | nil =>
      unfold brokenJoin? at sound
      split at sound
      · assumption
      · cases sound
  | cons part rest ih =>
      obtain ⟨curve, found⟩ := known part List.mem_cons_self
      simp only [brokenJoin?, found, Option.bind_eq_bind, Option.bind_some] at sound
      split at sound
      · next starts =>
          exact ⟨curve, found, starts,
            ih (fun other member => known other (List.mem_cons_of_mem _ member)) sound⟩
      · cases sound

end Network

namespace Draft

variable {K : Type} {draft : Draft K} {network : Network K} {places : List CurvePlace}
  {origins : SourceMap}

theorem Describes.sequence_fits (describes : draft.Describes places network)
    (declared : draft.network.Declared) {written : CurveDraft} {place : CurvePlace}
    (placed : Placed draft.network written place) {names : List (Located String)}
    {bends : List Bend} {stations : List StationId}
    (fits : (ShapeRef.sequence names bends).Fits written.start.value written.stop.value)
    (resolved : names.mapM (fun name => stationOn draft.network written.line name written.origin) =
      .ok stations) :
    legs stations bends ≠ [] ∧ LegsRun place.start place.stop (legs stations bends) ∧
      ∀ leg ∈ legs stations bends, leg.bend.kind?.isSome = true ∧
        network.OnLine place.line leg.start ∧ network.OnLine place.line leg.stop := by
  obtain ⟨nonempty, sameLength, startName, stopName, drawable⟩ := fits
  have related := Outcome.mapM_eq_ok.mp resolved
  rw [related.length_eq] at sameLength
  have onLine : ∀ station ∈ stations, network.OnLine place.line station := by
    intro station member
    obtain ⟨name, -, found⟩ := Outcome.exists_of_mem_mapM resolved member
    have names := names_of_stationOn declared found
    rw [placed.line]
    exact names.onLine.of_stations describes.stations_eq
  -- The first and the last name are those of the curve, so they stand for its stations.
  have atIndex : ∀ {index : Nat} {value : String} {station : StationId},
      names[index]?.map Located.value = some value →
      draft.network.stationNamed? written.line value = some station →
      index < stations.length → stations[index]? = some station := by
    intro index value station isName found bound
    obtain ⟨name, atName, stationFound⟩ :=
      Outcome.exists_left_of_forall₂ related (List.getElem?_eq_getElem bound)
    rw [atName, Option.map_some, Option.some.injEq] at isName
    have same := stationNamed?_of_stationOn stationFound
    rw [isName, found] at same
    rw [List.getElem?_eq_getElem bound, same]
  have atStart : stations.head? = some place.start := by
    rw [List.head?_eq_getElem?] at startName ⊢
    exact atIndex startName placed.start (by omega)
  have atStop : stations.getLast? = some place.stop := by
    rw [List.getLast?_eq_getElem?, related.length_eq] at stopName
    rw [List.getLast?_eq_getElem?]
    exact atIndex stopName placed.stop (by omega)
  refine ⟨legs_ne_nil sameLength nonempty, legsRun_legs sameLength atStart atStop, ?_⟩
  intro leg member
  obtain ⟨start, stop, turn⟩ := mem_of_mem_legs member
  exact ⟨drawable _ turn, onLine _ start, onLine _ stop⟩

theorem shapeFits_of_ofBend? {curve : Curve} {turn : Bend} {id : CurveId}
    (isShape : Shape.ofBend? turn = some curve.shape) : network.ShapeFits id curve := by
  obtain ⟨line, start, stop, shape, sourceLine⟩ := curve
  dsimp only at isShape
  unfold Shape.ofBend? at isShape
  split at isShape
  · next kind =>
      obtain rfl := Option.some.inj isShape
      exact kind
  · next kind =>
      obtain rfl := Option.some.inj isShape
      exact .inl kind
  · next kind =>
      obtain rfl := Option.some.inj isShape
      exact .inr kind
  · cases isShape

theorem Describes.shapeFits (describes : draft.Describes places network) (sound : draft.Sound)
    (noFindings : network.findings origins = []) {id : CurveId} {curve : Curve}
    (found : network.curve? id = some curve) : network.ShapeFits id curve := by
  have fitting := Network.misfit?_eq_none noFindings found
  obtain ⟨written, place, member, -, placed, shape, resolved, rfl⟩ :=
    describes.exists_place found
  have fits := sound.curves written member
  cases shapeRef : written.shape with
  | bend turn =>
      simp only [resolveShape, shapeRef] at resolved
      split at resolved
      · next shape isShape =>
          obtain rfl := Except.ok.inj resolved
          exact shapeFits_of_ofBend? isShape
      · cases resolved
  | parallel turn reference =>
      simp only [resolveShape, shapeRef, Outcome.bind_eq_ok, Except.ok.injEq] at resolved
      obtain ⟨target, targetFound, rfl⟩ := resolved
      obtain ⟨followed, atTarget⟩ := describes.curve_of_resolveCurve targetFound
      simp only [Network.misfit?, found, Option.bind_eq_bind, Option.bind_some] at fitting
      split at fitting
      · cases fitting
      · next apart =>
          refine ⟨apart, followed, atTarget, fun targetBend isBend => ?_⟩
          simp only [atTarget, Option.bind_some, isBend] at fitting
          split at fitting
          · assumption
          · cases fitting
  | sequence names bends =>
      simp only [resolveShape, shapeRef, Outcome.bind_eq_ok, Except.ok.injEq] at resolved
      obtain ⟨stations, stationsFound, rfl⟩ := resolved
      rw [shapeRef] at fits
      exact describes.sequence_fits sound.declared placed fits stationsFound
  | join references =>
      simp only [resolveShape, shapeRef, Outcome.bind_eq_ok, Except.ok.injEq] at resolved
      obtain ⟨parts, partsFound, rfl⟩ := resolved
      rw [shapeRef] at fits
      have known : ∀ part ∈ parts, ∃ curve, network.curve? part = some curve := by
        intro part member
        obtain ⟨reference, -, partFound⟩ := Outcome.exists_of_mem_mapM partsFound member
        exact describes.curve_of_resolveCurve partFound
      simp only [Network.misfit?, found, Option.bind_eq_bind, Option.bind_some] at fitting
      split at fitting
      · cases fitting
      · next others =>
          refine ⟨?_, by simpa using others, Network.partsRun_of_brokenJoin?_eq_none known fitting⟩
          rintro rfl
          exact fits (List.length_eq_zero_iff.mp (Outcome.length_eq_of_mapM partsFound))

theorem known_of_resolveStation (declared : draft.network.Declared) {alignment : AlignmentDraft}
    {reference : StationRef} {station : StationId}
    (resolved : resolveStation draft.network alignment reference = .ok station) :
    station.index < draft.network.stations.length := by
  simp only [resolveStation, Outcome.bind_eq_ok] at resolved
  obtain ⟨line, -, found⟩ := resolved
  exact (names_of_stationOn declared found).onLine.lt_length

theorem known_of_resolveStations (declared : draft.network.Declared) {alignment : AlignmentDraft}
    {references : List StationRef} {stations : List StationId}
    (resolved : references.mapM (resolveStation draft.network alignment) = .ok stations) :
    ∀ station ∈ stations, station.index < draft.network.stations.length := by
  intro station member
  obtain ⟨reference, -, found⟩ := Outcome.exists_of_mem_mapM resolved member
  exact known_of_resolveStation declared found

theorem known_of_resolveTerms (declared : draft.network.Declared) {alignment : AlignmentDraft}
    {references : List TermRef} {terms : List Term}
    (resolved : references.mapM (resolveTerm draft.network alignment) = .ok terms) :
    ∀ term ∈ terms, term.station.index < draft.network.stations.length := by
  intro term member
  obtain ⟨reference, -, found⟩ := Outcome.exists_of_mem_mapM resolved member
  simp only [resolveTerm, Outcome.bind_eq_ok, Except.ok.injEq] at found
  obtain ⟨station, found, rfl⟩ := found
  exact known_of_resolveStation declared found

theorem known_of_resolvePair (declared : draft.network.Declared) {alignment : AlignmentDraft}
    {references : StationRef × StationRef} {pair : StationId × StationId}
    (resolved : resolvePair draft.network alignment references = .ok pair) :
    ∀ station ∈ [pair.1, pair.2], station.index < draft.network.stations.length := by
  simp only [resolvePair, Outcome.bind_eq_ok, Except.ok.injEq] at resolved
  obtain ⟨first, firstFound, second, secondFound, rfl⟩ := resolved
  intro station member
  simp only [List.mem_cons, List.not_mem_nil, or_false] at member
  rcases member with rfl | rfl
  · exact known_of_resolveStation declared firstFound
  · exact known_of_resolveStation declared secondFound

theorem known_of_resolveRule (declared : draft.network.Declared) {alignment : AlignmentDraft}
    {rule : AlignmentRule} (resolved : resolveRule draft.network alignment = .ok rule) :
    ∀ station ∈ rule.stations, station.index < draft.network.stations.length := by
  unfold resolveRule at resolved
  split at resolved
  · simp only [Outcome.bind_eq_ok, Except.ok.injEq] at resolved
    obtain ⟨stations, found, rfl⟩ := resolved
    exact known_of_resolveStations declared found
  · simp only [Outcome.bind_eq_ok, Except.ok.injEq] at resolved
    obtain ⟨stations, found, rfl⟩ := resolved
    exact known_of_resolveStations declared found
  · simp only [Outcome.bind_eq_ok, Except.ok.injEq] at resolved
    obtain ⟨pairs, found, rfl⟩ := resolved
    intro station member
    obtain ⟨pair, isPair, member⟩ := List.mem_flatMap.mp member
    obtain ⟨references, -, pairFound⟩ := Outcome.exists_of_mem_mapM found isPair
    exact known_of_resolvePair declared pairFound station member
  · simp only [Outcome.bind_eq_ok, Except.ok.injEq] at resolved
    obtain ⟨left, leftFound, right, rightFound, rfl⟩ := resolved
    intro station member
    obtain ⟨term, isTerm, rfl⟩ := List.mem_map.mp member
    rcases List.mem_append.mp isTerm with isLeft | isRight
    · exact known_of_resolveTerms declared leftFound term isLeft
    · exact known_of_resolveTerms declared rightFound term isRight

theorem Describes.alignment_known (describes : draft.Describes places network)
    (sound : draft.Sound) {alignment : Alignment} (member : alignment ∈ network.alignments) :
    (∀ station ∈ alignment.rule.stations, station.index < network.stations.length) ∧
      ∀ line, alignment.line = some line → line.index < network.lines.length := by
  obtain ⟨index, bound, rfl⟩ := List.mem_iff_getElem.mp member
  obtain ⟨written, atWritten, rule, resolved, same⟩ :=
    Outcome.exists_left_of_forall₂ describes.alignments (List.getElem?_eq_getElem bound)
  rw [describes.stations_eq, describes.length_lines, same]
  exact ⟨known_of_resolveRule sound.declared resolved,
    sound.alignments written (List.mem_of_getElem? atWritten)⟩

theorem lt_length_of_lineNamed? (indexed : network.Indexed) {name : String} {line : LineId}
    (found : network.lineNamed? name = some line) : line.index < network.lines.length := by
  obtain ⟨atLine, isLine, -⟩ := (indexed name line).mp found
  exact (List.getElem?_eq_some_iff.mp isLine).1

theorem Describes.overlap_known (describes : draft.Describes places network) {overlap : Overlap}
    (sound : draft.Sound) (member : overlap ∈ network.overlaps) :
    overlap.above.index < network.lines.length ∧ overlap.below.index < network.lines.length := by
  obtain ⟨index, bound, rfl⟩ := List.mem_iff_getElem.mp member
  obtain ⟨written, -, above, below, -⟩ :=
    Outcome.exists_left_of_forall₂ describes.overlaps (List.getElem?_eq_getElem bound)
  rw [describes.length_lines]
  have indexed := sound.declared.indexed
  exact ⟨lt_length_of_lineNamed? indexed above, lt_length_of_lineNamed? indexed below⟩

theorem Describes.curve_apart (describes : draft.Describes places network) {id other : CurveId}
    {curve otherCurve : Curve} (found : network.curve? id = some curve)
    (otherFound : network.curve? other = some otherCurve) (sameLine : curve.line = otherCurve.line)
    (joins : curve.joins otherCurve.start otherCurve.stop = true) : id = other := by
  obtain ⟨_, place, -, placeAt, -, shape, -, rfl⟩ := describes.exists_place found
  obtain ⟨_, otherPlace, -, otherAt, -, otherShape, -, rfl⟩ := describes.exists_place otherFound
  obtain ⟨bound, rfl⟩ := List.getElem?_eq_some_iff.mp placeAt
  obtain ⟨otherBound, rfl⟩ := List.getElem?_eq_some_iff.mp otherAt
  have apart := List.pairwise_iff_getElem.mp describes.apart
  obtain ⟨index⟩ := id
  obtain ⟨otherIndex⟩ := other
  simp only [Curve.joins, Bool.or_eq_true, Bool.and_eq_true, beq_iff_eq] at joins sameLine
  rcases Nat.lt_trichotomy index otherIndex with before | rfl | behind
  · have contrary := apart index otherIndex bound otherBound before
    simp only [Apart, CurvePlace.joins] at contrary
    grind
  · rfl
  · have contrary := apart otherIndex index otherBound bound behind
    simp only [Apart, CurvePlace.joins] at contrary
    grind

theorem Describes.wellFormed (describes : draft.Describes places network) (sound : draft.Sound)
    (noFindings : network.findings origins = []) : network.WellFormed := by
  have declared := sound.declared.of_bare_eq describes.bare
  refine {
    lineNames_nodup := declared.names_nodup
    lineNames_nonempty := declared.names_nonempty
    lineNamed?_eq_some_iff := declared.indexed
    stationNames_distinct := ?_
    station_listed := fun id station found => ⟨declared.line_of_station found,
      fun lineId line atLine => declared.count_listed found atLine⟩
    edges := fun id line found => (declared.line id line found).edges
    endpoints := fun id line found => (declared.line id line found).endpoints
    curve_ends := ?_
    curve_apart := fun id other curve otherCurve => describes.curve_apart
    curve_edge := ?_
    curve_shape := fun id curve => describes.shapeFits sound noFindings
    alignment_known := fun alignment => describes.alignment_known sound
    overlap_known := fun overlap => describes.overlap_known sound }
  · intro id other station otherStation found otherFound sameLine sameName
    exact declared.names_unique ⟨station, found, rfl, rfl⟩
      ⟨otherStation, otherFound, sameLine.symm, sameName.symm⟩
  · intro id curve found
    obtain ⟨written, place, -, -, placed, shape, -, rfl⟩ := describes.exists_place found
    have onLine : ∀ {name : String} {station : StationId},
        draft.network.stationNamed? written.line name = some station →
        network.OnLine place.line station := by
      intro name station named
      rw [placed.line]
      exact (sound.declared.names_of_stationNamed? named).onLine.of_stations describes.stations_eq
    exact ⟨onLine placed.start, onLine placed.stop⟩
  · intro id curve found
    obtain ⟨written, place, -, -, placed, shape, -, rfl⟩ := describes.exists_place found
    have edge := placed.edge
    simp only [← Network.hasEdge_bare draft.network, ← Network.isAlignmentPoint_bare draft.network,
      ← describes.bare] at edge
    simpa using edge

end Draft

namespace Network

variable {K : Type} [Scalar K] {network : Network K} {resolver : Resolver} {source : List Char}

theorem describes_of_ofSource (read : ofSource resolver source = .ok network) :
    ∃ (draft : Draft K) (places : List CurvePlace) (origins : SourceMap),
      draft.Sound ∧ draft.Describes places network ∧ network.findings origins = [] := by
  simp only [ofSource, alone, Outcome.bind_eq_ok, Outcome.mapError_eq_ok] at read
  obtain ⟨tokens, -, draft, drafted, ⟨resolved, origins⟩, isResolved, read⟩ := read
  dsimp only at read
  split at read
  · next noFindings =>
      obtain rfl := Except.ok.inj read
      have sound : draft.Sound :=
        Draft.sound_empty.ofStatements (fun _ isScope => by cases isScope) drafted
      obtain ⟨⟨places, describes⟩, -⟩ := Draft.describes_of_resolve sound isResolved
      exact ⟨draft, places, origins, sound, describes, noFindings⟩
  · cases read

/-- What is read from a source is well formed. -/
theorem wellFormed_of_ofSource (read : ofSource resolver source = .ok network) :
    network.WellFormed := by
  obtain ⟨draft, places, origins, sound, describes, noFindings⟩ := describes_of_ofSource read
  exact describes.wellFormed sound noFindings

def cornerSource : List Char :=
  ("line red:\nstation \"A\" 0 0\nstation \"B\" 9 9\nedges \"A, B\"\n" ++
    "curve \"A, B\" right,down\nendpoint \"A\" vertical:up\nvertical \"A, B\"\n").toList

def corner : Network Rat where
  lines := [⟨"red", [("A", ⟨0⟩), ("B", ⟨1⟩)], [⟨⟨0⟩, ⟨1⟩⟩], [⟨0⟩],
    [⟨⟨0⟩, .vertical, some .up, 6⟩]⟩]
  lineNames := [("red", ⟨0⟩)]
  stations := [⟨"A", ⟨0⟩, .station, "A", ⟨0, 0⟩⟩, ⟨"B", ⟨0⟩, .station, "B", ⟨9, 9⟩⟩]
  curves := [⟨⟨0⟩, ⟨0⟩, ⟨1⟩, .sharp ⟨.right, .down⟩, 5⟩]
  alignments := [⟨.axis .vertical [⟨0⟩, ⟨1⟩], some ⟨0⟩, 7, "vertical \"A, B\""⟩]
  overlaps := []

theorem ofSource_corner : ofSource (fun _ name => some name) cornerSource = .ok corner := by
  cbv

theorem wellFormed_of_ofSource_corner : corner.WellFormed :=
  wellFormed_of_ofSource ofSource_corner

end Network

end TransitMap
