import TransitMap.Proofs.Source.Draft
import TransitMap.Source.Resolution

namespace TransitMap

namespace Draft

variable {K : Type} {draft : Draft K} {network : Network K}

@[simp] theorem stationOn_bare (network : Network K) (line : LineId) (name : Located String)
    (origin : Origin) : stationOn network.bare line name origin = stationOn network line name origin := by
  simp [stationOn]

@[simp] theorem lineCalled_bare (network : Network K) (name : Located String) (origin : Origin) :
    lineCalled network.bare name origin = lineCalled network name origin := by
  simp [lineCalled]

@[simp] theorem resolveCurve_bare (network : Network K) (places : List CurvePlace)
    (ownLine : LineId) (reference : CurveRef) (origin : Origin) :
    resolveCurve network.bare places ownLine reference origin =
      resolveCurve network places ownLine reference origin := by
  simp [resolveCurve, curveLine]

@[simp] theorem resolveShape_bare (network : Network K) (places : List CurvePlace)
    (curve : CurveDraft) :
    resolveShape network.bare places curve = resolveShape network places curve := by
  simp [resolveShape]

@[simp] theorem resolveStation_bare (network : Network K) (alignment : AlignmentDraft)
    (reference : StationRef) :
    resolveStation network.bare alignment reference = resolveStation network alignment reference := by
  simp [resolveStation, stationLine]

@[simp] theorem resolveRule_bare (network : Network K) (alignment : AlignmentDraft) :
    resolveRule network.bare alignment = resolveRule network alignment := by
  have terms : resolveTerm network.bare alignment = resolveTerm network alignment := by
    funext reference
    simp [resolveTerm]
  have pairs : resolvePair network.bare alignment = resolvePair network alignment := by
    funext pair
    simp [resolvePair]
  have stations : resolveStation network.bare alignment = resolveStation network alignment := by
    funext reference
    simp
  simp only [resolveRule, terms, pairs, stations]

theorem stationNamed?_of_stationOn {line : LineId} {name : Located String} {origin : Origin}
    {station : StationId} (found : stationOn network line name origin = .ok station) :
    network.stationNamed? line name.value = some station := by
  unfold stationOn at found
  split at found
  · next named => rw [named, Except.ok.inj found]
  · cases found

theorem lineNamed?_of_lineCalled {name : Located String} {origin : Origin} {line : LineId}
    (found : lineCalled network name origin = .ok line) :
    network.lineNamed? name.value = some line := by
  unfold lineCalled at found
  split at found
  · next named => rw [named, Except.ok.inj found]
  · cases found

structure Placed (network : Network K) (curve : CurveDraft) (place : CurvePlace) : Prop where
  line : place.line = curve.line
  start : network.stationNamed? curve.line curve.start.value = some place.start
  stop : network.stationNamed? curve.line curve.stop.value = some place.stop
  edge : network.hasEdge place.line place.start place.stop = true ∨
    network.isAlignmentPoint place.start = true ∨ network.isAlignmentPoint place.stop = true

/-- The later curve does not join the stations of the earlier one. -/
def Apart (earlier later : CurvePlace) : Prop :=
  earlier.joins later.line later.start later.stop = false

theorem placed_of_placeCurve {places : List CurvePlace} {curve : CurveDraft} {place : CurvePlace}
    (isPlaced : draft.placeCurve places curve = .ok place) :
    Placed draft.network curve place ∧ ∀ earlier ∈ places, Apart earlier place := by
  unfold placeCurve at isPlaced
  simp only [Outcome.bind_eq_ok] at isPlaced
  obtain ⟨start, startFound, stop, stopFound, isPlaced⟩ := isPlaced
  split at isPlaced
  · cases isPlaced
  · next allowed =>
      split at isPlaced
      · cases isPlaced
      · next missing =>
          obtain rfl := Except.ok.inj isPlaced
          constructor
          · refine ⟨rfl, stationNamed?_of_stationOn startFound,
              stationNamed?_of_stationOn stopFound, ?_⟩
            simp only [Bool.and_eq_true, Bool.not_eq_true', Bool.or_eq_false_iff] at allowed
            grind
          · simp only [CurvePlace.find?, Option.map_eq_none_iff,
              List.findIdx?_eq_none_iff] at missing
            exact missing

theorem placed_of_placeCurves {curves : List CurveDraft} {places all : List CurvePlace}
    (arePlaced : draft.placeCurves places curves = .ok all) :
    ∃ added, all = places ++ added ∧ List.Forall₂ (Placed draft.network) curves added ∧
      (places.Pairwise Apart → all.Pairwise Apart) := by
  induction curves generalizing places with
  | nil =>
      obtain rfl := Except.ok.inj arePlaced
      exact ⟨[], by simp, .nil, id⟩
  | cons curve rest ih =>
      simp only [placeCurves, Outcome.bind_eq_ok] at arePlaced
      obtain ⟨place, isPlaced, arePlaced⟩ := arePlaced
      obtain ⟨placed, apart⟩ := placed_of_placeCurve isPlaced
      obtain ⟨added, rfl, restPlaced, pairwise⟩ := ih arePlaced
      refine ⟨place :: added, by simp, .cons placed restPlaced, fun before => pairwise ?_⟩
      refine List.pairwise_append.mpr ⟨before, List.pairwise_singleton _ _, ?_⟩
      intro earlier member later isNew
      rw [List.mem_singleton.mp isNew]
      exact apart earlier member

def IsCurve (network : Network K) (places : List CurvePlace) (placed : CurveDraft × CurvePlace)
    (curve : Curve) : Prop :=
  ∃ shape, resolveShape network places placed.1 = .ok shape ∧
    curve = ⟨placed.2.line, placed.2.start, placed.2.stop, shape, placed.1.origin.line⟩

def IsAlignment (network : Network K) (written : AlignmentDraft) (alignment : Alignment) : Prop :=
  ∃ rule, resolveRule network written = .ok rule ∧
    alignment = ⟨rule, written.line, written.origin.line, written.text⟩

def IsOverlap (network : Network K) (written : OverlapDraft) (overlap : Overlap) : Prop :=
  network.lineNamed? written.above.value = some overlap.above ∧
    network.lineNamed? written.below.value = some overlap.below ∧
    overlap.sourceLine = written.origin.line

theorem isCurve_congr {other : Network K} (same : other.bare = network.bare) :
    IsCurve other = IsCurve network := by
  funext places placed curve
  simp only [IsCurve]
  rw [← resolveShape_bare other, ← resolveShape_bare network, same]

theorem isAlignment_congr {other : Network K} (same : other.bare = network.bare) :
    IsAlignment other = IsAlignment network := by
  funext written alignment
  simp only [IsAlignment]
  rw [← resolveRule_bare other, ← resolveRule_bare network, same]

theorem isOverlap_congr {other : Network K} (same : other.bare = network.bare) :
    IsOverlap other = IsOverlap network := by
  funext written overlap
  simp only [IsOverlap]
  rw [← Network.lineNamed?_bare other, ← Network.lineNamed?_bare other, same,
    Network.lineNamed?_bare, Network.lineNamed?_bare]

theorem of_resolveCurves {places : List CurvePlace} {curves : List (CurveDraft × CurvePlace)}
    {result : Network K} (resolved : resolveCurves places network curves = .ok result) :
    result.bare = network.bare ∧ result.alignments = network.alignments ∧
      result.overlaps = network.overlaps ∧
      ∃ added, result.curves = network.curves ++ added ∧
        List.Forall₂ (IsCurve network places) curves added := by
  induction curves generalizing network with
  | nil =>
      obtain rfl := Except.ok.inj resolved
      exact ⟨rfl, rfl, rfl, [], by simp, .nil⟩
  | cons placed rest ih =>
      obtain ⟨curve, place⟩ := placed
      simp only [resolveCurves, Outcome.bind_eq_ok] at resolved
      obtain ⟨shape, shapeResolved, resolved⟩ := resolved
      obtain ⟨bare, alignments, overlaps, added, curves, all⟩ := ih resolved
      rw [Network.bare_addCurve] at bare
      refine ⟨bare, alignments, overlaps,
        ⟨place.line, place.start, place.stop, shape, curve.origin.line⟩ :: added, ?_, ?_⟩
      · rw [curves]
        simp [Network.addCurve]
      · rw [isCurve_congr (Network.bare_addCurve ..)] at all
        exact .cons ⟨shape, shapeResolved, rfl⟩ all

theorem of_resolveAlignments {written : List AlignmentDraft} {result : Network K}
    (resolved : resolveAlignments network written = .ok result) :
    result.bare = network.bare ∧ result.curves = network.curves ∧
      result.overlaps = network.overlaps ∧
      ∃ added, result.alignments = network.alignments ++ added ∧
        List.Forall₂ (IsAlignment network) written added := by
  induction written generalizing network with
  | nil =>
      obtain rfl := Except.ok.inj resolved
      exact ⟨rfl, rfl, rfl, [], by simp, .nil⟩
  | cons alignment rest ih =>
      simp only [resolveAlignments, Outcome.bind_eq_ok] at resolved
      obtain ⟨rule, ruleResolved, resolved⟩ := resolved
      obtain ⟨bare, curves, overlaps, added, alignments, all⟩ := ih resolved
      refine ⟨bare, curves, overlaps,
        ⟨rule, alignment.line, alignment.origin.line, alignment.text⟩ :: added, ?_, ?_⟩
      · rw [alignments]
        simp [Network.addAlignment]
      · rw [isAlignment_congr (Network.bare_addAlignment ..)] at all
        exact .cons ⟨rule, ruleResolved, rfl⟩ all

theorem of_resolveOverlaps {written : List OverlapDraft} {result : Network K}
    (resolved : resolveOverlaps network written = .ok result) :
    result.bare = network.bare ∧ result.curves = network.curves ∧
      result.alignments = network.alignments ∧
      ∃ added, result.overlaps = network.overlaps ++ added ∧
        List.Forall₂ (IsOverlap network) written added := by
  induction written generalizing network with
  | nil =>
      obtain rfl := Except.ok.inj resolved
      exact ⟨rfl, rfl, rfl, [], by simp, .nil⟩
  | cons overlap rest ih =>
      simp only [resolveOverlaps, Outcome.bind_eq_ok] at resolved
      obtain ⟨above, aboveFound, below, belowFound, resolved⟩ := resolved
      obtain ⟨bare, curves, alignments, added, overlaps, all⟩ := ih resolved
      refine ⟨bare, curves, alignments, ⟨above, below, overlap.origin.line⟩ :: added, ?_, ?_⟩
      · rw [overlaps]
        simp [Network.addOverlap]
      · exact .cons ⟨lineNamed?_of_lineCalled aboveFound, lineNamed?_of_lineCalled belowFound, rfl⟩
          all

/-- A network is what a draft describes, with curves between the given places. -/
structure Describes (draft : Draft K) (places : List CurvePlace) (network : Network K) : Prop where
  bare : network.bare = draft.network.bare
  placed : List.Forall₂ (Placed draft.network) draft.curves places
  apart : places.Pairwise Apart
  curves : List.Forall₂ (IsCurve draft.network places) (draft.curves.zip places) network.curves
  alignments : List.Forall₂ (IsAlignment draft.network) draft.alignments network.alignments
  overlaps : List.Forall₂ (IsOverlap draft.network) draft.overlaps network.overlaps

theorem describes_of_resolve (sound : draft.Sound) {origins : SourceMap}
    (resolved : draft.resolve = .ok (network, origins)) :
    (∃ places, draft.Describes places network) ∧
      origins = ⟨draft.stations, draft.curves.map CurveDraft.origin⟩ := by
  simp only [resolve, Outcome.bind_eq_ok, Except.ok.injEq, Prod.mk.injEq] at resolved
  obtain ⟨places, arePlaced, first, curvesResolved, second, alignmentsResolved, third,
    overlapsResolved, rfl, rfl⟩ := resolved
  refine ⟨⟨places, ?_⟩, rfl⟩
  obtain ⟨added, rfl, placed, apart⟩ := placed_of_placeCurves arePlaced
  obtain ⟨firstBare, firstAlignments, firstOverlaps, curves, hasCurves, areCurves⟩ :=
    of_resolveCurves curvesResolved
  obtain ⟨secondBare, secondCurves, secondOverlaps, alignments, hasAlignments, areAlignments⟩ :=
    of_resolveAlignments alignmentsResolved
  obtain ⟨thirdBare, thirdCurves, thirdAlignments, overlaps, hasOverlaps, areOverlaps⟩ :=
    of_resolveOverlaps overlapsResolved
  have secondBare := secondBare.trans firstBare
  rw [isAlignment_congr firstBare] at areAlignments
  rw [isOverlap_congr secondBare] at areOverlaps
  refine ⟨thirdBare.trans secondBare, placed, apart .nil, ?_, ?_, ?_⟩
  · rw [thirdCurves, secondCurves, hasCurves, sound.no_curves, List.nil_append]
    exact areCurves
  · rw [thirdAlignments, hasAlignments, firstAlignments, sound.no_alignments, List.nil_append]
    exact areAlignments
  · rw [hasOverlaps, secondOverlaps, firstOverlaps, sound.no_overlaps, List.nil_append]
    exact areOverlaps

end Draft

end TransitMap
