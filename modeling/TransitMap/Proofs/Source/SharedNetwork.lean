import TransitMap.Proofs.Source.SharedDraft
import TransitMap.Proofs.Source.Soundness

namespace TransitMap

variable {K : Type} {source other : List Char} {shared : SharedLine source other}

namespace Draft

variable {network : Network K} {here there : Draft K} {origin otherOrigin : Origin}
  {name otherName : Located String} {places : List CurvePlace}

theorem lineCalled_alike (isOrigin : shared.IsOrigin origin otherOrigin)
    (isName : shared.IsValue name otherName) (network : Network K) :
    ReadAlike source other Eq (lineCalled network name origin)
      (lineCalled network otherName otherOrigin) := by
  rw [lineCalled, lineCalled, ← isName.value]
  split
  · exact .ok rfl
  · exact .error (isOrigin.alike (by trivial) isName.marks)

theorem Alike.placeCurve (alike : Alike source other here there) {curve otherCurve : CurveDraft}
    (isCurve : shared.IsCurveDraft curve otherCurve) (places : List CurvePlace) :
    ReadAlike source other Eq (here.placeCurve places curve) (there.placeCurve places otherCurve) := by
  rw [Draft.placeCurve, Draft.placeCurve, ← alike.network, ← isCurve.line]
  dsimp only
  apply (stationOn_alike isCurve.origin isCurve.start here.network curve.line).bind
  rintro start _ rfl
  apply (stationOn_alike isCurve.origin isCurve.stop here.network curve.line).bind
  rintro stop _ rfl
  rw [← isCurve.start.value, ← isCurve.stop.value]
  split
  · exact .error (isCurve.origin.alike (by trivial) isCurve.origin.marks)
  · split
    · apply Outcome.Agree.error
      apply Diagnostic.Alike.related _
        (isCurve.origin.alike (by trivial) isCurve.origin.marks)
      apply agree_span_of_forall₂ alike.curves
      rintro earlier otherEarlier ⟨shared, isEarlier⟩
      exact ⟨shared, isEarlier.origin⟩
    · exact .ok rfl

theorem Alike.placeCurves (alike : Alike source other here there)
    {curves otherCurves : List CurveDraft}
    (areCurves : List.Forall₂ (CurveDraft.Alike source other) curves otherCurves)
    (places : List CurvePlace) :
    ReadAlike source other Eq (here.placeCurves places curves)
      (there.placeCurves places otherCurves) := by
  induction areCurves generalizing places with
  | nil => exact .ok rfl
  | cons isCurve rest ih =>
      obtain ⟨shared, isCurve⟩ := isCurve
      apply (alike.placeCurve isCurve places).bind
      rintro place _ rfl
      exact ih _

theorem resolveCurve_alike (isOrigin : shared.IsOrigin origin otherOrigin)
    {reference otherReference : CurveRef} (isCurve : shared.IsCurveRef reference otherReference)
    (network : Network K) (places : List CurvePlace) (ownLine : LineId) :
    ReadAlike source other Eq (resolveCurve network places ownLine reference origin)
      (resolveCurve network places ownLine otherReference otherOrigin) := by
  have line : ReadAlike source other Eq (curveLine network ownLine reference origin)
      (curveLine network ownLine otherReference otherOrigin) := by
    rw [curveLine, curveLine]
    have line := isCurve.line
    generalize reference.line = line, otherReference.line = otherLine at line ⊢
    cases line with
    | none => exact .ok rfl
    | some isLine => exact lineCalled_alike isOrigin isLine network
  apply line.bind
  rintro line _ rfl
  apply (stationOn_alike isOrigin isCurve.start network line).bind
  rintro start _ rfl
  apply (stationOn_alike isOrigin isCurve.stop network line).bind
  rintro stop _ rfl
  rw [← isCurve.start.value, ← isCurve.stop.value]
  split
  · exact .ok rfl
  · exact .error (isOrigin.alike (by trivial) isCurve.marks)

theorem resolveShape_alike {curve otherCurve : CurveDraft}
    (isCurve : shared.IsCurveDraft curve otherCurve) (network : Network K)
    (places : List CurvePlace) :
    ReadAlike source other Eq (resolveShape network places curve)
      (resolveShape network places otherCurve) := by
  have isOrigin := isCurve.origin
  have isShape := isCurve.shape
  rw [resolveShape, resolveShape, ← isCurve.line]
  generalize curve.shape = shape, otherCurve.shape = otherShape at isShape ⊢
  cases isShape with
  | bend bend drawable =>
      -- Only bends that can be drawn are read, so there is always a shape.
      have isShape : (Shape.ofBend? bend).isSome = true := by
        rw [Shape.ofBend?]
        split <;> simp_all
      obtain ⟨shape, found⟩ := Option.isSome_iff_exists.mp isShape
      simp only [found]
      exact .ok rfl
  | parallel bend isTarget =>
      apply (resolveCurve_alike isOrigin isTarget network places curve.line).bind
      rintro target _ rfl
      exact .ok rfl
  | sequence areStations bends =>
      apply (Outcome.Agree.mapM_eq areStations fun _ _ isStation =>
        stationOn_alike isOrigin isStation network curve.line).bind
      rintro stations _ rfl
      exact .ok rfl
  | join areParts =>
      apply (Outcome.Agree.mapM_eq areParts fun _ _ isPart =>
        resolveCurve_alike isOrigin isPart network places curve.line).bind
      rintro parts _ rfl
      exact .ok rfl

theorem resolveCurves_alike {curves otherCurves : List CurveDraft}
    (areCurves : List.Forall₂ (CurveDraft.Alike source other) curves otherCurves)
    (network : Network K) (all places : List CurvePlace) :
    ReadAlike source other Eq (resolveCurves all network (curves.zip places))
      (resolveCurves all network (otherCurves.zip places)) := by
  induction areCurves generalizing network places with
  | nil => exact .ok rfl
  | cons isCurve rest ih =>
      obtain ⟨shared, isCurve⟩ := isCurve
      cases places with
      | nil => exact .ok rfl
      | cons place places =>
          rw [List.zip_cons_cons, List.zip_cons_cons, resolveCurves, resolveCurves,
            isCurve.origin.line, isCurve.origin.otherLine]
          apply (resolveShape_alike isCurve network all).bind
          rintro shape _ rfl
          exact ih _ places

theorem resolveStation_alike {alignment otherAlignment : AlignmentDraft}
    (isAlignment : shared.IsAlignmentDraft alignment otherAlignment)
    {reference otherReference : StationRef}
    (isStation : shared.IsStationRef alignment.line.isSome reference otherReference)
    (network : Network K) :
    ReadAlike source other Eq (resolveStation network alignment reference)
      (resolveStation network otherAlignment otherReference) := by
  have line : ReadAlike source other Eq (stationLine network alignment reference)
      (stationLine network otherAlignment otherReference) := by
    rw [stationLine, stationLine, ← isAlignment.line, ← isStation.line]
    have under := isStation.under
    -- A station without a line of its own is read only under a line, which the alignment then has.
    cases line : reference.line with
    | some name =>
        have isName : shared.IsValue (⟨name, reference.span⟩ : Located String)
            ⟨name, otherReference.span⟩ := ⟨rfl, isStation.marks⟩
        exact lineCalled_alike isAlignment.origin isName network
    | none =>
        obtain ⟨line, isLine⟩ := Option.isSome_iff_exists.mp (under line)
        rw [isLine]
        exact .ok rfl
  apply line.bind
  rintro line _ rfl
  exact stationOn_alike isAlignment.origin ⟨isStation.name, isStation.marks⟩ network line

theorem resolveStations_alike {alignment otherAlignment : AlignmentDraft}
    (isAlignment : shared.IsAlignmentDraft alignment otherAlignment)
    {references otherReferences : List StationRef}
    (areStations : List.Forall₂ (shared.IsStationRef alignment.line.isSome) references
      otherReferences) (network : Network K) :
    ReadAlike source other Eq (references.mapM (resolveStation network alignment))
      (otherReferences.mapM (resolveStation network otherAlignment)) :=
  .mapM_eq areStations fun _ _ isStation => resolveStation_alike isAlignment isStation network

theorem resolveTerms_alike {alignment otherAlignment : AlignmentDraft}
    (isAlignment : shared.IsAlignmentDraft alignment otherAlignment)
    {references otherReferences : List TermRef}
    (areTerms : List.Forall₂ (shared.IsTermRef alignment.line.isSome) references otherReferences)
    (network : Network K) :
    ReadAlike source other Eq (references.mapM (resolveTerm network alignment))
      (otherReferences.mapM (resolveTerm network otherAlignment)) := by
  apply Outcome.Agree.mapM_eq areTerms
  intro reference otherReference isTerm
  apply (resolveStation_alike isAlignment isTerm.station network).bind
  rintro station _ rfl
  exact .ok (by rw [isTerm.component])

theorem resolvePair_alike {alignment otherAlignment : AlignmentDraft}
    (isAlignment : shared.IsAlignmentDraft alignment otherAlignment)
    {pair otherPair : StationRef × StationRef}
    (isPair : shared.IsPair alignment.line.isSome pair otherPair) (network : Network K) :
    ReadAlike source other Eq (resolvePair network alignment pair)
      (resolvePair network otherAlignment otherPair) := by
  apply (resolveStation_alike isAlignment isPair.first network).bind
  rintro first _ rfl
  apply (resolveStation_alike isAlignment isPair.second network).bind
  rintro second _ rfl
  exact .ok rfl

theorem resolveRule_alike {alignment otherAlignment : AlignmentDraft}
    (isAlignment : shared.IsAlignmentDraft alignment otherAlignment) (network : Network K) :
    ReadAlike source other Eq (resolveRule network alignment)
      (resolveRule network otherAlignment) := by
  have isRule := isAlignment.rule
  rw [resolveRule, resolveRule]
  generalize alignment.rule = rule, otherAlignment.rule = otherRule at isRule ⊢
  cases isRule with
  | axis axis areStations =>
      apply (resolveStations_alike isAlignment areStations network).bind
      rintro stations _ rfl
      exact .ok rfl
  | diagonal diagonal areStations =>
      apply (resolveStations_alike isAlignment areStations network).bind
      rintro stations _ rfl
      exact .ok rfl
  | sameStation relation arePairs =>
      apply (Outcome.Agree.mapM_eq arePairs fun _ _ isPair =>
        resolvePair_alike isAlignment isPair network).bind
      rintro pairs _ rfl
      exact .ok rfl
  | equal isLeft isRight =>
      apply (resolveTerms_alike isAlignment isLeft network).bind
      rintro left _ rfl
      apply (resolveTerms_alike isAlignment isRight network).bind
      rintro right _ rfl
      exact .ok rfl

theorem resolveAlignments_alike {alignments otherAlignments : List AlignmentDraft}
    (areAlignments : List.Forall₂ (AlignmentDraft.Alike source other) alignments otherAlignments)
    (network : Network K) :
    ReadAlike source other Eq (resolveAlignments network alignments)
      (resolveAlignments network otherAlignments) := by
  induction areAlignments generalizing network with
  | nil => exact .ok rfl
  | cons isAlignment rest ih =>
      obtain ⟨shared, isAlignment⟩ := isAlignment
      rw [resolveAlignments, resolveAlignments, isAlignment.origin.line,
        isAlignment.origin.otherLine, ← isAlignment.line, ← isAlignment.text]
      apply (resolveRule_alike isAlignment network).bind
      rintro rule _ rfl
      exact ih _

theorem resolveOverlaps_alike {overlaps otherOverlaps : List OverlapDraft}
    (areOverlaps : List.Forall₂ (OverlapDraft.Alike source other) overlaps otherOverlaps)
    (network : Network K) :
    ReadAlike source other Eq (resolveOverlaps network overlaps)
      (resolveOverlaps network otherOverlaps) := by
  induction areOverlaps generalizing network with
  | nil => exact .ok rfl
  | cons isOverlap rest ih =>
      obtain ⟨shared, isOverlap⟩ := isOverlap
      rw [resolveOverlaps, resolveOverlaps, isOverlap.origin.line, isOverlap.origin.otherLine]
      apply (lineCalled_alike isOverlap.origin isOverlap.above network).bind
      rintro above _ rfl
      apply (lineCalled_alike isOverlap.origin isOverlap.below network).bind
      rintro below _ rfl
      exact ih _

end Draft

structure SourceMap.Alike (source other : List Char) (network : Network K)
    (here there : SourceMap) : Prop where
  stations : List.Forall₂ (Origin.Alike source other) here.stations there.stations
  curves : List.Forall₂ (Origin.Alike source other) here.curves there.curves
  stationCount : here.stations.length = network.stations.length
  curveCount : here.curves.length = network.curves.length

theorem Origin.Alike.getD {origins otherOrigins : List Origin}
    (alike : List.Forall₂ (Origin.Alike source other) origins otherOrigins) {index : Nat}
    (known : index < origins.length) :
    Origin.Alike source other (origins.getD index SourceMap.nowhere)
      (otherOrigins.getD index SourceMap.nowhere) := by
  have found := getElem?_of_forall₂ alike index
  rw [List.getD_eq_getElem?_getD, List.getD_eq_getElem?_getD]
  rw [List.getElem?_eq_getElem known] at found ⊢
  generalize otherOrigins[index]? = otherOrigin at found ⊢
  cases found with
  | some isOrigin => exact isOrigin

namespace Network

variable {network : Network K} {here there : SourceMap}

theorem orphan?_alike (alike : SourceMap.Alike source other network here there)
    (station : StationId) :
    Option.Rel (Diagnostic.Alike source other) (network.orphan? here station)
      (network.orphan? there station) := by
  rw [orphan?, orphan?]
  cases found : network.station? station with
  | none => exact .none
  | some known =>
      simp only [Option.bind_eq_bind, Option.bind_some]
      split
      · exact .none
      · have inside := (List.getElem?_eq_some_iff.mp found).1
        obtain ⟨shared, isOrigin⟩ := Origin.Alike.getD alike.stations (alike.stationCount ▸ inside)
        exact .some (isOrigin.alike (by trivial) isOrigin.marks)

theorem SourceMap.Alike.curve (alike : SourceMap.Alike source other network here there)
    {id : CurveId} {curve : Curve} (found : network.curve? id = some curve) :
    Origin.Alike source other (here.curve id) (there.curve id) :=
  Origin.Alike.getD alike.curves (alike.curveCount ▸ (List.getElem?_eq_some_iff.mp found).1)

theorem brokenJoin?_alike (alike : SourceMap.Alike source other network here there)
    {origin otherOrigin : Origin} (isOrigin : shared.IsOrigin origin otherOrigin)
    (stop reached : StationId) (parts : List CurveId) :
    Option.Rel (Diagnostic.Alike source other)
      (network.brokenJoin? here origin stop reached parts)
      (network.brokenJoin? there otherOrigin stop reached parts) := by
  induction parts generalizing reached with
  | nil =>
      rw [brokenJoin?, brokenJoin?]
      split
      · exact .none
      · exact .some (isOrigin.alike (by trivial) isOrigin.marks)
  | cons part rest ih =>
      rw [brokenJoin?, brokenJoin?]
      cases found : network.curve? part with
      | none => exact .none
      | some curve =>
          simp only [Option.bind_eq_bind, Option.bind_some]
          split
          · exact ih curve.stop
          · obtain ⟨_, isPart⟩ := SourceMap.Alike.curve alike found
            exact .some (.related _ (isOrigin.alike (by trivial) isOrigin.marks) isPart.marks.agree)

theorem misfit?_alike (alike : SourceMap.Alike source other network here there) (id : CurveId) :
    Option.Rel (Diagnostic.Alike source other) (network.misfit? here id)
      (network.misfit? there id) := by
  rw [misfit?, misfit?]
  cases found : network.curve? id with
  | none => exact .none
  | some curve =>
      obtain ⟨shared, isOrigin⟩ := SourceMap.Alike.curve alike found
      simp only [Option.bind_eq_bind, Option.bind_some]
      cases shape : curve.shape with
      | parallel target bend =>
          dsimp only
          split
          · exact .some (isOrigin.alike (by trivial) isOrigin.marks)
          · cases isTarget : network.curve? target with
            | none => exact .none
            | some followed =>
                simp only [Option.bind_some]
                cases followed.shape.bend? with
                | none => exact .none
                | some targetBend =>
                    simp only [Option.bind_some]
                    split
                    · exact .none
                    · obtain ⟨_, atTarget⟩ := SourceMap.Alike.curve alike isTarget
                      exact .some (.related _ (isOrigin.alike (by trivial) isOrigin.marks)
                        atTarget.marks.agree)
      | join parts =>
          dsimp only
          split
          · exact .some (isOrigin.alike (by trivial) isOrigin.marks)
          · exact brokenJoin?_alike alike isOrigin curve.stop curve.start parts
      | sharp bend | wide bend => exact .none
      | sequence legs => exact .none

theorem findings_alike (alike : SourceMap.Alike source other network here there) :
    List.Forall₂ (Diagnostic.Alike source other) (network.findings here)
      (network.findings there) := by
  apply List.rel_append
  · apply List.rel_filterMap (R := Eq) _ (List.forall₂_refl _)
    rintro station _ rfl
    exact orphan?_alike alike station
  · apply List.rel_filterMap (R := Eq) _ (List.forall₂_refl _)
    rintro curve _ rfl
    exact misfit?_alike alike curve

end Network

theorem Draft.Alike.resolve {here there : Draft K} (alike : Draft.Alike source other here there)
    (sound : here.Sound) :
    ReadAlike source other (fun read otherRead => read.1 = otherRead.1 ∧
      SourceMap.Alike source other read.1 read.2 otherRead.2) here.resolve there.resolve := by
  have resolved : ReadAlike source other (fun read otherRead => read.1 = otherRead.1 ∧
      read.2 = ⟨here.stations, here.curves.map CurveDraft.origin⟩ ∧
      otherRead.2 = ⟨there.stations, there.curves.map CurveDraft.origin⟩)
      here.resolve there.resolve := by
    rw [Draft.resolve, Draft.resolve, ← alike.network]
    apply (alike.placeCurves alike.curves []).bind
    rintro places _ rfl
    apply (resolveCurves_alike alike.curves here.network places places).bind
    rintro network _ rfl
    apply (resolveAlignments_alike alike.alignments network).bind
    rintro network _ rfl
    apply (resolveOverlaps_alike alike.overlaps network).bind
    rintro network _ rfl
    exact .ok ⟨rfl, rfl, rfl⟩
  generalize isResolved : here.resolve = result, there.resolve = otherResult at resolved ⊢
  cases resolved with
  | error related => exact .error related
  | @ok read otherRead related =>
      obtain ⟨network, _⟩ := read
      obtain ⟨_, _⟩ := otherRead
      obtain ⟨rfl, rfl, rfl⟩ := related
      obtain ⟨⟨places, describes⟩, -⟩ := describes_of_resolve sound isResolved
      have curveCount := describes.curves.length_eq
      rw [List.length_zip, ← describes.placed.length_eq, Nat.min_self] at curveCount
      refine .ok ⟨rfl, alike.stations, ?_, ?_, ?_⟩
      · rw [List.forall₂_map_left_iff, List.forall₂_map_right_iff]
        apply alike.curves.imp
        rintro curve otherCurve ⟨shared, isCurve⟩
        exact ⟨shared, isCurve.origin⟩
      · rw [describes.stations_eq]
        exact alike.stationCount
      · rw [List.length_map, curveCount]

/-- Statements on shared lines give the same network, or the same complaints. -/
theorem Network.ofSource_alike [Scalar K] (resolver : Resolver)
    {tokens otherTokens : List (Located Token)} (tokenized : tokenize source = .ok tokens)
    (otherTokenized : tokenize other = .ok otherTokens)
    (areStatements : List.Forall₂ (Statement.Alike source other) (Statement.ofTokens tokens)
      (Statement.ofTokens otherTokens)) :
    Outcome.Agree (List.Forall₂ (Diagnostic.Alike source other)) Eq
      (ofSource resolver source : Except (List Diagnostic) (Network K))
      (ofSource resolver other) := by
  have start := Draft.alike_empty (K := K) source other
  have noScope : Draft.UnderLine (empty : Network K) none := fun _ isScope => by cases isScope
  have drafted := (start.ofStatements areStatements resolver none).withLeft
  rw [ofSource, ofSource, tokenized, otherTokenized]
  apply (drafted.mapError fun _ _ alike => .cons alike .nil).bind
  rintro draft otherDraft ⟨isDraft, alike⟩
  have sound := Draft.sound_empty.ofStatements noScope isDraft
  apply ((alike.resolve sound).mapError fun _ _ alike => .cons alike .nil).bind
  rintro ⟨network, origins⟩ ⟨_, otherOrigins⟩ ⟨rfl, origins⟩
  have found := findings_alike origins
  dsimp only
  generalize network.findings _ = findings, network.findings otherOrigins = others at found ⊢
  cases found with
  | nil => exact .ok rfl
  | cons first rest => exact .error (.cons first rest)

end TransitMap
