import TransitMap.Source.Draft

/-!
The network of a draft: every reference is replaced by what it refers to, wherever in the source
that is declared. All curves are placed between their stations before the first shape is resolved.
-/

namespace TransitMap

structure SourceMap where
  stations : List Origin
  curves : List Origin
  deriving DecidableEq, Repr

namespace SourceMap

def nowhere : Origin := ⟨.empty, 0⟩

def station (origins : SourceMap) (station : StationId) : Origin :=
  origins.stations.getD station.index nowhere

def curve (origins : SourceMap) (curve : CurveId) : Origin :=
  origins.curves.getD curve.index nowhere

end SourceMap

structure CurvePlace where
  line : LineId
  start : StationId
  stop : StationId
  deriving DecidableEq, Repr

namespace CurvePlace

def joins (place : CurvePlace) (line : LineId) (first second : StationId) : Bool :=
  place.line == line &&
    ((place.start == first && place.stop == second) ||
      (place.start == second && place.stop == first))

def find? (places : List CurvePlace) (line : LineId) (first second : StationId) : Option CurveId :=
  (places.findIdx? fun place => place.joins line first second).map CurveId.mk

end CurvePlace

namespace Draft

def lineCalled (network : Network K) (name : Located String) (origin : Origin) :
    Except Diagnostic LineId :=
  match network.lineNamed? name.value with
  | some line => .ok line
  | none => .error (origin.diagnostic (.unknownLine name.value) name.span)

/-- The place of one more curve. Its stations have to share an edge, unless one of them is an
alignment point, and no curve may join them yet. -/
def placeCurve (draft : Draft K) (places : List CurvePlace) (curve : CurveDraft) :
    Except Diagnostic CurvePlace := do
  let network := draft.network
  let start ← stationOn network curve.line curve.start curve.origin
  let stop ← stationOn network curve.line curve.stop curve.origin
  let fixesCourse := network.isAlignmentPoint start || network.isAlignmentPoint stop
  if !fixesCourse && !network.hasEdge curve.line start stop then
    let complaint : Complaint :=
      .curveWithoutEdge curve.start.value curve.stop.value (network.lineName curve.line)
    .error (curve.origin.diagnostic complaint curve.origin.span)
  else
    match CurvePlace.find? places curve.line start stop with
    | some earlier =>
        let first := (draft.curves[earlier.index]?.map fun curve => curve.origin.span).getD .empty
        .error ((curve.origin.diagnostic (.curveTwice curve.start.value curve.stop.value)
          curve.origin.span).withRelated first "first declared here")
    | none => .ok ⟨curve.line, start, stop⟩

def placeCurves (draft : Draft K) :
    List CurvePlace → List CurveDraft → Except Diagnostic (List CurvePlace)
  | places, [] => .ok places
  | places, curve :: rest => do
      let place ← draft.placeCurve places curve
      draft.placeCurves (places ++ [place]) rest

/-- The line of a curve: that of the statement unless another one is named. -/
def curveLine (network : Network K) (ownLine : LineId) (reference : CurveRef) (origin : Origin) :
    Except Diagnostic LineId :=
  match reference.line with
  | some name => lineCalled network name origin
  | none => .ok ownLine

def resolveCurve (network : Network K) (places : List CurvePlace) (ownLine : LineId)
    (reference : CurveRef) (origin : Origin) : Except Diagnostic CurveId := do
  let line ← curveLine network ownLine reference origin
  let start ← stationOn network line reference.start origin
  let stop ← stationOn network line reference.stop origin
  match CurvePlace.find? places line start stop with
  | some curve => .ok curve
  | none =>
      let complaint : Complaint :=
        .unknownCurve reference.start.value reference.stop.value (network.lineName line)
      .error (origin.diagnostic complaint reference.span)

/-- The legs through a list of stations with a bend between each and the next. -/
def legs : List StationId → List Bend → List Leg
  | start :: stop :: rest, bend :: bends => ⟨start, stop, bend⟩ :: legs (stop :: rest) bends
  | _, _ => []

def resolveShape (network : Network K) (places : List CurvePlace) (curve : CurveDraft) :
    Except Diagnostic Shape :=
  match curve.shape with
  | .bend bend =>
      match Shape.ofBend? bend with
      | some shape => .ok shape
      | none => .error (curve.origin.diagnostic (.undrawableBend bend) curve.origin.span)
  | .parallel bend target => do
      let target ← resolveCurve network places curve.line target curve.origin
      .ok (.parallel target bend)
  | .sequence stations bends => do
      let stations ← stations.mapM fun name => stationOn network curve.line name curve.origin
      .ok (.sequence (legs stations bends))
  | .join parts => do
      let parts ← parts.mapM fun part => resolveCurve network places curve.line part curve.origin
      .ok (.join parts)

def resolveCurves (places : List CurvePlace) :
    Network K → List (CurveDraft × CurvePlace) → Except Diagnostic (Network K)
  | network, [] => .ok network
  | network, (curve, place) :: rest => do
      let shape ← resolveShape network places curve
      resolveCurves places
        (network.addCurve ⟨place.line, place.start, place.stop, shape, curve.origin.line⟩).2 rest

/-- The line of a station: that of the alignment unless another one is named. -/
def stationLine (network : Network K) (alignment : AlignmentDraft) (reference : StationRef) :
    Except Diagnostic LineId :=
  match reference.line, alignment.line with
  | some name, _ => lineCalled network ⟨name, reference.span⟩ alignment.origin
  | none, some line => .ok line
  | none, none =>
      .error (alignment.origin.diagnostic (.stationWithoutLine reference.name) reference.span)

def resolveStation (network : Network K) (alignment : AlignmentDraft) (reference : StationRef) :
    Except Diagnostic StationId := do
  let line ← stationLine network alignment reference
  stationOn network line ⟨reference.name, reference.span⟩ alignment.origin

def resolveTerm (network : Network K) (alignment : AlignmentDraft) (reference : TermRef) :
    Except Diagnostic Term := do
  let station ← resolveStation network alignment reference.station
  .ok ⟨station, reference.component⟩

def resolvePair (network : Network K) (alignment : AlignmentDraft)
    (pair : StationRef × StationRef) : Except Diagnostic (StationId × StationId) := do
  let first ← resolveStation network alignment pair.1
  let second ← resolveStation network alignment pair.2
  .ok (first, second)

def resolveRule (network : Network K) (alignment : AlignmentDraft) :
    Except Diagnostic AlignmentRule :=
  match alignment.rule with
  | .axis axis stations => do
      .ok (.axis axis (← stations.mapM (resolveStation network alignment)))
  | .diagonal diagonal stations => do
      .ok (.diagonal diagonal (← stations.mapM (resolveStation network alignment)))
  | .sameStation relation pairs => do
      .ok (.sameStation relation (← pairs.mapM (resolvePair network alignment)))
  | .equal left right => do
      let left ← left.mapM (resolveTerm network alignment)
      let right ← right.mapM (resolveTerm network alignment)
      .ok (.equal left right)

def resolveAlignments (network : Network K) :
    List AlignmentDraft → Except Diagnostic (Network K)
  | [] => .ok network
  | alignment :: rest => do
      let rule ← resolveRule network alignment
      resolveAlignments
        (network.addAlignment ⟨rule, alignment.line, alignment.origin.line, alignment.text⟩) rest

def resolveOverlaps (network : Network K) : List OverlapDraft → Except Diagnostic (Network K)
  | [] => .ok network
  | overlap :: rest => do
      let above ← lineCalled network overlap.above overlap.origin
      let below ← lineCalled network overlap.below overlap.origin
      resolveOverlaps (network.addOverlap ⟨above, below, overlap.origin.line⟩) rest

def resolve (draft : Draft K) : Except Diagnostic (Network K × SourceMap) := do
  let places ← draft.placeCurves [] draft.curves
  let network ← resolveCurves places draft.network (draft.curves.zip places)
  let network ← resolveAlignments network draft.alignments
  let network ← resolveOverlaps network draft.overlaps
  .ok (network, ⟨draft.stations, draft.curves.map CurveDraft.origin⟩)

end Draft

end TransitMap
