import TransitMap.Source.Command

/-!
A network while its source is read. Lines, stations, edges and endpoints are declared as they come;
curves and constraints wait with their references, since these may lead further down the file.
-/

namespace TransitMap

structure CurveDraft where
  line : LineId
  start : Located String
  stop : Located String
  shape : ShapeRef
  origin : Origin
  deriving DecidableEq, Repr

structure AlignmentDraft where
  rule : AlignmentRef
  line : Option LineId
  origin : Origin
  text : String
  deriving DecidableEq, Repr

structure OverlapDraft where
  above : Located String
  below : Located String
  origin : Origin
  deriving DecidableEq, Repr

structure Draft (K : Type) where
  network : Network K
  headers : List Span
  stations : List Origin
  curves : List CurveDraft
  alignments : List AlignmentDraft
  overlaps : List OverlapDraft
  deriving DecidableEq, Repr

/-- The identifier of a station, by the names of its line and of the station. -/
abbrev Resolver := String → String → Option String

namespace Draft

def empty : Draft K := ⟨.empty, [], [], [], [], []⟩

def stationOn (network : Network K) (line : LineId) (name : Located String) (origin : Origin) :
    Except Diagnostic StationId :=
  match network.stationNamed? line name.value with
  | some station => .ok station
  | none =>
      .error (origin.diagnostic (.unknownStation name.value (network.lineName line)) name.span)

def declareLine (draft : Draft K) (name : Located String) (origin : Origin) :
    Except Diagnostic (LineId × Draft K) :=
  match draft.network.lineNamed? name.value with
  | some line =>
      let first := draft.headers.getD line.index .empty
      .error ((origin.diagnostic (.lineTwice name.value) name.span).withRelated first
        "first declared here")
  | none =>
      let (line, network) := draft.network.addLine name.value
      .ok (line, { draft with network, headers := draft.headers ++ [name.span] })

/-- The identifier of a new station. Alignment points are named after their line. -/
def identifierOf (resolver : Resolver) (lineName : String) (kind : StationKind)
    (name : Located String) (origin : Origin) : Except Diagnostic String :=
  match kind with
  | .alignmentPoint => .ok (lineName ++ ":" ++ name.value)
  | .station =>
      match resolver lineName name.value with
      | some identifier => .ok identifier
      | none => .error (origin.diagnostic (.noStationId name.value lineName) name.span)

def declareStation [Scalar K] (resolver : Resolver) (draft : Draft K) (line : LineId)
    (kind : StationKind) (name : Located String) (x y : Int) (origin : Origin) :
    Except Diagnostic (Draft K) := do
  let lineName := draft.network.lineName line
  match draft.network.stationNamed? line name.value with
  | some station =>
      let first := (draft.stations[station.index]?.map Origin.span).getD .empty
      .error ((origin.diagnostic (.stationTwice name.value lineName) name.span).withRelated first
        "first declared here")
  | none => do
      let identifier ← identifierOf resolver lineName kind name origin
      let (_, network) :=
        draft.network.addStation ⟨name.value, line, kind, identifier, .ofGrid x y⟩
      .ok { draft with network, stations := draft.stations ++ [origin] }

def connect (network : Network K) (line : LineId) : List StationId → Network K
  | first :: second :: rest => connect (network.addEdge line first second).2 line (second :: rest)
  | _ => network

def declareEdges (draft : Draft K) (line : LineId) (names : List (Located String))
    (origin : Origin) : Except Diagnostic (Draft K) := do
  let stations ← names.mapM fun name => stationOn draft.network line name origin
  .ok { draft with network := connect draft.network line stations }

/-- The axis of an endpoint and the half of it behind a colon, if there is one. -/
def endpointKind (kind : Located String) (origin : Origin) :
    Except Diagnostic (EndpointAxis × Option Direction) := do
  let (axisText, halfText) :=
    match Text.splitOnce? ':' kind.value.toList with
    | some (axis, half) => (String.ofList axis, some (String.ofList half))
    | none => (kind.value, none)
  match EndpointAxis.ofKeyword? axisText with
  | none => .error (origin.diagnostic (.unknownEndpoint axisText) kind.span)
  | some axis =>
      match halfText with
      | none => .ok (axis, none)
      | some text =>
          match (Direction.ofKeyword? text).filter axis.acceptsHalf with
          | some half => .ok (axis, some half)
          | none =>
              .error (origin.diagnostic (.foreignHalf text axisText axis.directions) kind.span)

def declareEndpoint (draft : Draft K) (line : LineId) (station kind : Located String)
    (origin : Origin) : Except Diagnostic (Draft K) := do
  let station ← stationOn draft.network line station origin
  let (axis, half) ← endpointKind kind origin
  .ok { draft with network := draft.network.addEndpoint line ⟨station, axis, half, origin.line⟩ }

/-- Carries one statement out, under a line or not, and returns the line the next one is under. A
statement that needs a line is only read under one. -/
def step [Scalar K] (resolver : Resolver) (source : List Char) (scope : Option LineId)
    (draft : Draft K) (statement : Statement) : Except Diagnostic (Option LineId × Draft K) := do
  let origin := statement.origin
  match ← statement.command scope.isSome with
  | .line name => do
      let (line, draft) ← draft.declareLine name origin
      .ok (some line, draft)
  | .multiLine => .ok (none, draft)
  | .alignment rule =>
      let text := String.ofList (Text.slice source origin.span.start origin.span.stop)
      .ok (scope, { draft with alignments := draft.alignments ++ [⟨rule, scope, origin, text⟩] })
  | .overlap above below =>
      .ok (scope, { draft with overlaps := draft.overlaps ++ [⟨above, below, origin⟩] })
  | .station kind name x y =>
      match scope with
      | none => .ok (scope, draft)
      | some line =>
          return (scope, ← draft.declareStation resolver line kind name x y origin)
  | .edges names =>
      match scope with
      | none => .ok (scope, draft)
      | some line => return (scope, ← draft.declareEdges line names origin)
  | .curve start stop shape =>
      match scope with
      | none => .ok (scope, draft)
      | some line =>
          .ok (scope, { draft with curves := draft.curves ++ [⟨line, start, stop, shape, origin⟩] })
  | .endpoint station kind =>
      match scope with
      | none => .ok (scope, draft)
      | some line => return (scope, ← draft.declareEndpoint line station kind origin)

def ofStatements [Scalar K] (resolver : Resolver) (source : List Char) :
    Option LineId → Draft K → List Statement → Except Diagnostic (Draft K)
  | _, draft, [] => .ok draft
  | scope, draft, statement :: rest => do
      let (scope, draft) ← draft.step resolver source scope statement
      ofStatements resolver source scope draft rest

end Draft

end TransitMap
