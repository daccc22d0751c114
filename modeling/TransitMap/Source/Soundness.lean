import TransitMap.Source.Resolution

namespace TransitMap

namespace Network

def connected (network : Network K) : List StationId :=
  network.lines.flatMap fun line => line.edges.flatMap fun edge => [edge.start, edge.stop]

def orphan? (network : Network K) (origins : SourceMap) (station : StationId) :
    Option Diagnostic := do
  let found ← network.station? station
  if found.isAlignmentPoint || network.connected.contains station then none
  else
    let origin := origins.station station
    let complaint : Complaint := .orphanStation found.name (network.lineName found.line)
    some (origin.diagnostic complaint origin.span)

/-- The complaint about the first of the parts that does not start where the one before stops. -/
def brokenJoin? (network : Network K) (origins : SourceMap) (origin : Origin) (stop : StationId) :
    StationId → List CurveId → Option Diagnostic
  | reached, [] =>
      if reached = stop then none
      else
        let complaint : Complaint :=
          .joinEndsElsewhere (network.stationName reached) (network.stationName stop)
        some (origin.diagnostic complaint origin.span)
  | reached, part :: rest => do
      let curve ← network.curve? part
      if curve.start = reached then brokenJoin? network origins origin stop curve.stop rest
      else
        let complaint : Complaint :=
          .brokenJoin (network.stationName curve.start) (network.stationName curve.stop)
            (network.stationName reached)
        some ((origin.diagnostic complaint origin.span).withRelated (origins.curve part).span
          "part declared here")

def misfit? (network : Network K) (origins : SourceMap) (id : CurveId) : Option Diagnostic := do
  let curve ← network.curve? id
  let origin := origins.curve id
  match curve.shape with
  | .parallel target bend =>
      if target = id then some (origin.diagnostic .parallelToItself origin.span)
      else do
        let followed ← network.curve? target
        let targetBend ← followed.shape.bend?
        if targetBend = bend then none
        else
          some ((origin.diagnostic (.shapeMismatch bend targetBend) origin.span).withRelated
            (origins.curve target).span "target declared here")
  | .join parts =>
      if parts.contains id then some (origin.diagnostic .joinOfItself origin.span)
      else brokenJoin? network origins origin curve.stop curve.start parts
  | .sharp _ | .wide _ | .sequence _ => none

/-- Everything that is wrong with the network: first its stations, then its curves. -/
def findings (network : Network K) (origins : SourceMap) : List Diagnostic :=
  network.stationIds.filterMap (network.orphan? origins) ++
    network.curveIds.filterMap (network.misfit? origins)

def alone (result : Except Diagnostic α) : Except (List Diagnostic) α :=
  result.mapError fun diagnostic => [diagnostic]

/-- The network of a source. Characters and the network as a whole are checked for all faults,
statements and references up to the first. -/
def ofSource [Scalar K] (resolver : Resolver) (source : List Char) :
    Except (List Diagnostic) (Network K) := do
  let tokens ← tokenize source
  let draft ←
    alone (Draft.ofStatements resolver source none Draft.empty (Statement.ofTokens tokens))
  let (network, origins) ← alone draft.resolve
  match network.findings origins with
  | [] => .ok network
  | findings => .error findings

end Network

end TransitMap
