import TransitMap.Document.Basic
import TransitMap.Layout.Basic
import TransitMap.Palette

/-!
The map document of a network with its layout and the paths of its curves. Lines, stations and edges
keep their order of declaration, and alignment points are left out.
-/

namespace TransitMap

inductive DocumentFault where
  | pathCount (paths curves : Nat)
  | noColor (line : String)
  /-- Neither is there a curve between the stations, nor can they be joined by a straight segment. -/
  | notAligned (first second line : String)
  deriving DecidableEq, Repr

structure Assembly (K : Type) where
  network : Network K
  layout : Layout K
  paths : List (Path K)
  settings : Settings K

namespace Assembly

variable [Scalar K]

def identifier (assembly : Assembly K) (station : StationId) : String :=
  ((assembly.network.station? station).map Station.identifier).getD ""

/-- The entry of a station of a line, unless it is an alignment point. -/
def station? (assembly : Assembly K) (id : StationId) : Option StationEntry := do
  let station ← assembly.network.station? id
  if station.isAlignmentPoint then none
  else some ⟨station.identifier, station.name, (assembly.layout.position id).toGrid⟩

def edgeEntry (assembly : Assembly K) (start stop : StationId) (path : Path K) : EdgeEntry :=
  ⟨assembly.identifier start, assembly.identifier stop, path.map (Segment.map Point.toGrid)⟩

/-- Whether a straight segment may join two points: along an axis or a diagonal. -/
def isAligned (start stop : Point K) : Bool :=
  let offset := stop - start
  offset.x == 0 || offset.y == 0 || Scalar.abs offset.x == Scalar.abs offset.y

def curveOf? (assembly : Assembly K) (id : LineId) (edge : Edge) : Option (Curve × Path K) := do
  let found ← assembly.network.curveBetween? id edge.start edge.stop
  let curve ← assembly.network.curve? found
  some (curve, assembly.paths.getD found.index [])

/-- The entry of an edge: along the curve between its stations, as that runs, or straight. -/
def edge (assembly : Assembly K) (id : LineId) (line : Line) (edge : Edge) :
    Except DocumentFault EdgeEntry :=
  match assembly.curveOf? id edge with
  | some (curve, path) => .ok (assembly.edgeEntry curve.start curve.stop path)
  | none =>
      let start := assembly.layout.position edge.start
      let stop := assembly.layout.position edge.stop
      if isAligned start stop then
        .ok (assembly.edgeEntry edge.start edge.stop [.straight start stop])
      else
        .error (.notAligned (assembly.network.stationName edge.start)
          (assembly.network.stationName edge.stop) line.name)

def barEnd (station : Point K) (half : K) (direction : Direction) : Point K :=
  let reach := if direction.isDiagonal then Scalar.roundSide half else Scalar.round half
  station + (Point.ofGrid direction.step.1 direction.step.2).scale reach

/-- The bar of an endpoint, or the half of it that is drawn. A whole bar is twice `half` long. -/
def bar (half : K) (endpoint : Endpoint) (station : Point K) : Segment K :=
  let first := barEnd station half endpoint.axis.directions.1
  let second := barEnd station half endpoint.axis.directions.2
  if endpoint.half = some endpoint.axis.directions.1 then .straight first station
  else if endpoint.half = some endpoint.axis.directions.2 then .straight station second
  else .straight first second

def halfBar (settings : Settings K) : K := settings.width * settings.lengthFactor / 2

def line (assembly : Assembly K) (palette : Palette) (id : LineId) (line : Line) :
    Except DocumentFault LineEntry := do
  let some color := palette.color? line.name | .error (.noColor line.name)
  let edges ← line.edges.mapM (assembly.edge id line)
  let bars := line.endpoints.map fun endpoint =>
    bar (halfBar assembly.settings) endpoint (assembly.layout.position endpoint.station)
  .ok {
    name := line.name
    color
    layer := assembly.layout.layer id
    stations := line.stations.filterMap fun entry => assembly.station? entry.2
    edges
    endpoints := bars.map (Segment.map Point.toGrid) }

/-- The largest coordinates of the stations and one line width more. -/
def extent (assembly : Assembly K) : Point Int :=
  let width := assembly.settings.width
  (⟨assembly.layout.maxX + width, assembly.layout.maxY + width⟩ : Point K).toGrid

def document (assembly : Assembly K) (palette : Palette) : Except DocumentFault MapDocument := do
  let network := assembly.network
  if assembly.paths.length ≠ network.curves.length then
    .error (.pathCount assembly.paths.length network.curves.length)
  else do
    let lines ← (network.lineIds.zip network.lines).mapM fun entry =>
      assembly.line palette entry.1 entry.2
    .ok ⟨assembly.settings.lineWidth, assembly.extent.x, assembly.extent.y, lines⟩

end Assembly

end TransitMap
