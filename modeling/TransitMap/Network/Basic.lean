import TransitMap.Data.Entries
import TransitMap.Plane.Point
import TransitMap.Network.Shape
import TransitMap.Network.Endpoint

/-!
Networks: lines, stations, curves and constraints in order of declaration, referring to each other
by their places in these lists.
-/

namespace TransitMap

inductive StationKind where
  | station
  | alignmentPoint
  deriving DecidableEq, Repr

structure Station (K : Type) where
  name : String
  line : LineId
  kind : StationKind
  identifier : String
  sketch : Point K
  deriving DecidableEq, Repr

def Station.isAlignmentPoint (station : Station K) : Bool := station.kind == .alignmentPoint

/-- A connection of two stations as it was first declared. -/
structure Edge where
  start : StationId
  stop : StationId
  deriving DecidableEq, Repr

def Edge.connects (edge : Edge) (first second : StationId) : Bool :=
  (edge.start == first && edge.stop == second) || (edge.start == second && edge.stop == first)

structure Line where
  name : String
  stations : List (String × StationId)
  edges : List Edge
  curves : List CurveId
  endpoints : List Endpoint
  deriving DecidableEq, Repr

namespace Line

def empty (name : String) : Line := ⟨name, [], [], [], []⟩

def station? (line : Line) (name : String) : Option StationId := line.stations.lookup name

def hasEdge (line : Line) (first second : StationId) : Bool :=
  line.edges.any fun edge => edge.connects first second

end Line

structure Network (K : Type) where
  lines : List Line
  /-- The lines by their names. -/
  lineNames : List (String × LineId)
  stations : List (Station K)
  curves : List Curve
  alignments : List Alignment
  overlaps : List Overlap
  deriving DecidableEq, Repr

namespace Network

def empty : Network K := ⟨[], [], [], [], [], []⟩

def line? (network : Network K) (line : LineId) : Option Line := network.lines[line.index]?

def station? (network : Network K) (station : StationId) : Option (Station K) :=
  network.stations[station.index]?

def curve? (network : Network K) (curve : CurveId) : Option Curve := network.curves[curve.index]?

def lineIds (network : Network K) : List LineId := (List.range network.lines.length).map LineId.mk

def stationIds (network : Network K) : List StationId :=
  (List.range network.stations.length).map StationId.mk

def curveIds (network : Network K) : List CurveId :=
  (List.range network.curves.length).map CurveId.mk

def lineNamed? (network : Network K) (name : String) : Option LineId :=
  network.lineNames.lookup name

def stationNamed? (network : Network K) (line : LineId) (name : String) : Option StationId :=
  network.line? line >>= fun found => found.station? name

def lineName (network : Network K) (line : LineId) : String :=
  ((network.line? line).map Line.name).getD ""

def stationName (network : Network K) (station : StationId) : String :=
  ((network.station? station).map Station.name).getD ""

def isAlignmentPoint (network : Network K) (station : StationId) : Bool :=
  ((network.station? station).map Station.isAlignmentPoint).getD false

def qualifiedName (network : Network K) (station : StationId) : String :=
  match network.station? station with
  | some found => network.lineName found.line ++ ": " ++ found.name
  | none => ""

def hasEdge (network : Network K) (line : LineId) (first second : StationId) : Bool :=
  ((network.line? line).map fun found => found.hasEdge first second).getD false

def curveBetween? (network : Network K) (line : LineId) (first second : StationId) :
    Option CurveId :=
  network.line? line >>= fun found =>
    found.curves.find? fun id =>
      ((network.curve? id).map fun curve => curve.joins first second).getD false

def modifyLine (network : Network K) (line : LineId) (change : Line → Line) : Network K :=
  { network with lines := network.lines.modify line.index change }

def addLine (network : Network K) (name : String) : LineId × Network K :=
  match network.lineNamed? name with
  | some line => (line, network)
  | none =>
      let id : LineId := ⟨network.lines.length⟩
      (id, { network with
        lines := network.lines ++ [Line.empty name]
        lineNames := Entries.assign name id network.lineNames })

/-- Adds a station to its line, where it takes over its name. -/
def addStation (network : Network K) (station : Station K) : StationId × Network K :=
  let id : StationId := ⟨network.stations.length⟩
  let named := network.modifyLine station.line fun line =>
    { line with stations := Entries.assign station.name id line.stations }
  (id, { named with stations := network.stations ++ [station] })

/-- Adds an edge unless the line connects its stations already; whether it was added comes
first. -/
def addEdge (network : Network K) (line : LineId) (start stop : StationId) : Bool × Network K :=
  if network.hasEdge line start stop then (false, network)
  else (true, network.modifyLine line fun found =>
    { found with edges := found.edges ++ [⟨start, stop⟩] })

def addCurve (network : Network K) (curve : Curve) : CurveId × Network K :=
  let id : CurveId := ⟨network.curves.length⟩
  let listed := network.modifyLine curve.line fun line => { line with curves := line.curves ++ [id] }
  (id, { listed with curves := network.curves ++ [curve] })

def addEndpoint (network : Network K) (line : LineId) (endpoint : Endpoint) : Network K :=
  network.modifyLine line fun found => { found with endpoints := found.endpoints ++ [endpoint] }

def addAlignment (network : Network K) (alignment : Alignment) : Network K :=
  { network with alignments := network.alignments ++ [alignment] }

def addOverlap (network : Network K) (overlap : Overlap) : Network K :=
  { network with overlaps := network.overlaps ++ [overlap] }

end Network

end TransitMap
