import TransitMap.Data.Pretty
import TransitMap.Plane.Path

namespace TransitMap

structure StationEntry where
  identifier : String
  name : String
  position : Point Int
  deriving DecidableEq, Repr

/-- A connection of two stations, given by their identifiers, with its path from the first to the
second. -/
structure EdgeEntry where
  first : String
  second : String
  path : Path Int
  deriving DecidableEq, Repr

structure LineEntry where
  name : String
  color : String
  layer : Nat
  stations : List StationEntry
  edges : List EdgeEntry
  endpoints : Path Int
  deriving DecidableEq, Repr

structure MapDocument where
  lineWidth : Nat
  maxX : Int
  maxY : Int
  lines : List LineEntry
  deriving DecidableEq, Repr

open Json

def Point.tree (point : Point Int) : Tree :=
  .record [("x", .whole point.x), ("y", .whole point.y)]

def Segment.tree (segment : Segment Int) : Tree :=
  .record (("straight", .flag segment.isStraight) ::
    ["p0", "p1", "p2", "p3"].zip (segment.points.map Point.tree))

def Path.tree (path : Path Int) : Tree := .list (path.map Segment.tree)

def StationEntry.tree (station : StationEntry) : Tree :=
  .record [("id", .text station.identifier), ("name", .text station.name),
    ("x", .whole station.position.x), ("y", .whole station.position.y)]

def EdgeEntry.tree (edge : EdgeEntry) : Tree :=
  .record [("station1Id", .text edge.first), ("station2Id", .text edge.second),
    ("segments", edge.path.tree)]

def LineEntry.tree (line : LineEntry) : Tree :=
  .record [("name", .text line.name), ("color", .text line.color), ("zIndex", .whole line.layer),
    ("stations", .list (line.stations.map StationEntry.tree)),
    ("edges", .list (line.edges.map EdgeEntry.tree)),
    ("endpointSegments", line.endpoints.tree)]

def MapDocument.tree (document : MapDocument) : Tree :=
  .record [("lineWidth", .whole document.lineWidth), ("maxX", .whole document.maxX),
    ("maxY", .whole document.maxY), ("lines", .list (document.lines.map LineEntry.tree))]

def MapDocument.write (document : MapDocument) : String := document.tree.write

end TransitMap
