import TransitMap.Layout.Snapping
import TransitMap.Layout.Stacking
import TransitMap.Settings

/-!
The layout of a map: where its stations are, and how its lines are stacked. Stations are placed near
their sketched positions on whole coordinates such that the alignments hold, and the map starts at
the origin.
-/

namespace TransitMap

structure Layout (K : Type) where
  positions : List (Point K)
  /-- The layer of each line, counted from one at the bottom. -/
  layers : List Nat
  deriving DecidableEq, Repr

inductive LayoutFault (K : Type) where
  | placement (fault : PlacementFault K)
  /-- The line has to be both above and below another one. -/
  | cyclicOverlap (line : String)
  deriving DecidableEq, Repr

/-- A way to find the best values of coordinates. -/
abbrev Placer (K : Type) := Placement K → Except (PlacementFault K) (List K)

namespace Layout

variable [Scalar K]

def position (layout : Layout K) (station : StationId) : Point K :=
  layout.positions.getD station.index default

def layer (layout : Layout K) (line : LineId) : Nat := layout.layers.getD line.index 1

/-- The largest of the values, and zero at least; values that differ from themselves do not count. -/
def greatest (values : List K) : K :=
  values.foldl (fun greatest value => if greatest < value then value else greatest) 0

def maxX (layout : Layout K) : K := greatest (layout.positions.map Point.x)

def maxY (layout : Layout K) : K := greatest (layout.positions.map Point.y)

/-- The smaller of two values, the right one of two equal ones: zeros are equal, whatever their
signs. One that differs from itself does not count. -/
def lesser (left right : K) : K :=
  if right == right then if left < right then left else right else left

/-- The least of the values, the last of several equal ones. -/
def least : List K → K
  | [] => 0
  | first :: rest => rest.foldl lesser first

def corner (points : List (Point K)) : Point K :=
  ⟨least (points.map Point.x), least (points.map Point.y)⟩

/-- Moves points such that the leftmost and the topmost of them are at zero. -/
def toOrigin (points : List (Point K)) : List (Point K) :=
  points.map fun point => point - corner points

def points (network : Network K) (values : List K) : List (Point K) :=
  network.stationIds.map fun station =>
    ⟨values.getD (station.coordinate .x) 0, values.getD (station.coordinate .y) 0⟩

def stationWeight (settings : Settings K) (station : Station K) : K :=
  if station.isAlignmentPoint then settings.alignmentPointWeight else 1

def placement (network : Network K) (settings : Settings K) :
    Except (PlacementFault K) (Placement K) :=
  Placement.ofParts
    (network.stations.flatMap fun station => [station.sketch.x, station.sketch.y])
    (network.stations.flatMap fun station =>
      [stationWeight settings station, stationWeight settings station])
    (network.equalities settings.width)

def wholeValues (placer : Placer K) (network : Network K) (settings : Settings K) :
    Except (PlacementFault K) (List K) := do
  let placement ← placement network settings
  let values ← placer placement
  Snapping.integral values placement.equalities

def place (placer : Placer K) (network : Network K) (settings : Settings K) :
    Except (PlacementFault K) (List (Point K)) := do
  let values ← wholeValues placer network settings
  .ok (toOrigin (points network values))

def stack (network : Network K) : Except (LayoutFault K) (List Nat) :=
  (Stacking.layers network.overlaps network.lineIds).mapError fun line =>
    .cyclicOverlap (network.lineName line)

def ofNetwork (placer : Placer K) (network : Network K) (settings : Settings K) :
    Except (LayoutFault K) (Layout K) := do
  let positions ← (place placer network settings).mapError .placement
  let layers ← stack network
  .ok ⟨positions, layers⟩

end Layout

end TransitMap
