import TransitMap.Bend
import TransitMap.Network.Alignment

namespace TransitMap

structure Leg where
  start : StationId
  stop : StationId
  bend : Bend
  deriving DecidableEq, Repr

inductive Shape where
  | sharp (bend : Bend)
  /-- A wide bend, or none at all. -/
  | wide (bend : Bend)
  | parallel (target : CurveId) (bend : Bend)
  | sequence (legs : List Leg)
  | join (parts : List CurveId)
  deriving DecidableEq, Repr

namespace Shape

/-- The shape of a single bend that can be drawn. -/
def ofBend? (bend : Bend) : Option Shape :=
  match bend.kind? with
  | some .sharp => some (.sharp bend)
  | some .wide | some .straight => some (.wide bend)
  | none => none

def bend? : Shape → Option Bend
  | sharp bend | wide bend | parallel _ bend => some bend
  | sequence _ | join _ => none

def dependencies : Shape → List CurveId
  | parallel target _ => [target]
  | join parts => parts
  | sharp _ | wide _ | sequence _ => []

end Shape

structure Curve where
  line : LineId
  start : StationId
  stop : StationId
  shape : Shape
  sourceLine : Nat
  deriving DecidableEq, Repr

def Curve.joins (curve : Curve) (first second : StationId) : Bool :=
  (curve.start == first && curve.stop == second) || (curve.start == second && curve.stop == first)

end TransitMap
