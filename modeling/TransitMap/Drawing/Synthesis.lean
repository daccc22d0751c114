import TransitMap.Drawing.Parallel
import TransitMap.Drawing.Schedule
import TransitMap.Layout.Basic

namespace TransitMap

/-- What curves are drawn with. -/
structure Pen (K : Type) where
  outlines : Outlines K
  width : K
  /-- The parameter at which a curve is nearest to a point. -/
  nearest : Cubic K → Point K → K
  distance : Point K → Point K → K
  fitter : OffsetFitter K

def Pen.ofSettings [Scalar K] (settings : Settings K) (templates : Templates K)
    (nearest : Cubic K → Point K → K) (distance : Point K → Point K → K)
    (fitter : OffsetFitter K) : Pen K :=
  ⟨templates.outlines settings.scaleFactor, settings.width, nearest, distance, fitter⟩

inductive CurveFault (K : Type) where
  | bend (fault : BendFault K)
  /-- The bend up to a station of a sequence. -/
  | leg (stop : StationId) (fault : BendFault K)
  | offset (fault : OffsetFault)
  | targetNotDrawn
  | partNotDrawn
  | notDrawn
  deriving DecidableEq, Repr

inductive SynthesisFault (K : Type) where
  | cycle (curves : List CurveId)
  | curve (curve : CurveId) (fault : CurveFault K)
  deriving DecidableEq, Repr

abbrev Drawn (K : Type) := List (Option (Path K))

namespace Drawn

def path? (drawn : Drawn K) (curve : CurveId) : Option (Path K) := (drawn[curve.index]?).join

end Drawn

namespace Synthesis

variable [Scalar K]

def drawBend (pen : Pen K) (layout : Layout K) (bend : Bend) (start stop : StationId) :
    Except (BendFault K) (Path K) :=
  BendPath.draw pen.nearest pen.outlines bend (layout.position start) (layout.position stop)

def drawLeg (pen : Pen K) (layout : Layout K) (leg : Leg) : Except (CurveFault K) (Path K) :=
  (drawBend pen layout leg.bend leg.start leg.stop).mapError (.leg leg.stop)

def drawnPart (drawn : Drawn K) (part : CurveId) : Except (CurveFault K) (Path K) :=
  match drawn.path? part with
  | some path => .ok path
  | none => .error .partNotDrawn

def drawCurve (pen : Pen K) (layout : Layout K) (drawn : Drawn K) (curve : Curve) :
    Except (CurveFault K) (Path K) :=
  match curve.shape with
  | .sharp bend | .wide bend => (drawBend pen layout bend curve.start curve.stop).mapError .bend
  | .parallel target _ =>
      match drawn.path? target with
      | some path =>
          (Parallel.draw pen.distance pen.fitter pen.width path (layout.position curve.start)
            (layout.position curve.stop)).mapError .offset
      | none => .error .targetNotDrawn
  | .sequence legs => List.flatten <$> legs.mapM (drawLeg pen layout)
  | .join parts => List.flatten <$> parts.mapM (drawnPart drawn)

def drawNext (pen : Pen K) (network : Network K) (layout : Layout K) (drawn : Drawn K)
    (id : CurveId) : Except (SynthesisFault K) (Drawn K) :=
  match network.curve? id with
  | none => .ok drawn
  | some curve => do
      let path ← (drawCurve pen layout drawn curve).mapError (.curve id)
      .ok (drawn.set id.index (some path))

def drawAll (pen : Pen K) (network : Network K) (layout : Layout K) (order : List CurveId) :
    Except (SynthesisFault K) (Drawn K) :=
  order.foldlM (drawNext pen network layout) (List.replicate network.curves.length none)

def paths (pen : Pen K) (network : Network K) (layout : Layout K) :
    Except (SynthesisFault K) (List (Path K)) := do
  let order ← (Schedule.order network).mapError .cycle
  let drawn ← drawAll pen network layout order
  network.curveIds.mapM fun id =>
    match drawn.path? id with
    | some path => .ok path
    | none => .error (.curve id .notDrawn)

end Synthesis

end TransitMap
