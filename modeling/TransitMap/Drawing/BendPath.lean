import TransitMap.Drawing.Reduction
import TransitMap.Drawing.Template
import TransitMap.Plane.Path

namespace TransitMap

inductive BendFault (K : Type) where
  | notDrawable (bend : Bend)
  | notCanonical (bend : Bend)
  | notReducible (bend : Bend)
  /-- The stations do not lie as the bend needs it; they are given as the base bend sees them. -/
  | misplaced (start stop : Point K)
  deriving DecidableEq, Repr

namespace BendPath

variable [Scalar K]

/-- A base curve with its corner where the horizontal run from `start` meets the run into `stop`. -/
def anchored (outlines : Outlines K) (base : BaseBend) (start stop : Point K) : Cubic K :=
  match base with
  | .sharp => outlines.sharp.map ((⟨stop.x, start.y⟩ : Point K) + ·)
  | .wide => outlines.wide.map ((⟨stop.x - (stop.y - start.y), start.y⟩ : Point K) + ·)

/-- Cuts the curve off at its point nearest to `start`, if it does not begin to the right of it. -/
def cutStart (nearest : Cubic K → Point K → K) (start : Point K) (curve : Cubic K) : Cubic K :=
  if curve.p0.x ≤ start.x then
    ((curve.split (nearest curve start)).2.round).withStart start
  else curve

/-- Cuts the curve off at its point nearest to `stop`, if it does not end above it. -/
def cutStop (nearest : Cubic K → Point K → K) (stop : Point K) (curve : Cubic K) : Cubic K :=
  if stop.y ≤ curve.p3.y then ((curve.split (nearest curve stop)).1.round).withStop stop
  else curve

def filler (start stop : Point K) : Path K := if start == stop then [] else [.straight start stop]

def fill (start stop : Point K) (curve : Cubic K) : Path K :=
  filler start curve.p0 ++ .curved curve :: filler curve.p3 stop

/-- The path of a base bend. Its second station lies below and to the right of the first. -/
def ofBase (nearest : Cubic K → Point K → K) (outlines : Outlines K) (base : BaseBend)
    (start stop : Point K) : Except (BendFault K) (Path K) :=
  if stop.x - start.x ≤ 0 ∨ stop.y - start.y ≤ 0 then .error (.misplaced start stop)
  else
    .ok (fill start stop
      (cutStop nearest stop (cutStart nearest start (anchored outlines base start stop))))

/-- The path of a canonical bend: its stations are mirrored onto those of a base bend, and the path
between these is mirrored back. -/
def ofCanonical (nearest : Cubic K → Point K → K) (outlines : Outlines K) (bend : Bend)
    (start stop : Point K) : Except (BendFault K) (Path K) :=
  match Reduction.ofBend? bend with
  | none => .error (.notReducible bend)
  | some reduction => do
      let mirrors := reduction.flips.map (Flip.about start)
      let path ← ofBase nearest outlines reduction.base start (Mirror.applyAll mirrors stop)
      .ok (mirrors.foldr (fun mirror path => Path.reflect path mirror) path)

/-- The path of a bend that turns. One that is not canonical is drawn from its second station. -/
def ofTurn (nearest : Cubic K → Point K → K) (outlines : Outlines K) (bend : Bend)
    (start stop : Point K) : Except (BendFault K) (Path K) :=
  match bend.canonicalize? with
  | none => .error (.notCanonical bend)
  | some (canonical, true) => do
      let path ← ofCanonical nearest outlines canonical stop start
      .ok (Path.round (Path.reversed path))
  | some (canonical, false) => do
      let path ← ofCanonical nearest outlines canonical start stop
      .ok (Path.round path)

def draw (nearest : Cubic K → Point K → K) (outlines : Outlines K) (bend : Bend)
    (start stop : Point K) : Except (BendFault K) (Path K) :=
  match bend.kind? with
  | none => .error (.notDrawable bend)
  | some .straight => .ok [.straight start stop]
  | some .sharp | some .wide => ofTurn nearest outlines bend start stop

end BendPath

end TransitMap
