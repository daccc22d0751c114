import TransitMap.Layout.LinearSystem
import TransitMap.Plane.Cubic

/-!
Curves alongside a curve, on the side it turns away from. Points at the right distance are sampled,
and two cubics are fitted to them by least squares.
-/

namespace TransitMap

inductive OffsetFault where
  | noTurn
  | degenerateSamples
  | refused (reason : String)
  deriving DecidableEq, Repr

/-- A way to find curves at a distance outside a curve, one after another in its direction. -/
abbrev OffsetFitter (K : Type) := Cubic K → K → Except OffsetFault (List (Cubic K))

namespace Offset

variable [Scalar K]

/-- One for a curve that turns towards its normal, minus one for the other way, and none for a curve
that does not turn. The directions at the ends decide where the middle is not bent. -/
def turn? (length : Point K → K) (curve : Cubic K) : Option K :=
  let curvature := curve.curvature length (1 / 2)
  let turn :=
    if curvature == 0 then (curve.p1 - curve.p0).cross (curve.p3 - curve.p2) else curvature
  if 0 < turn then some 1 else if turn < 0 then some (-1) else none

def displaced (length : Point K → K) (curve : Cubic K) (distance t : K) : Point K :=
  curve.eval t + (curve.unitNormal length t).scale distance

def samples (length : Point K → K) (curve : Cubic K) (distance : K) (intervals : Nat) :
    List (Point K) :=
  (List.range (intervals + 1)).map fun i =>
    displaced length curve distance (Scalar.ofNat i / Scalar.ofNat intervals)

def travelled (distance : Point K → Point K → K) (way : K) : List (Point K) → List K
  | first :: second :: rest =>
      let way := way + distance first second
      way :: travelled distance way (second :: rest)
  | _ => []

def weight0 (t : K) : K := (1 - t) * (1 - t) * (1 - t)

def weight1 (t : K) : K := 3 * (1 - t) * (1 - t) * t

def weight2 (t : K) : K := 3 * (1 - t) * t * t

def weight3 (t : K) : K := t * t * t

def sum (values : List K) : K := values.foldl (· + ·) 0

/-- The inner control points of the cubic between `start` and `stop` that is closest to points at
given parameters. -/
def innerPoints? (start stop : Point K) (points : List (K × Point K)) :
    Option (Point K × Point K) := do
  let total (term : K → Point K → K) : K :=
    sum (points.map fun entry =>
      term entry.1 (entry.2 - start.scale (weight0 entry.1) - stop.scale (weight3 entry.1)))
  let mixed := total fun t _ => weight1 t * weight2 t
  let first := [total fun t _ => weight1 t * weight1 t, mixed]
  let second := [mixed, total fun t _ => weight2 t * weight2 t]
  let solve (coordinate : Point K → K) : Option (List K) :=
    LinearSystem.solve?
      [⟨first, total fun t rest => weight1 t * coordinate rest⟩,
        ⟨second, total fun t rest => weight2 t * coordinate rest⟩]
  let [x1, x2] ← solve Point.x | none
  let [y1, y2] ← solve Point.y | none
  some (⟨x1, y1⟩, ⟨x2, y2⟩)

/-- The cubic from the first point to the last that is closest to those between at parameters in
proportion to the way travelled. -/
def fit (distance : Point K → Point K → K) (points : List (Point K)) :
    Except OffsetFault (Cubic K) :=
  match points with
  | [] => .error .degenerateSamples
  | start :: rest =>
      let stop := rest.getLastD start
      let ways := 0 :: travelled distance 0 points
      let whole := ways.getLastD 0
      if whole == 0 then .error .degenerateSamples
      else
        match innerPoints? start stop ((ways.map (· / whole)).zip points) with
        | some (p1, p2) => .ok ⟨start, p1, p2, stop⟩
        | none => .error .degenerateSamples

def leastIntervals : Nat := 8

def intervals (samples : Nat) : Nat := max samples leastIntervals

/-- Fits one cubic to each half of the samples; the middle sample belongs to both. -/
def fitter (length : Point K → K) (distance : Point K → Point K → K) (intervals : Nat) :
    OffsetFitter K := fun curve outside =>
  match turn? length curve with
  | none => .error .noTurn
  | some turn => do
      let points := samples length curve (-turn * outside) intervals
      let first ← fit distance (points.take (intervals / 2 + 1))
      let second ← fit distance (points.drop (intervals / 2))
      .ok [first, second]

end Offset

end TransitMap
