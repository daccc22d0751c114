import TransitMap.Plane.Mirror

namespace TransitMap

structure Cubic (K : Type) where
  p0 : Point K
  p1 : Point K
  p2 : Point K
  p3 : Point K
  deriving DecidableEq, BEq, ReflBEq, LawfulBEq, Repr

namespace Cubic

def points (cubic : Cubic K) : List (Point K) := [cubic.p0, cubic.p1, cubic.p2, cubic.p3]

def map (f : Point K → Point L) (cubic : Cubic K) : Cubic L :=
  ⟨f cubic.p0, f cubic.p1, f cubic.p2, f cubic.p3⟩

def withStart (cubic : Cubic K) (start : Point K) : Cubic K := { cubic with p0 := start }

def withStop (cubic : Cubic K) (stop : Point K) : Cubic K := { cubic with p3 := stop }

def reversed (cubic : Cubic K) : Cubic K := ⟨cubic.p3, cubic.p2, cubic.p1, cubic.p0⟩

@[simp] theorem reversed_reversed (cubic : Cubic K) : cubic.reversed.reversed = cubic := rfl

@[simp] theorem reversed_map (f : Point K → Point L) (cubic : Cubic K) :
    (cubic.map f).reversed = cubic.reversed.map f := rfl

variable [Scalar K]

def translate (cubic : Cubic K) (offset : Point K) : Cubic K := cubic.map (· + offset)

def round (cubic : Cubic K) : Cubic K := cubic.map Point.round

def eval (cubic : Cubic K) (t : K) : Point K :=
  let s := 1 - t
  cubic.p0.scale (s * s * s) + cubic.p1.scale (3 * s * s * t) + cubic.p2.scale (3 * s * t * t)
    + cubic.p3.scale (t * t * t)

def derivative (cubic : Cubic K) (t : K) : Point K :=
  let s := 1 - t
  (cubic.p1 - cubic.p0).scale (3 * s * s) + (cubic.p2 - cubic.p1).scale (6 * s * t)
    + (cubic.p3 - cubic.p2).scale (3 * t * t)

def secondDerivative (cubic : Cubic K) (t : K) : Point K :=
  let first := cubic.p2 - cubic.p1.scale 2 + cubic.p0
  let second := cubic.p3 - cubic.p2.scale 2 + cubic.p1
  first.scale (6 * (1 - t)) + second.scale (6 * t)

/-- The signed curvature, positive where the curve turns towards `(-dy, dx)`, and zero where the
tangent vanishes. -/
def curvature (length : Point K → K) (cubic : Cubic K) (t : K) : K :=
  let tangent := cubic.derivative t
  let speed := length tangent
  if speed == 0 then 0
  else tangent.cross (cubic.secondDerivative t) / (speed * speed * speed)

/-- The unit vector `(-dy, dx)` of the tangent, of the chord where the tangent vanishes, and zero
where both do. -/
def unitNormal (length : Point K → K) (cubic : Cubic K) (t : K) : Point K :=
  let tangent :=
    if length (cubic.derivative t) == 0 then cubic.p3 - cubic.p0 else cubic.derivative t
  let size := length tangent
  if size == 0 then ⟨0, 0⟩ else ⟨-tangent.y / size, tangent.x / size⟩

def lerp (t : K) (left right : Point K) : Point K := left + (right - left).scale t

def split (cubic : Cubic K) (t : K) : Cubic K × Cubic K :=
  let p01 := lerp t cubic.p0 cubic.p1
  let p12 := lerp t cubic.p1 cubic.p2
  let p23 := lerp t cubic.p2 cubic.p3
  let p012 := lerp t p01 p12
  let p123 := lerp t p12 p23
  let middle := lerp t p012 p123
  (⟨cubic.p0, p01, p012, middle⟩, ⟨middle, p123, p23, cubic.p3⟩)

end Cubic

end TransitMap
