import TransitMap.Plane.Cubic
import TransitMap.Plane.Length

/-!
The parameter of the point of a curve that is nearest to a target. The curve is sampled at 65
parameters, and the bracket around the best sample is narrowed by interval division.
-/

namespace TransitMap

structure Bracket (K : Type) where
  low : K
  high : K
  deriving DecidableEq, Repr

namespace Bracket

variable [Scalar K]

def width (bracket : Bracket K) : K := bracket.high - bracket.low

def middle (bracket : Bracket K) : K := (bracket.low + bracket.high) / 2

/-- Drops the outer part on the side where `measure` is larger. -/
def shrink (ratio : K) (measure : K → K) (bracket : Bracket K) : Bracket K :=
  let inner := bracket.high - ratio * bracket.width
  let outer := bracket.low + ratio * bracket.width
  if measure inner < measure outer then ⟨bracket.low, outer⟩ else ⟨inner, bracket.high⟩

/-- Shrinks while the bracket is wider than the tolerance. With a ratio between zero and one this
comes to an end. -/
def narrow (ratio tolerance : K) (measure : K → K) (bracket : Bracket K) : Bracket K := Id.run do
  let mut narrowed := bracket
  while tolerance < narrowed.width do
    narrowed := narrowed.shrink ratio measure
  return narrowed

end Bracket

namespace Cubic

variable [Scalar K]

def sampleIntervals : Nat := 64

def nearestTolerance : K := 1 / Scalar.ofNat 1000000000

/-- The first of the parameters at which `measure` is least, starting from `best`. -/
def leastParameter (measure : K → K) (best : K) : List K → K
  | [] => best
  | t :: rest =>
      leastParameter measure (if Scalar.before (measure t) (measure best) then t else best) rest

def sampleStep : K := 1 / Scalar.ofNat sampleIntervals

def samples : List K :=
  (List.range (sampleIntervals + 1)).map fun i => Scalar.ofNat i * sampleStep

def bestSample (measure : K → K) : K := leastParameter measure 0 samples

/-- The parameters at most one step away from `sample`, within the curve. -/
def bracketAround (sample : K) : Bracket K :=
  let low := sample - sampleStep
  let high := sample + sampleStep
  ⟨if low < 0 then 0 else low, if 1 < high then 1 else high⟩

/-- The parameter at which the curve is nearest to `target`. The search keeps the part `ratio` of
its bracket in each step. -/
def nearest (ratio : K) (distance : Point K → Point K → K) (cubic : Cubic K) (target : Point K) :
    K :=
  let measure t := distance (cubic.eval t) target
  ((bracketAround (bestSample measure)).narrow ratio nearestTolerance measure).middle

def goldenRatio : Float := (Float.sqrt 5 - 1) / 2

def closestParameter (cubic : Cubic Float) (target : Point Float) : Float :=
  cubic.nearest goldenRatio Point.distance target

end Cubic

end TransitMap
