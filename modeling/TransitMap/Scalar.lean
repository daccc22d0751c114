/-!
The numbers a map is laid out and drawn with. The geometry is written once over `Scalar`: doubles
draw maps, and rationals carry the same computations out exactly.
-/

namespace TransitMap

/-- A field of coordinates with an order and roundings to whole numbers. -/
class Scalar (K : Type) extends Add K, Sub K, Mul K, Div K, Neg K, LT K, LE K, BEq K where
  decidableLT : DecidableLT K
  decidableLE : DecidableLE K
  ofInt : Int → K
  isFinite : K → Bool
  /-- The nearest whole number; a half goes away from zero. -/
  round : K → K
  /-- The nearest whole number, held within the signed 64-bit integers. -/
  toGrid : K → Int
  /-- The side of the square with this diagonal, rounded down. -/
  floorSide : K → K
  /-- The side of the square with this diagonal, rounded to the nearest whole number. -/
  roundSide : K → K

namespace Scalar

instance [Scalar K] : DecidableLT K := Scalar.decidableLT

instance [Scalar K] : DecidableLE K := Scalar.decidableLE

def ofNat [Scalar K] (value : Nat) : K := Scalar.ofInt value

def abs [Scalar K] (value : K) : K :=
  if value < Scalar.ofNat 0 then -value else value

/-- The order of the numbers, with a value that differs from itself before all of them. -/
def before [Scalar K] (left right : K) : Bool :=
  if left == left then right == right && decide (left < right) else right == right

def rootTwo : Float := 1.4142135623730951

instance : Scalar Float where
  decidableLT := inferInstance
  decidableLE := inferInstance
  ofInt := Float.ofInt
  isFinite := Float.isFinite
  round := Float.round
  toGrid value := value.round.toInt64.toInt
  floorSide value := (value / rootTwo).floor
  roundSide value := (value / rootTwo).round

def leastGrid : Int := -9223372036854775808

def greatestGrid : Int := 9223372036854775807

def nearest (value : Rat) : Int :=
  if value < 0 then -(1 / 2 - value).floor else (value + 1 / 2).floor

/-- The whole part of `value / √2`, for a value that is not negative. -/
def sideFloor (value : Rat) : Nat :=
  (value * value / 2).floor.toNat.sqrt

def sideNearest (value : Rat) : Nat :=
  ((value * value * 2).floor.toNat.sqrt + 1) / 2

instance : Scalar Rat where
  decidableLT := inferInstance
  decidableLE := inferInstance
  ofInt value := value
  isFinite _ := true
  round value := nearest value
  toGrid value := max leastGrid (min greatestGrid (nearest value))
  floorSide value :=
    if value < 0 then -((sideFloor (-value) + 1 : Nat) : Rat) else (sideFloor value : Nat)
  roundSide value :=
    if value < 0 then -((sideNearest (-value) : Nat) : Rat) else (sideNearest value : Nat)

end Scalar

/-- Whole-number literals of any scalar that has none of its own. -/
scoped instance (priority := 50) scalarLiteral [Scalar K] (n : Nat) : OfNat K n :=
  ⟨Scalar.ofNat n⟩

end TransitMap
