/-!
The shortest decimals of doubles: of all decimals that read back as the double, those with the
fewest digits, and of these the nearest.
-/

namespace TransitMap.Decimal

def tenTo (power : Nat) : Nat := Nat.pow 10 power

def twoTo (power : Nat) : Nat := Nat.pow 2 power

/-- The reals that round to a double, in units of `1 / denominator`. -/
structure Neighbourhood where
  value : Nat
  low : Nat
  high : Nat
  denominator : Nat
  closed : Bool
  deriving Repr

namespace Neighbourhood

/-- The reals that round to `significand * 2 ^ exponent`. Below a power of two doubles are closer to
each other than above it, as `narrow` says. -/
def around (significand : Nat) (exponent : Int) (narrow : Bool) : Neighbourhood :=
  let unit := twoTo exponent.toNat
  let value := 4 * significand * unit
  ⟨value, value - (if narrow then unit else 2 * unit), value + 2 * unit,
    4 * twoTo (-exponent).toNat, significand % 2 == 0⟩

def ofFloat (value : Float) : Neighbourhood :=
  let bits := value.toBits.toNat
  let fraction : Nat := bits % twoTo 52
  let field : Nat := bits / twoTo 52 % twoTo 11
  if field = 0 then around fraction (-1074) false
  else around (twoTo 52 + fraction) ((field : Int) - 1075) (fraction == 0 && field != 1)

def contains (reals : Neighbourhood) (digits : Nat) (power : Int) : Bool :=
  let point := digits * tenTo power.toNat * reals.denominator
  let low := reals.low * tenTo (-power).toNat
  let high := reals.high * tenTo (-power).toNat
  if reals.closed then low ≤ point && point ≤ high else low < point && point < high

def floor (reals : Neighbourhood) (power : Int) : Nat :=
  reals.value * tenTo (-power).toNat / (reals.denominator * tenTo power.toNat)

def isLowerHalf (reals : Neighbourhood) (digits : Nat) (power : Int) : Bool :=
  2 * reals.value * tenTo (-power).toNat <
    (2 * digits + 1) * (reals.denominator * tenTo power.toNat)

/-- The nearest decimal with this power of ten that rounds to the double, the upper one of two. -/
def digits? (reals : Neighbourhood) (power : Int) : Option Nat :=
  let lower := reals.floor power
  let lowerFits := lower != 0 && reals.contains lower power
  let upperFits := reals.contains (lower + 1) power
  if lowerFits && (!upperFits || reals.isLowerHalf lower power) then some lower
  else if upperFits then some (lower + 1)
  else none

def search (reals : Neighbourhood) : Nat → Int → Nat × Int
  | 0, power => (reals.floor power, power)
  | powers + 1, power =>
      match reals.digits? power with
      | some digits => (digits, power)
      | none => search reals powers (power - 1)

def digitCount (value : Nat) : Nat := (Nat.toDigits 10 value).length

def beyond (reals : Neighbourhood) : Int :=
  if reals.denominator ≤ reals.value then digitCount (reals.value / reals.denominator)
  else 1 - (digitCount (reals.denominator / reals.value) : Int)

/-- More digits than any double needs, with those of `beyond`. -/
def enoughDigits : Nat := 20

def shortest (reals : Neighbourhood) : Nat × Int := reals.search enoughDigits reals.beyond

end Neighbourhood

def zeros (count : Nat) : String := String.ofList (List.replicate count '0')

def positional (whole : String) (digits : Nat) (power : Int) : String :=
  let shown := Nat.toDigits 10 digits
  match power with
  | .ofNat power => String.ofList shown ++ zeros power ++ whole
  | .negSucc below =>
      let places := below + 1
      if places < shown.length then
        String.ofList (shown.take (shown.length - places)) ++ "." ++
          String.ofList (shown.drop (shown.length - places))
      else "0." ++ zeros (places - shown.length) ++ String.ofList shown

def scientific (digits : Nat) (power : Int) : String :=
  let shown := Nat.toDigits 10 digits
  let fraction := if shown.length ≤ 1 then "" else "." ++ String.ofList (shown.drop 1)
  String.ofList (shown.take 1) ++ fraction ++ "e" ++ toString (power + shown.length - 1)

structure Style where
  whole : String
  isScientific : Float → Bool

def Style.write (style : Style) (value : Float) : String :=
  if value.isNaN then "NaN"
  else
    let sign := if value.toBits >>> 63 == 1 then "-" else ""
    let size :=
      if value.isInf then "inf"
      else if value == 0 then "0" ++ style.whole
      else
        let (digits, power) := (Neighbourhood.ofFloat value).shortest
        if style.isScientific value.abs then scientific digits power
        else positional style.whole digits power
    sign ++ size

def plain : Style := ⟨"", fun _ => false⟩

/-- Coordinates in messages always have a point or an exponent, the latter from `10 ^ 16` on and
below `10 ^ -4`. -/
def explicit : Style := ⟨".0", fun size => size < 1e-4 || 1e16 ≤ size⟩

end TransitMap.Decimal
