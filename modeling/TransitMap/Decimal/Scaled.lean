namespace TransitMap.Decimal

def greatestPower : Nat := 308

def power (exponent : Nat) : Float := Float.ofScientific 1 false exponent

def lowered (value : Float) (exponent : Nat) : Float :=
  if exponent ≤ greatestPower then value / power exponent
  else if value == 0 then value
  else lowered (value / power greatestPower) (exponent - greatestPower)
  termination_by exponent
  decreasing_by
    simp_wf
    simp only [greatestPower] at *
    omega

/-- A significand times a power of ten by a single rounded multiplication or division, unless that
is beyond all doubles. -/
def scaled? (significand : Nat) (exponent : Int) : Option Float :=
  let value := Float.ofNat significand
  match exponent with
  | .negSucc below => some (lowered value (below + 1))
  | .ofNat exponent =>
      if exponent ≤ greatestPower then
        let product := value * power exponent
        if product.isInf then none else some product
      else if significand = 0 then some value
      else none

def nearest (significand : Nat) (exponent : Int) : Float :=
  let magnitude : Int := (Nat.toDigits 10 significand).length + exponent
  if significand = 0 || magnitude < -400 then 0
  else if magnitude > 400 then 1.0 / 0.0
  else
    match exponent with
    | .ofNat exponent => Float.ofScientific significand false exponent
    | .negSucc below => Float.ofScientific significand true (below + 1)

end TransitMap.Decimal
