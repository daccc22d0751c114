import TransitMap.Scalar

namespace TransitMap

/-- An identifier that wins over the station file. -/
structure IdentifierOverride where
  line : String
  station : String
  identifier : String
  deriving DecidableEq, Repr

structure Settings (K : Type) where
  scaleFactor : K
  lineWidth : Nat
  /-- How much the sketched place of an alignment point counts, where that of a station counts
  one. -/
  alignmentPointWeight : K
  /-- The length of an endpoint bar in line widths. -/
  lengthFactor : K
  offsetSamples : Nat
  overrides : List IdentifierOverride
  deriving DecidableEq, Repr

def Settings.greatestWidth : Int := 4294967295

/-- The first setting out of its range. -/
inductive SettingsFault (K : Type) where
  | scaleFactor (value : K)
  | lineWidth (value : Nat)
  | alignmentPointWeight (value : K)
  | lengthFactor (value : K)
  | offsetSamples (value : Nat)
  deriving DecidableEq, Repr

namespace Settings

variable [Scalar K]

def default : Settings K := ⟨5, 50, 1 / 100, 3, 64, []⟩

def width (settings : Settings K) : K := Scalar.ofNat settings.lineWidth

def leastOffsetSamples : Nat := 8

def isPositive (value : K) : Bool := Scalar.isFinite value && decide (0 < value)

def fault? (settings : Settings K) : Option (SettingsFault K) :=
  let weight := settings.alignmentPointWeight
  if !isPositive settings.scaleFactor then some (.scaleFactor settings.scaleFactor)
  else if settings.lineWidth = 0 ∨ settings.lineWidth % 2 ≠ 0 then
    some (.lineWidth settings.lineWidth)
  else if ¬(0 < weight ∧ weight < 1) then some (.alignmentPointWeight weight)
  else if !isPositive settings.lengthFactor then some (.lengthFactor settings.lengthFactor)
  else if settings.offsetSamples < leastOffsetSamples then
    some (.offsetSamples settings.offsetSamples)
  else none

end Settings

end TransitMap
