import TransitMap.Data.Toml.Moment
import TransitMap.Data.Value
import TransitMap.Decimal.Scaled

namespace TransitMap.Toml

def digits? (isDigit : Char → Bool) : List Char → Option (List Char)
  | [] => none
  | [c] => if isDigit c then some [c] else none
  | c :: '_' :: rest => if isDigit c then (digits? isDigit rest).map (c :: ·) else none
  | c :: rest => if isDigit c then (digits? isDigit rest).map (c :: ·) else none

def digitValue (c : Char) : Nat :=
  if c.isDigit then c.toNat - '0'.toNat
  else if c.isLower then c.toNat - 'a'.toNat + 10
  else c.toNat - 'A'.toNat + 10

def isHexDigit (c : Char) : Bool :=
  c.isDigit || ('a' ≤ c && c ≤ 'f') || ('A' ≤ c && c ≤ 'F')

def isBetween (first last : Char) (c : Char) : Bool := first ≤ c && c ≤ last

def ofDigits (base : Nat) (digits : List Char) : Nat :=
  digits.foldl (fun value c => value * base + digitValue c) 0

def signed : List Char → Bool × List Char
  | '-' :: rest => (true, rest)
  | '+' :: rest => (false, rest)
  | other => (false, other)

def decimal? (text : List Char) : Option (List Char) :=
  match digits? Char.isDigit text with
  | some ('0' :: _ :: _) => none
  | other => other

def natural? : List Char → Option Nat
  | '0' :: 'x' :: rest => ofDigits 16 <$> digits? isHexDigit rest
  | '0' :: 'o' :: rest => ofDigits 8 <$> digits? (isBetween '0' '7') rest
  | '0' :: 'b' :: rest => ofDigits 2 <$> digits? (isBetween '0' '1') rest
  | _ => none

/-- A whole number of any size. Only decimal numerals may have a sign. -/
def integer? (text : List Char) : Option Int :=
  match natural? text with
  | some value => some value
  | none =>
      let (negative, rest) := signed text
      (decimal? rest).map fun digits =>
        if negative then -(Text.ofDigits digits : Int) else Text.ofDigits digits

def splitExponent (text : List Char) : List Char × Option (List Char) :=
  match text.dropWhile fun c => c != 'e' && c != 'E' with
  | [] => (text, none)
  | _ :: exponent => (text.takeWhile fun c => c != 'e' && c != 'E', some exponent)

def splitFraction (text : List Char) : List Char × Option (List Char) :=
  match text.dropWhile (· != '.') with
  | [] => (text, none)
  | _ :: fraction => (text.takeWhile (· != '.'), some fraction)

/-- A number with a point or an exponent; infinite, if it is beyond all doubles. -/
def decimalReal? (text : List Char) : Option Float := do
  let (mantissa, exponent) := splitExponent text
  let (whole, fraction) := splitFraction mantissa
  if exponent.isNone && fraction.isNone then none
  else do
    let whole ← decimal? whole
    let fraction ← match fraction with
      | none => some []
      | some fraction => digits? Char.isDigit fraction
    let exponent : Int ← match exponent with
      | none => some 0
      | some exponent =>
          let (negative, exponent) := signed exponent
          (digits? Char.isDigit exponent).map fun digits =>
            if negative then -(Text.ofDigits digits : Int) else Text.ofDigits digits
    some (Decimal.nearest (Text.ofDigits (whole ++ fraction)) (exponent - fraction.length))

/-- A number that is no whole number by its spelling. One beyond all doubles has no value. -/
def real? (text : List Char) : Option Value :=
  let (negative, rest) := signed text
  let withSign (size : Float) : Value := .real (if negative then -size else size)
  if rest = ['i', 'n', 'f'] then some (withSign (1.0 / 0.0))
  else if rest = ['n', 'a', 'n'] then some (withSign (0.0 / 0.0))
  else (decimalReal? rest).map fun size => if size.isInf then .unreadable else withSign size

/-- The value of a scalar. Of dates and times no more is kept than that they have no fields. -/
def scalar? (text : List Char) : Option Value :=
  if text = "true".toList then some (.flag true)
  else if text = "false".toList then some (.flag false)
  else if isMoment text then some (.record [])
  else
    match integer? text with
    | some value => some (.whole value)
    | none => real? text

end TransitMap.Toml
