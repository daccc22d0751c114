import TransitMap.Decimal.Scaled
import TransitMap.Text.Integer

namespace TransitMap.Decimal

def digits (text : List Char) : List Char × List Char :=
  (text.takeWhile Char.isDigit, text.dropWhile Char.isDigit)

def signed : List Char → Bool × List Char
  | '-' :: rest => (true, rest)
  | '+' :: rest => (false, rest)
  | other => (false, other)

def exponent? : List Char → Option Int
  | [] => some 0
  | c :: rest =>
      let (negative, text) := signed rest
      if (c == 'e' || c == 'E') && !text.isEmpty && text.all Char.isDigit then
        some (if negative then -(Text.ofDigits text : Int) else Text.ofDigits text)
      else none

/-- A size in digits, with a point before, between or behind them and an exponent. -/
def numeral? (text : List Char) : Option Float := do
  let (whole, rest) := digits text
  let (fraction, rest) :=
    match rest with
    | '.' :: rest => digits rest
    | other => ([], other)
  if whole.isEmpty && fraction.isEmpty then none
  else do
    let exponent ← exponent? rest
    some (nearest (Text.ofDigits (whole ++ fraction)) (exponent - fraction.length))

def size? (text : List Char) : Option Float :=
  let word := String.ofList (text.map Char.toLower)
  if word == "inf" || word == "infinity" then some (1.0 / 0.0)
  else if word == "nan" then some (0.0 / 0.0)
  else numeral? text

def real? (text : List Char) : Option Float :=
  let (negative, rest) := signed text
  (size? rest).map fun size => if negative then -size else size

end TransitMap.Decimal
