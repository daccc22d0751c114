namespace TransitMap.Text

def ofDigits (digits : List Char) : Nat :=
  digits.foldl (fun total c => total * 10 + (c.toNat - '0'.toNat)) 0

def integer? (least greatest : Int) (text : List Char) : Option Int :=
  let (negative, digits) :=
    match text with
    | '-' :: digits => (true, digits)
    | '+' :: digits => (false, digits)
    | digits => (false, digits)
  if digits.isEmpty || !digits.all Char.isDigit then none
  else
    let value : Int := if negative then -(ofDigits digits : Int) else ofDigits digits
    if least ≤ value ∧ value ≤ greatest then some value else none

end TransitMap.Text
