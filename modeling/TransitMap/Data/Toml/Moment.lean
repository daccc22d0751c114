import TransitMap.Text.Integer
import TransitMap.Text.Split

namespace TransitMap.Toml

def isNumber (width least greatest : Nat) (text : List Char) : Bool :=
  text.length == width && text.all Char.isDigit &&
    decide (least ≤ Text.ofDigits text ∧ Text.ofDigits text ≤ greatest)

def isLeapYear (year : Nat) : Bool := year % 4 == 0 && (year % 100 != 0 || year % 400 == 0)

def daysOf (year month : Nat) : Nat :=
  match month with
  | 2 => if isLeapYear year then 29 else 28
  | 4 | 6 | 9 | 11 => 30
  | _ => 31

def isDate (text : List Char) : Bool :=
  match Text.pieces '-' text with
  | [year, month, day] =>
      isNumber 4 0 9999 year && isNumber 2 1 12 month &&
        isNumber 2 1 (daysOf (Text.ofDigits year) (Text.ofDigits month)) day
  | _ => false

def isSeconds (text : List Char) : Bool :=
  match Text.pieces '.' text with
  | [whole] => isNumber 2 0 60 whole
  | [whole, fraction] => isNumber 2 0 60 whole && !fraction.isEmpty && fraction.all Char.isDigit
  | _ => false

/-- Whether a text is a time of day, whose seconds may be left out. -/
def isTime (text : List Char) : Bool :=
  match Text.pieces ':' text with
  | [hour, minute] => isNumber 2 0 23 hour && isNumber 2 0 59 minute
  | [hour, minute, seconds] => isNumber 2 0 23 hour && isNumber 2 0 59 minute && isSeconds seconds
  | _ => false

def isOffset : List Char → Bool
  | [] | ['Z'] | ['z'] => true
  | sign :: size =>
      match Text.pieces ':' size with
      | [hours, minutes] =>
          (sign == '+' || sign == '-') && isNumber 2 0 23 hours && isNumber 2 0 59 minutes
      | _ => false

def isOffsetTime (text : List Char) : Bool :=
  let ofTime (c : Char) : Bool := c.isDigit || c == ':' || c == '.'
  isTime (text.takeWhile ofTime) && isOffset (text.dropWhile ofTime)

def isMoment (text : List Char) : Bool :=
  isDate text || isTime text ||
    match text.drop 10 with
    | mark :: time =>
        isDate (text.take 10) && (mark == 'T' || mark == 't' || mark == ' ') && isOffsetTime time
    | [] => false

end TransitMap.Toml
