import TransitMap.Data.Value
import TransitMap.Decimal.Scaled
import TransitMap.Text.Integer

/-!
Reading JSON. The grammar is the strict one: no comma at the end of a list, no control character in
a text, and nothing behind the value.
-/

namespace TransitMap.Json

def isSpace (c : Char) : Bool := c == ' ' || c == '\t' || c == '\n' || c == '\r'

def skipSpace (text : List Char) : List Char := text.dropWhile isSpace

/-- The greatest significand a number keeps. -/
def significandLimit : Nat := 18446744073709551615

def digit (c : Char) : Nat := c.toNat - '0'.toNat

/-- Digits before the point: those that fit the significand, and the number of the others. -/
def integerDigits (significand : Nat) : List Char → Nat × Nat
  | [] => (significand, 0)
  | c :: rest =>
      if significand * 10 + digit c ≤ significandLimit then
        integerDigits (significand * 10 + digit c) rest
      else (significand, rest.length + 1)

/-- Digits behind the point: those that fit the significand together with it, and their number. -/
def fractionDigits (significand used : Nat) : List Char → Nat × Nat
  | [] => (significand, used)
  | c :: rest =>
      if significand * 10 + digit c ≤ significandLimit then
        fractionDigits (significand * 10 + digit c) (used + 1) rest
      else (significand, used)

structure Numeral where
  negative : Bool
  whole : List Char
  fraction : Option (List Char)
  /-- The digits of the exponent, and whether it is negative. -/
  exponent : Option (Bool × List Char)
  deriving Repr

/-- A numeral without point and exponent that fits 64 bits stands for a whole number, any other but
`-0` for a double. -/
def Numeral.value (numeral : Numeral) : Value :=
  let (significand, dropped) := integerDigits 0 numeral.whole
  let isWhole := numeral.fraction.isNone && numeral.exponent.isNone && dropped == 0
  let least : Int := -9223372036854775808
  let signed : Int := if numeral.negative then -(significand : Int) else significand
  if isWhole && (!numeral.negative || (significand != 0 && decide (least ≤ signed))) then
    .whole signed
  else
    let (significand, used) := fractionDigits significand 0 (numeral.fraction.getD [])
    let shift : Int :=
      match numeral.exponent with
      | none => 0
      | some (true, digits) => -(Text.ofDigits digits : Int)
      | some (false, digits) => Text.ofDigits digits
    match Decimal.scaled? significand (dropped - used + shift) with
    | some size => .real (if numeral.negative then -size else size)
    | none => .unreadable

def someDigits? (text : List Char) : Option (List Char × List Char) :=
  match text.takeWhile Char.isDigit with
  | [] => none
  | digits => some (digits, text.dropWhile Char.isDigit)

def numeral? (text : List Char) : Option (Numeral × List Char) := do
  let (negative, text) :=
    match text with
    | '-' :: rest => (true, rest)
    | other => (false, other)
  let (whole, text) ← someDigits? text
  if whole.length > 1 && whole.head? == some '0' then none
  else
    let (fraction, text) ←
      match text with
      | '.' :: rest => (someDigits? rest).map fun (digits, rest) => (some digits, rest)
      | other => some (none, other)
    let (exponent, text) ←
      match text with
      | 'e' :: rest | 'E' :: rest =>
          let (sign, rest) :=
            match rest with
            | '-' :: rest => (true, rest)
            | '+' :: rest => (false, rest)
            | other => (false, other)
          (someDigits? rest).map fun (digits, rest) => (some (sign, digits), rest)
      | other => some (none, other)
    some (⟨negative, whole, fraction, exponent⟩, text)

def hexDigit? (c : Char) : Option Nat :=
  if c.isDigit then some (digit c)
  else if 'a' ≤ c ∧ c ≤ 'f' then some (c.toNat - 'a'.toNat + 10)
  else if 'A' ≤ c ∧ c ≤ 'F' then some (c.toNat - 'A'.toNat + 10)
  else none

def codeUnit? (a b c d : Char) : Option Nat := do
  let a ← hexDigit? a
  let b ← hexDigit? b
  let c ← hexDigit? c
  let d ← hexDigit? d
  some (((a * 16 + b) * 16 + c) * 16 + d)

def isLeading (unit : Nat) : Bool := 0xD800 ≤ unit && unit ≤ 0xDBFF

def isTrailing (unit : Nat) : Bool := 0xDC00 ≤ unit && unit ≤ 0xDFFF

def push (c : Char) (read : Option (List Char) × List Char) : Option (List Char) × List Char :=
  (read.1.map (c :: ·), read.2)

def escape? : Char → Option Char
  | '"' => some '"'
  | '\\' => some '\\'
  | '/' => some '/'
  | 'b' => some '\x08'
  | 'f' => some '\x0c'
  | 'n' => some '\n'
  | 'r' => some '\r'
  | 't' => some '\t'
  | _ => none

/-- The text up to the closing quote and what follows that. Half of a surrogate pair makes the text
unreadable but does not end it. -/
def textBody : Nat → List Char → Option (Option (List Char) × List Char)
  | 0, _ | _, [] => none
  | _ + 1, '"' :: rest => some (some [], rest)
  | fuel + 1, '\\' :: 'u' :: a :: b :: c :: d :: rest => do
      let unit ← codeUnit? a b c d
      let single := if isLeading unit || isTrailing unit then none else some (Char.ofNat unit)
      let pair : Option (Char × List Char) :=
        match rest with
        | '\\' :: 'u' :: e :: f :: g :: h :: after => do
            let second ← codeUnit? e f g h
            if isLeading unit && isTrailing second then
              some (Char.ofNat (0x10000 + (unit - 0xD800) * 0x400 + (second - 0xDC00)), after)
            else none
        | _ => none
      match single, pair with
      | some c, _ => (textBody fuel rest).map (push c)
      | none, some (c, after) => (textBody fuel after).map (push c)
      | none, none => (textBody fuel rest).map fun read => (none, read.2)
  | fuel + 1, '\\' :: c :: rest => do
      let escaped ← escape? c
      (textBody fuel rest).map (push escaped)
  | fuel + 1, c :: rest =>
      if c.toNat < 0x20 || c == '\\' then none else (textBody fuel rest).map (push c)

def text? (rest : List Char) : Option (Option String × List Char) :=
  (textBody (rest.length + 1) rest).map fun read => (read.1.map String.ofList, read.2)

def word? (word : String) (text : List Char) : Option (List Char) :=
  if word.toList.isPrefixOf text then some (text.drop word.length) else none

/-- The record of entries; it is unreadable if one of its names is. -/
def recordOf (entries : List (Option String × Value)) : Value :=
  match entries.mapM fun entry => entry.1.map fun name => (name, entry.2) with
  | some fields => .record fields
  | none => .unreadable

mutual

/-- The value a text starts with. The fuel bounds the number of values. -/
def value? : Nat → List Char → Option (Value × List Char)
  | 0, _ => none
  | fuel + 1, text =>
      match skipSpace text with
      | '"' :: rest =>
          (text? rest).map fun (read, rest) => (read.elim .unreadable .text, rest)
      | '[' :: rest =>
          match skipSpace rest with
          | ']' :: rest => some (.list [], rest)
          | rest => (items? fuel rest).map fun (items, rest) => (.list items, rest)
      | '{' :: rest =>
          match skipSpace rest with
          | '}' :: rest => some (.record [], rest)
          | rest => (entries? fuel rest).map fun (entries, rest) => (recordOf entries, rest)
      | 't' :: rest => (word? "rue" rest).map fun rest => (.flag true, rest)
      | 'f' :: rest => (word? "alse" rest).map fun rest => (.flag false, rest)
      | 'n' :: rest => (word? "ull" rest).map fun rest => (.null, rest)
      | other => (numeral? other).map fun (numeral, rest) => (numeral.value, rest)

def items? : Nat → List Char → Option (List Value × List Char)
  | 0, _ => none
  | fuel + 1, text => do
      let (value, rest) ← value? fuel text
      match skipSpace rest with
      | ']' :: rest => some ([value], rest)
      | ',' :: rest => do
          let (values, rest) ← items? fuel rest
          some (value :: values, rest)
      | _ => none

def entries? : Nat → List Char → Option (List (Option String × Value) × List Char)
  | 0, _ => none
  | fuel + 1, text =>
      match skipSpace text with
      | '"' :: rest => do
          let (name, rest) ← text? rest
          match skipSpace rest with
          | ':' :: rest => do
              let (value, rest) ← value? fuel rest
              match skipSpace rest with
              | '}' :: rest => some ([(name, value)], rest)
              | ',' :: rest => do
                  let (entries, rest) ← entries? fuel rest
                  some ((name, value) :: entries, rest)
              | _ => none
          | _ => none
      | _ => none

end

def read? (text : String) : Option Value := do
  let chars := text.toList
  let (value, rest) ← value? (2 * chars.length + 2) chars
  if (skipSpace rest).isEmpty then some value else none

end TransitMap.Json
