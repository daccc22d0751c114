/-!
Dots in names. A backslash before a dot takes it: it then belongs to the name.
-/

namespace TransitMap.Text

/-- A name in which each dot with a backslash stands for the dot alone. -/
def unescape : List Char → List Char
  | '\\' :: '.' :: rest => '.' :: unescape rest
  | c :: rest => c :: unescape rest
  | [] => []

/-- The places, counted in characters from `position`, of the dots that no backslash takes. -/
def openDots (escaped : Bool) (position : Nat) : List Char → List Nat
  | [] => []
  | c :: rest =>
      if c = '\\' then openDots (!escaped) (position + 1) rest
      else if c = '.' && !escaped then position :: openDots false (position + 1) rest
      else openDots false (position + 1) rest

/-- The place of the only dot that no backslash takes. -/
def openDot? (text : List Char) : Option Nat :=
  match openDots false 0 text with
  | [position] => some position
  | _ => none

end TransitMap.Text
