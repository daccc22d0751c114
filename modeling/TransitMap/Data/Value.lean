namespace TransitMap

inductive Value where
  | null
  | flag (value : Bool)
  | whole (value : Int)
  | real (value : Float)
  | text (value : String)
  /-- A well-formed spelling of no value: a number beyond all doubles, a text with half of a surrogate
  pair, or a record with such a name. It may stand where nothing is read. -/
  | unreadable
  | list (items : List Value)
  /-- Fields in the order of the file, with repetitions. -/
  | record (fields : List (String × Value))
  deriving Repr, Inhabited

namespace Value

def whole? (least greatest : Int) : Value → Option Int
  | whole value => if least ≤ value ∧ value ≤ greatest then some value else none
  | _ => none

def real? : Value → Option Float
  | whole value => some (Float.ofInt value)
  | real value => some value
  | _ => none

def text? : Value → Option String
  | text value => some value
  | _ => none

def list? : Value → Option (List Value)
  | list items => some items
  | _ => none

def field (name : String) (fields : List (String × Value)) : List Value :=
  (fields.filter fun entry => entry.1 == name).map Prod.snd

/-- The values of the named fields, as far as they are given. A record gives each of them at most
once, besides others. A list gives them in order, and nothing else. -/
def fields? (names : List String) : Value → Option (List (Option Value))
  | record fields => names.mapM fun name =>
      match field name fields with
      | [] => some none
      | [value] => some (some value)
      | _ => none
  | list items =>
      if items.length ≤ names.length then
        some ((names.zipIdx).map fun entry => items[entry.2]?)
      else none
  | _ => none

def allFields? (names : List String) (value : Value) : Option (List Value) := do
  let found ← value.fields? names
  found.mapM id

mutual

/-- Whether all parts of a value have values of their own, and whole numbers lie between the
bounds. -/
def isReadable (least greatest : Int) : Value → Bool
  | whole value => decide (least ≤ value ∧ value ≤ greatest)
  | unreadable => false
  | list items => areReadable least greatest items
  | record fields => haveReadable least greatest fields
  | _ => true

def areReadable (least greatest : Int) : List Value → Bool
  | [] => true
  | item :: rest => item.isReadable least greatest && areReadable least greatest rest

def haveReadable (least greatest : Int) : List (String × Value) → Bool
  | [] => true
  | (_, value) :: rest => value.isReadable least greatest && haveReadable least greatest rest

end

def orDefault (default : α) (read : Value → Option α) : Option Value → Option α
  | none => some default
  | some value => read value

end Value

end TransitMap
