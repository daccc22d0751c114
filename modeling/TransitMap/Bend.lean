import TransitMap.Direction

namespace TransitMap

structure Bend where
  departure : Direction
  arrival : Direction
  deriving DecidableEq, Repr

inductive BendKind where
  | straight
  | sharp
  | wide
  deriving DecidableEq, Repr

namespace Bend

def text (bend : Bend) : String := bend.departure.keyword ++ "," ++ bend.arrival.keyword

def kind? (bend : Bend) : Option BendKind :=
  let departure := bend.departure
  let arrival := bend.arrival
  if departure = arrival then some .straight
  else if departure.isCardinal && arrival.isCardinal && departure.isPerpendicular arrival then
    some .sharp
  else if departure.hasComponent arrival || arrival.hasComponent departure then some .wide
  else none

def reversed (bend : Bend) : Bend := ⟨bend.arrival.opposite, bend.departure.opposite⟩

def forwardSharp : List Bend :=
  [⟨.right, .up⟩, ⟨.right, .down⟩, ⟨.up, .right⟩, ⟨.down, .right⟩]

/-- Whether the bend is drawn from its first station; the others are drawn from their second. Of
the wide bends these are the ones that leave along a cardinal. -/
def isCanonical (bend : Bend) : Bool :=
  match bend.kind? with
  | some .straight => true
  | some .sharp => forwardSharp.contains bend
  | some .wide => bend.departure.isCardinal
  | none => false

/-- The canonical one of a bend and its reverse, and whether that is the reverse. -/
def canonicalize? (bend : Bend) : Option (Bend × Bool) :=
  if bend.kind?.isNone then none
  else if bend.isCanonical then some (bend, false)
  else if bend.reversed.isCanonical then some (bend.reversed, true)
  else none

@[simp] theorem reversed_reversed (bend : Bend) : bend.reversed.reversed = bend := by
  simp [reversed]

end Bend

end TransitMap
