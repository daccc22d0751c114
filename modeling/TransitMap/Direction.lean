namespace TransitMap

inductive Direction where
  | up
  | down
  | left
  | right
  | upRight
  | upLeft
  | downRight
  | downLeft
  deriving DecidableEq, Repr

namespace Direction

def all : List Direction := [up, down, left, right, upRight, upLeft, downRight, downLeft]

def keyword : Direction → String
  | up => "up"
  | down => "down"
  | left => "left"
  | right => "right"
  | upRight => "up-right"
  | upLeft => "up-left"
  | downRight => "down-right"
  | downLeft => "down-left"

def ofKeyword? (text : String) : Option Direction :=
  all.find? fun direction => direction.keyword == text

def opposite : Direction → Direction
  | up => down
  | down => up
  | left => right
  | right => left
  | upRight => downLeft
  | upLeft => downRight
  | downRight => upLeft
  | downLeft => upRight

def isDiagonal : Direction → Bool
  | up | down | left | right => false
  | upRight | upLeft | downRight | downLeft => true

def isCardinal (direction : Direction) : Bool := !direction.isDiagonal

def step : Direction → Int × Int
  | up => (0, -1)
  | down => (0, 1)
  | left => (-1, 0)
  | right => (1, 0)
  | upRight => (1, -1)
  | upLeft => (-1, -1)
  | downRight => (1, 1)
  | downLeft => (-1, 1)

def hasComponent (diagonal cardinal : Direction) : Bool :=
  diagonal.isDiagonal && cardinal.isCardinal &&
    ((cardinal.step.1 != 0 && cardinal.step.1 == diagonal.step.1) ||
      (cardinal.step.2 != 0 && cardinal.step.2 == diagonal.step.2))

def isPerpendicular (direction other : Direction) : Bool :=
  direction.step.1 * other.step.1 + direction.step.2 * other.step.2 == 0

theorem mem_all (direction : Direction) : direction ∈ all := by
  cases direction <;> decide

@[simp] theorem opposite_opposite (direction : Direction) :
    direction.opposite.opposite = direction := by
  cases direction <;> rfl

end Direction

end TransitMap
