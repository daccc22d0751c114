namespace TransitMap

structure LineId where
  index : Nat
  deriving DecidableEq, Repr, Inhabited

structure StationId where
  index : Nat
  deriving DecidableEq, Repr, Inhabited

structure CurveId where
  index : Nat
  deriving DecidableEq, Repr, Inhabited

inductive Axis where
  | vertical
  | horizontal
  deriving DecidableEq, Repr

inductive Diagonal where
  | rising
  | falling
  deriving DecidableEq, Repr

inductive Relation where
  | above
  | below
  | left
  | right
  | aboveLeft
  | aboveRight
  | belowLeft
  | belowRight
  | exact
  deriving DecidableEq, Repr

namespace Relation

def all : List Relation :=
  [above, below, left, right, aboveLeft, aboveRight, belowLeft, belowRight, exact]

def keyword : Relation → String
  | above => "above"
  | below => "below"
  | left => "left"
  | right => "right"
  | aboveLeft => "above-left"
  | aboveRight => "above-right"
  | belowLeft => "below-left"
  | belowRight => "below-right"
  | exact => "exact"

def ofKeyword? (text : String) : Option Relation :=
  all.find? fun relation => relation.keyword == text

theorem mem_all (relation : Relation) : relation ∈ all := by
  cases relation <;> decide

end Relation

inductive Component where
  | x
  | y
  deriving DecidableEq, Repr

structure Term where
  station : StationId
  component : Component
  deriving DecidableEq, Repr

inductive AlignmentRule where
  | axis (axis : Axis) (stations : List StationId)
  | diagonal (diagonal : Diagonal) (stations : List StationId)
  /-- Each pair is one station drawn on two lines, a line width apart. -/
  | sameStation (relation : Relation) (pairs : List (StationId × StationId))
  | equal (left right : List Term)
  deriving DecidableEq, Repr

structure Alignment where
  rule : AlignmentRule
  /-- The line the constraint is written under, if any. -/
  line : Option LineId
  sourceLine : Nat
  text : String
  deriving DecidableEq, Repr

/-- The line `above` is drawn on top of the line `below`. -/
structure Overlap where
  above : LineId
  below : LineId
  sourceLine : Nat
  deriving DecidableEq, Repr

end TransitMap
