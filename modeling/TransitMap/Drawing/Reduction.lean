import TransitMap.Bend
import TransitMap.Plane.Mirror

namespace TransitMap

inductive BaseBend where
  /-- To the right, then down. -/
  | sharp
  /-- To the right, then down and to the right. -/
  | wide
  deriving DecidableEq, Repr

def BaseBend.bend : BaseBend → Bend
  | sharp => ⟨.right, .down⟩
  | wide => ⟨.right, .downRight⟩

inductive Flip where
  | x
  | y
  | both
  | diagonal
  deriving DecidableEq, Repr

def Flip.about [Scalar K] (origin : Point K) : Flip → Mirror K
  | x => .flipX origin.x
  | y => .flipY origin.y
  | both => .flipBoth origin.x origin.y
  | diagonal => .diagonal origin

/-- The base bend that becomes a bend by the flips, the last of them first. -/
structure Reduction where
  base : BaseBend
  flips : List Flip
  deriving DecidableEq, Repr

def Reduction.ofBend? (bend : Bend) : Option Reduction :=
  match bend.departure, bend.arrival with
  | .right, .down => some ⟨.sharp, []⟩
  | .right, .up => some ⟨.sharp, [.y]⟩
  | .down, .right => some ⟨.sharp, [.diagonal]⟩
  | .up, .right => some ⟨.sharp, [.y, .diagonal]⟩
  | .right, .downRight => some ⟨.wide, []⟩
  | .right, .upRight => some ⟨.wide, [.y]⟩
  | .left, .upLeft => some ⟨.wide, [.both]⟩
  | .left, .downLeft => some ⟨.wide, [.x]⟩
  | .up, .upRight => some ⟨.wide, [.y, .diagonal]⟩
  | .up, .upLeft => some ⟨.wide, [.x, .y, .diagonal]⟩
  | .down, .downRight => some ⟨.wide, [.diagonal]⟩
  | .down, .downLeft => some ⟨.wide, [.x, .diagonal]⟩
  | _, _ => none

end TransitMap
