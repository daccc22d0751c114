import TransitMap.Plane.Cubic

namespace TransitMap

inductive Segment (K : Type) where
  | straight (start stop : Point K)
  | curved (cubic : Cubic K)
  deriving DecidableEq, BEq, Repr

namespace Segment

def isStraight : Segment K → Bool
  | straight _ _ => true
  | curved _ => false

def cubic? : Segment K → Option (Cubic K)
  | straight _ _ => none
  | curved cubic => some cubic

def start : Segment K → Point K
  | straight start _ => start
  | curved cubic => cubic.p0

def stop : Segment K → Point K
  | straight _ stop => stop
  | curved cubic => cubic.p3

def points : Segment K → List (Point K)
  | straight start stop => [start, stop]
  | curved cubic => cubic.points

def map (f : Point K → Point L) : Segment K → Segment L
  | straight start stop => .straight (f start) (f stop)
  | curved cubic => .curved (cubic.map f)

def reversed : Segment K → Segment K
  | straight start stop => .straight stop start
  | curved cubic => .curved cubic.reversed

def round [Scalar K] (segment : Segment K) : Segment K := segment.map Point.round

@[simp] theorem reversed_reversed (segment : Segment K) : segment.reversed.reversed = segment := by
  cases segment <;> rfl

@[simp] theorem start_reversed (segment : Segment K) : segment.reversed.start = segment.stop := by
  cases segment <;> rfl

@[simp] theorem stop_reversed (segment : Segment K) : segment.reversed.stop = segment.start := by
  cases segment <;> rfl

end Segment

abbrev Path (K : Type) := List (Segment K)

namespace Path

def reversed (path : Path K) : Path K := (path.map Segment.reversed).reverse

def reflect [Scalar K] (path : Path K) (mirror : Mirror K) : Path K :=
  path.map (Segment.map mirror.apply)

def round [Scalar K] (path : Path K) : Path K := path.map Segment.round

@[simp] theorem reversed_reversed (path : Path K) : reversed (reversed path) = path := by
  simp [reversed, List.map_reverse, Function.comp_def]

end Path

end TransitMap
