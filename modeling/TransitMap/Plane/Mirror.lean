import TransitMap.Plane.Point

namespace TransitMap

inductive Mirror (K : Type) where
  | line (through toward : Point K)
  | flipX (x : K)
  | flipY (y : K)
  /-- Across both lines: a half turn around their crossing. -/
  | flipBoth (x y : K)
  deriving DecidableEq, Repr

namespace Mirror

variable [Scalar K]

/-- Across the line running down and to the right through `origin`, which swaps the offsets in x
and in y from it. -/
def diagonal (origin : Point K) : Mirror K := .line origin (origin + ⟨1, 1⟩)

def apply : Mirror K → Point K → Point K
  | line through toward, point =>
      let direction := toward - through
      let toLine := through - point
      let along := direction.scale (toLine.dot direction / direction.dot direction)
      point + (toLine - along).scale 2
  | flipX x, point => ⟨2 * x - point.x, point.y⟩
  | flipY y, point => ⟨point.x, 2 * y - point.y⟩
  | flipBoth x y, point => ⟨2 * x - point.x, 2 * y - point.y⟩

def applyAll (mirrors : List (Mirror K)) (point : Point K) : Point K :=
  mirrors.foldl (fun image mirror => mirror.apply image) point

end Mirror

end TransitMap
