import TransitMap.Scalar

/-!
Points of the map. The y axis runs downwards, so "up" means towards smaller y.
-/

namespace TransitMap

@[ext]
structure Point (K : Type) where
  x : K
  y : K
  deriving DecidableEq, BEq, ReflBEq, LawfulBEq, Repr

namespace Point

variable [Scalar K]

instance : Inhabited (Point K) := ⟨⟨0, 0⟩⟩

def ofGrid (x y : Int) : Point K := ⟨Scalar.ofInt x, Scalar.ofInt y⟩

def toGrid (point : Point K) : Point Int := ⟨Scalar.toGrid point.x, Scalar.toGrid point.y⟩

instance : Add (Point K) := ⟨fun left right => ⟨left.x + right.x, left.y + right.y⟩⟩

instance : Sub (Point K) := ⟨fun left right => ⟨left.x - right.x, left.y - right.y⟩⟩

def scale (point : Point K) (factor : K) : Point K := ⟨point.x * factor, point.y * factor⟩

def midpoint (left right : Point K) : Point K :=
  ⟨(left.x + right.x) / 2, (left.y + right.y) / 2⟩

def dot (left right : Point K) : K := left.x * right.x + left.y * right.y

def cross (left right : Point K) : K := left.x * right.y - left.y * right.x

def round (point : Point K) : Point K := ⟨Scalar.round point.x, Scalar.round point.y⟩

@[simp] theorem add_x (left right : Point K) : (left + right).x = left.x + right.x := rfl

@[simp] theorem add_y (left right : Point K) : (left + right).y = left.y + right.y := rfl

@[simp] theorem sub_x (left right : Point K) : (left - right).x = left.x - right.x := rfl

@[simp] theorem sub_y (left right : Point K) : (left - right).y = left.y - right.y := rfl

@[simp] theorem scale_x (point : Point K) (factor : K) :
    (point.scale factor).x = point.x * factor := rfl

@[simp] theorem scale_y (point : Point K) (factor : K) :
    (point.scale factor).y = point.y * factor := rfl

end Point

end TransitMap
