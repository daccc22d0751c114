import TransitMap.Plane.Point

/-!
The length of a vector of doubles. Squares may overflow or vanish, so very large and very small
vectors are scaled first, and one correction step takes the error of the plain square root out.
-/

namespace TransitMap.Length

def large : Float := Float.scaleB 1 511

def tiny : Float := Float.scaleB 1 (-459)

def negligible : Float := Float.scaleB 1 (-54)

/-- The power of two that brings extreme vectors into the middle of the range. -/
def rescale : Float := Float.scaleB 1 (-600)

/-- The length of the vector with the sides `long` and `short`, neither of them extreme. -/
def corrected (long short : Float) : Float :=
  let plain := (long * long + short * short).sqrt
  let excess :=
    if plain ≤ 2.0 * short then
      let beyond := plain - short
      long * (2.0 * beyond - long) + (beyond - 2.0 * (long - short)) * beyond
    else
      let beyond := plain - long
      2.0 * beyond * (long - 2.0 * short) + ((4.0 * beyond - short) * short + beyond * beyond)
  plain - excess / (2.0 * plain)

def ofSides (long short : Float) : Float :=
  if long > large then
    if short ≤ long * negligible then long + short
    else corrected (long * rescale) (short * rescale) / rescale
  else if short < tiny then
    if long ≥ short / negligible then long + short
    else corrected (long / rescale) (short / rescale) * rescale
  else if short ≤ long * negligible then long + short
  else corrected long short

end Length

/-- The Euclidean length; an infinite side makes it infinite whatever the other side is. -/
def Point.length (vector : Point Float) : Float :=
  if vector.x.isFinite && vector.y.isFinite then
    let width := vector.x.abs
    let height := vector.y.abs
    if width < height then Length.ofSides height width else Length.ofSides width height
  else if vector.x.isInf || vector.y.isInf then 1.0 / 0.0
  else vector.x + vector.y

def Point.distance (left right : Point Float) : Float := (left - right).length

end TransitMap
