import TransitMap.Plane.Cubic

/-!
Templates of the two base curves. Control points are offsets from the corner where the straight runs
at both ends of the curve would meet. The sharp curve comes from the left and leaves downwards, the
wide one leaves down and to the right.
-/

namespace TransitMap

structure Template (K : Type) where
  offsets : Cubic K
  scaleFactor : K
  deriving DecidableEq, Repr

def Template.outline [Scalar K] (template : Template K) (scale : K) : Cubic K :=
  template.offsets.map fun offset => (offset.scale (scale * template.scaleFactor)).round

structure Templates (K : Type) where
  sharp : Template K
  wide : Template K
  deriving DecidableEq, Repr

/-- The base curves of a map, as offsets from their corners. -/
structure Outlines (K : Type) where
  sharp : Cubic K
  wide : Cubic K
  deriving DecidableEq, Repr

def Templates.outlines [Scalar K] (templates : Templates K) (scale : K) : Outlines K :=
  ⟨templates.sharp.outline scale, templates.wide.outline scale⟩

end TransitMap
