import Mathlib.Tactic.Ring
import TransitMap.Drawing.Reduction
import TransitMap.Plane.Cubic
import TransitMap.Proofs.Scalar

open TransitMap.Scalar (IsWhole)

namespace TransitMap

namespace Point

variable {left right point : Point Rat}

structure IsWhole (point : Point Rat) : Prop where
  x : Scalar.IsWhole point.x
  y : Scalar.IsWhole point.y

namespace IsWhole

theorem default : (default : Point Rat).IsWhole := ⟨.natCast 0, .natCast 0⟩

theorem round (point : Point Rat) : point.round.IsWhole := ⟨.round point.x, .round point.y⟩

theorem add (first : left.IsWhole) (second : right.IsWhole) : (left + right).IsWhole :=
  ⟨first.x.add second.x, first.y.add second.y⟩

theorem round_eq (whole : point.IsWhole) : point.round = point := by
  ext
  · exact whole.x.round_eq
  · exact whole.y.round_eq

end IsWhole

end Point

namespace Mirror

/-- A mirror of the grid that leaves `origin` where it is. -/
structure KeepsGrid (mirror : Mirror Rat) (origin : Point Rat) : Prop where
  fixes : mirror.apply origin = origin
  undoes : ∀ point, mirror.apply (mirror.apply point) = point
  whole : ∀ point, point.IsWhole → (mirror.apply point).IsWhole

theorem apply_diagonal (origin point : Point Rat) :
    (diagonal origin).apply point =
      ⟨origin.x + (point.y - origin.y), origin.y + (point.x - origin.x)⟩ := by
  ext
  all_goals
    simp only [diagonal, apply, Point.dot, Point.add_x, Point.add_y, Point.sub_x, Point.sub_y,
      Point.scale_x, Point.scale_y, Scalar.literal_eq]
    ring

theorem keepsGrid_diagonal {origin : Point Rat} (whole : origin.IsWhole) :
    (diagonal origin).KeepsGrid origin where
  fixes := by simp [apply_diagonal]
  undoes point := by simp [apply_diagonal]
  whole point isWhole := by
    rw [apply_diagonal]
    exact ⟨whole.x.add (isWhole.y.sub whole.y), whole.y.add (isWhole.x.sub whole.x)⟩

private theorem isWhole_double_sub {center value : Rat} (isCenter : IsWhole center)
    (whole : IsWhole value) : IsWhole (2 * center - value) :=
  ((IsWhole.natCast 2).mul isCenter).sub whole

theorem keepsGrid_flipX {origin : Point Rat} (whole : origin.IsWhole) :
    (flipX origin.x).KeepsGrid origin where
  fixes := by
    ext <;> simp [apply]
    ring
  undoes point := by ext <;> simp [apply]
  whole point isWhole := ⟨isWhole_double_sub whole.x isWhole.x, isWhole.y⟩

theorem keepsGrid_flipY {origin : Point Rat} (whole : origin.IsWhole) :
    (flipY origin.y).KeepsGrid origin where
  fixes := by
    ext <;> simp [apply]
    ring
  undoes point := by ext <;> simp [apply]
  whole point isWhole := ⟨isWhole.x, isWhole_double_sub whole.y isWhole.y⟩

theorem keepsGrid_flipBoth {origin : Point Rat} (whole : origin.IsWhole) :
    (flipBoth origin.x origin.y).KeepsGrid origin where
  fixes := by ext <;> simp [apply] <;> ring
  undoes point := by ext <;> simp [apply]
  whole point isWhole :=
    ⟨isWhole_double_sub whole.x isWhole.x, isWhole_double_sub whole.y isWhole.y⟩

end Mirror

theorem Flip.keepsGrid_about (flip : Flip) {origin : Point Rat} (whole : origin.IsWhole) :
    (flip.about origin).KeepsGrid origin := by
  cases flip with
  | x => exact Mirror.keepsGrid_flipX whole
  | y => exact Mirror.keepsGrid_flipY whole
  | both => exact Mirror.keepsGrid_flipBoth whole
  | diagonal => exact Mirror.keepsGrid_diagonal whole

theorem Flip.keepsGrid_of_mem (flips : List Flip) {origin : Point Rat} (whole : origin.IsWhole) :
    ∀ mirror ∈ flips.map (Flip.about origin), mirror.KeepsGrid origin := by
  intro mirror member
  obtain ⟨flip, -, rfl⟩ := List.mem_map.mp member
  exact flip.keepsGrid_about whole

theorem Mirror.isWhole_applyAll {mirrors : List (Mirror Rat)} {origin point : Point Rat}
    (keep : ∀ mirror ∈ mirrors, mirror.KeepsGrid origin) (whole : point.IsWhole) :
    (Mirror.applyAll mirrors point).IsWhole := by
  induction mirrors generalizing point with
  | nil => exact whole
  | cons mirror rest ih =>
      have applied := (keep mirror List.mem_cons_self).whole point whole
      exact ih (fun other member => keep other (List.mem_cons_of_mem _ member)) applied

namespace Cubic

def IsWhole (cubic : Cubic Rat) : Prop := ∀ point ∈ cubic.points, point.IsWhole

theorem isWhole_iff {cubic : Cubic Rat} :
    cubic.IsWhole ↔ cubic.p0.IsWhole ∧ cubic.p1.IsWhole ∧ cubic.p2.IsWhole ∧ cubic.p3.IsWhole := by
  simp [IsWhole, points]

namespace IsWhole

variable {cubic : Cubic Rat}

theorem map {f : Point Rat → Point Rat} (kept : ∀ point, point.IsWhole → (f point).IsWhole)
    (whole : cubic.IsWhole) : (cubic.map f).IsWhole := by
  simp only [isWhole_iff] at whole ⊢
  exact ⟨kept _ whole.1, kept _ whole.2.1, kept _ whole.2.2.1, kept _ whole.2.2.2⟩

theorem round (cubic : Cubic Rat) : cubic.round.IsWhole :=
  isWhole_iff.mpr ⟨.round _, .round _, .round _, .round _⟩

theorem withStart (whole : cubic.IsWhole) {start : Point Rat} (isWhole : start.IsWhole) :
    (cubic.withStart start).IsWhole := by
  simp only [isWhole_iff] at whole ⊢
  exact ⟨isWhole, whole.2⟩

theorem withStop (whole : cubic.IsWhole) {stop : Point Rat} (isWhole : stop.IsWhole) :
    (cubic.withStop stop).IsWhole := by
  simp only [isWhole_iff] at whole ⊢
  exact ⟨whole.1, whole.2.1, whole.2.2.1, isWhole⟩

end IsWhole

end Cubic

end TransitMap
