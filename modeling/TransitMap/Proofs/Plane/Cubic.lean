import Mathlib.Tactic.LinearCombination
import TransitMap.Plane.Cubic
import TransitMap.Proofs.ExactScalar

namespace TransitMap

open scoped ExactScalar

namespace Point

section Neg

variable [Scalar K]

instance : Neg (Point K) := ⟨fun vector => ⟨-vector.x, -vector.y⟩⟩

end Neg

end Point

namespace Cubic

variable {K : Type} [ExactScalar K] {cubic : Cubic K} {t : K}

theorem eval_x (cubic : Cubic K) (t : K) :
    (cubic.eval t).x = cubic.p0.x * (1 - t) ^ 3 + 3 * cubic.p1.x * (1 - t) ^ 2 * t +
      3 * cubic.p2.x * (1 - t) * t ^ 2 + cubic.p3.x * t ^ 3 := by
  simp only [eval, Point.add_x, Point.scale_x, ExactScalar.literal_eq]
  push_cast
  ring

theorem eval_y (cubic : Cubic K) (t : K) :
    (cubic.eval t).y = cubic.p0.y * (1 - t) ^ 3 + 3 * cubic.p1.y * (1 - t) ^ 2 * t +
      3 * cubic.p2.y * (1 - t) * t ^ 2 + cubic.p3.y * t ^ 3 := by
  simp only [eval, Point.add_y, Point.scale_y, ExactScalar.literal_eq]
  push_cast
  ring

@[simp] theorem lerp_x (t : K) (left right : Point K) :
    (lerp t left right).x = left.x + (right.x - left.x) * t := rfl

@[simp] theorem lerp_y (t : K) (left right : Point K) :
    (lerp t left right).y = left.y + (right.y - left.y) * t := rfl

@[simp] theorem eval_zero (cubic : Cubic K) : cubic.eval 0 = cubic.p0 := by
  ext <;> simp [eval_x, eval_y]

@[simp] theorem eval_one (cubic : Cubic K) : cubic.eval 1 = cubic.p3 := by
  ext <;> simp [eval_x, eval_y]

theorem eval_reversed (cubic : Cubic K) (t : K) :
    cubic.reversed.eval (1 - t) = cubic.eval t := by
  ext
  · simp only [eval_x, reversed]
    ring
  · simp only [eval_y, reversed]
    ring

theorem eval_split_fst (cubic : Cubic K) (t s : K) :
    (cubic.split t).1.eval s = cubic.eval (t * s) := by
  ext
  · simp only [eval_x, split, lerp_x]
    ring
  · simp only [eval_y, split, lerp_y]
    ring

theorem lerp_reversed (t : K) (left right : Point K) :
    lerp (1 - t) right left = lerp t left right := by
  ext
  · simp only [lerp_x]
    ring
  · simp only [lerp_y]
    ring

theorem split_reversed (cubic : Cubic K) (t : K) :
    cubic.reversed.split (1 - t) = ((cubic.split t).2.reversed, (cubic.split t).1.reversed) := by
  simp only [split, reversed, lerp_reversed]

/-- The second part is the first part of the curve from its other end. -/
theorem eval_split_snd (cubic : Cubic K) (t s : K) :
    (cubic.split t).2.eval s = cubic.eval (t + (1 - t) * s) := by
  have first : (cubic.split t).2 = (cubic.reversed.split (1 - t)).1.reversed := by
    rw [split_reversed, reversed_reversed]
  have way : 1 - (1 - t) * (1 - s) = t + (1 - t) * s := by ring
  calc (cubic.split t).2.eval s
      = (cubic.reversed.split (1 - t)).1.eval (1 - s) := by
        rw [first, ← eval_reversed, reversed_reversed]
    _ = cubic.reversed.eval ((1 - t) * (1 - s)) := eval_split_fst ..
    _ = cubic.eval (t + (1 - t) * s) := by
        rw [← eval_reversed, reversed_reversed, way]

theorem split_fst_p3 (cubic : Cubic K) (t : K) : (cubic.split t).1.p3 = cubic.eval t := by
  rw [← eval_one, eval_split_fst, mul_one]

theorem split_snd_p0 (cubic : Cubic K) (t : K) : (cubic.split t).2.p0 = cubic.eval t := by
  rw [← eval_zero, eval_split_snd, mul_zero, add_zero]

/-- How much each control point counts: none less than nothing, and all together one. -/
structure Shares (K : Type) [ExactScalar K] where
  p0 : K
  p1 : K
  p2 : K
  p3 : K
  nonneg : 0 ≤ p0 ∧ 0 ≤ p1 ∧ 0 ≤ p2 ∧ 0 ≤ p3
  whole : p0 + p1 + p2 + p3 = 1

theorem nonneg_between {left right : K} (inside : 0 ≤ t ∧ t ≤ 1) (isLeft : 0 ≤ left)
    (isRight : 0 ≤ right) : 0 ≤ left + (right - left) * t := by
  have parts : left + (right - left) * t = left * (1 - t) + right * t := by ring
  rw [parts]
  exact add_nonneg (mul_nonneg isLeft (sub_nonneg.mpr inside.2)) (mul_nonneg isRight inside.1)

def Shares.between (inside : 0 ≤ t ∧ t ≤ 1) (left right : Shares K) : Shares K where
  p0 := left.p0 + (right.p0 - left.p0) * t
  p1 := left.p1 + (right.p1 - left.p1) * t
  p2 := left.p2 + (right.p2 - left.p2) * t
  p3 := left.p3 + (right.p3 - left.p3) * t
  nonneg :=
    ⟨nonneg_between inside left.nonneg.1 right.nonneg.1,
      nonneg_between inside left.nonneg.2.1 right.nonneg.2.1,
      nonneg_between inside left.nonneg.2.2.1 right.nonneg.2.2.1,
      nonneg_between inside left.nonneg.2.2.2 right.nonneg.2.2.2⟩
  whole := by linear_combination (1 - t) * left.whole + t * right.whole

def mean (cubic : Cubic K) (shares : Shares K) : Point K :=
  cubic.p0.scale shares.p0 + cubic.p1.scale shares.p1 + cubic.p2.scale shares.p2
    + cubic.p3.scale shares.p3

/-- The point is a convex combination of the control points. -/
def Encloses (cubic : Cubic K) (point : Point K) : Prop :=
  ∃ shares : Shares K, cubic.mean shares = point

theorem Encloses.lerp {left right : Point K} (inside : 0 ≤ t ∧ t ≤ 1)
    (isLeft : cubic.Encloses left) (isRight : cubic.Encloses right) :
    cubic.Encloses (Cubic.lerp t left right) := by
  obtain ⟨first, rfl⟩ := isLeft
  obtain ⟨second, rfl⟩ := isRight
  refine ⟨.between inside first second, ?_⟩
  ext
  · simp only [mean, Shares.between, Point.add_x, Point.scale_x, lerp_x]
    ring
  · simp only [mean, Shares.between, Point.add_y, Point.scale_y, lerp_y]
    ring

theorem encloses_of_mem_points : ∀ point ∈ cubic.points, cubic.Encloses point := by
  simp only [points, List.forall_mem_cons]
  refine ⟨⟨⟨1, 0, 0, 0, by simp, by simp⟩, ?_⟩, ⟨⟨0, 1, 0, 0, by simp, by simp⟩, ?_⟩,
    ⟨⟨0, 0, 1, 0, by simp, by simp⟩, ?_⟩, ⟨⟨0, 0, 0, 1, by simp, by simp⟩, ?_⟩, by simp⟩
  all_goals ext <;> simp [mean]

theorem encloses_split (inside : 0 ≤ t ∧ t ≤ 1) :
    ∀ point ∈ (cubic.split t).1.points ++ (cubic.split t).2.points, cubic.Encloses point := by
  have own : ∀ point ∈ cubic.points, cubic.Encloses point := encloses_of_mem_points
  simp only [points, List.forall_mem_cons] at own
  obtain ⟨p0, p1, p2, p3, -⟩ := own
  have p01 := p0.lerp inside p1
  have p12 := p1.lerp inside p2
  have p23 := p2.lerp inside p3
  have p012 := p01.lerp inside p12
  have p123 := p12.lerp inside p23
  have middle := p012.lerp inside p123
  simp only [points, split, List.cons_append, List.nil_append, List.forall_mem_cons]
  exact ⟨p0, p01, p012, middle, middle, p123, p23, p3, by simp⟩

/-- The parts of a curve run along it, meet on it and are those of the curve from its other end, and
parts at a parameter of the curve lie among its control points. -/
theorem split_follows (cubic : Cubic K) (t : K) :
    (∀ s, (cubic.split t).1.eval s = cubic.eval (t * s)) ∧
    (∀ s, (cubic.split t).2.eval s = cubic.eval (t + (1 - t) * s)) ∧
    ((cubic.split t).1.p3 = cubic.eval t ∧ (cubic.split t).2.p0 = cubic.eval t) ∧
    cubic.reversed.split (1 - t) = ((cubic.split t).2.reversed, (cubic.split t).1.reversed) ∧
    (0 ≤ t ∧ t ≤ 1 →
      ∀ point ∈ (cubic.split t).1.points ++ (cubic.split t).2.points, cubic.Encloses point) :=
  ⟨eval_split_fst cubic t, eval_split_snd cubic t, ⟨split_fst_p3 cubic t, split_snd_p0 cubic t⟩,
    split_reversed cubic t, encloses_split⟩

theorem split_follows_hook :
    let hook : Cubic Rat := ⟨⟨0, 0⟩, ⟨9, 0⟩, ⟨18, 9⟩, ⟨0, 27⟩⟩
    (0 ≤ (1 / 3 : Rat) ∧ (1 / 3 : Rat) ≤ 1) ∧
      hook.split (1 / 3) =
        (⟨⟨0, 0⟩, ⟨3, 0⟩, ⟨6, 1⟩, ⟨8, 3⟩⟩, ⟨⟨8, 3⟩, ⟨12, 7⟩, ⟨12, 15⟩, ⟨0, 27⟩⟩) ∧
      hook.eval (1 / 3) = ⟨8, 3⟩ ∧
      ∀ point ∈ (hook.split (1 / 3)).1.points ++ (hook.split (1 / 3)).2.points,
        hook.Encloses point := by
  intro hook
  have inside : 0 ≤ (1 / 3 : Rat) ∧ (1 / 3 : Rat) ≤ 1 := by norm_num
  have parts : hook.split (1 / 3) =
      (⟨⟨0, 0⟩, ⟨3, 0⟩, ⟨6, 1⟩, ⟨8, 3⟩⟩, ⟨⟨8, 3⟩, ⟨12, 7⟩, ⟨12, 15⟩, ⟨0, 27⟩⟩) := by
    decide +kernel
  obtain ⟨-, -, ⟨meets, -⟩, -, among⟩ := split_follows hook (1 / 3)
  rw [parts] at meets
  exact ⟨inside, parts, meets.symm, among inside⟩

section Length

variable {length : Point K → K} (even : ∀ vector, length (-vector) = length vector)

include even

end Length

end Cubic

end TransitMap
