import Mathlib.Tactic.FieldSimp
import Mathlib.Tactic.LinearCombination
import TransitMap.Proofs.ExactScalar
import TransitMap.Proofs.Plane.Path

namespace TransitMap

open scoped ExactScalar

namespace Point

variable {K : Type} [ExactScalar K] {direction : Point K}

def squaredDistance (left right : Point K) : K := (left - right).dot (left - right)

theorem dot_self_eq_zero_iff : direction.dot direction = 0 ↔ direction = ⟨0, 0⟩ := by
  rw [dot, mul_self_add_mul_self_eq_zero, Point.ext_iff]

/-- A vector with its part across a direction turned around. -/
def mirrored (direction vector : Point K) : Point K :=
  direction.scale ((vector + vector).dot direction / direction.dot direction) - vector

theorem mirrored_sub (direction left right : Point K) :
    mirrored direction left - mirrored direction right = mirrored direction (left - right) := by
  ext <;> simp only [mirrored, dot, add_x, add_y, sub_x, sub_y, scale_x, scale_y] <;> ring

theorem dot_mirrored (proper : direction.dot direction ≠ 0) (vector : Point K) :
    (mirrored direction vector).dot direction = vector.dot direction := by
  have along : (mirrored direction vector).dot direction =
      (vector + vector).dot direction / direction.dot direction * direction.dot direction -
        vector.dot direction := by
    simp only [mirrored, dot, sub_x, sub_y, scale_x, scale_y]
    ring
  rw [along, div_mul_cancel₀ _ proper]
  simp only [dot, add_x, add_y]
  ring

theorem mirrored_mirrored (proper : direction.dot direction ≠ 0) (vector : Point K) :
    mirrored direction (mirrored direction vector) = vector := by
  have same : (mirrored direction vector + mirrored direction vector).dot direction =
      (vector + vector).dot direction := by
    have part := dot_mirrored proper vector
    simp only [dot, add_x, add_y] at part ⊢
    linear_combination 2 * part
  rw [mirrored, same]
  ext <;> simp only [mirrored, sub_x, sub_y, scale_x, scale_y] <;> ring

theorem dot_self_mirrored (proper : direction.dot direction ≠ 0) (vector : Point K) :
    (mirrored direction vector).dot (mirrored direction vector) = vector.dot vector := by
  -- The image is a multiple of the direction without the vector, and both meet it in the same way.
  have expanded : (mirrored direction vector).dot (mirrored direction vector) =
      (vector + vector).dot direction / direction.dot direction *
          ((mirrored direction vector).dot direction - vector.dot direction) +
        vector.dot vector := by
    simp only [mirrored, dot, add_x, add_y, sub_x, sub_y, scale_x, scale_y]
    ring
  rw [expanded, dot_mirrored proper, sub_self, mul_zero, zero_add]

/-- Only the multiples of the direction stay where they are. -/
theorem mirrored_eq_self_iff (proper : direction.dot direction ≠ 0) (vector : Point K) :
    mirrored direction vector = vector ↔ vector.cross direction = 0 := by
  constructor
  · intro same
    have twice : 2 * vector.cross direction = (vector + vector).cross direction := by
      simp only [cross, add_x, add_y]
      ring
    have multiple : vector + vector =
        direction.scale ((vector + vector).dot direction / direction.dot direction) := by
      nth_rewrite 2 [← same]
      ext <;> simp [mirrored]
    have zero : 2 * vector.cross direction = 0 := by
      rw [twice, multiple]
      simp only [cross, scale_x, scale_y]
      ring
    simpa using zero
  · intro parallel
    rw [cross] at parallel
    have multiple : direction.scale ((vector + vector).dot direction / direction.dot direction) =
        vector + vector := by
      ext
      · rw [scale_x, add_x]
        field_simp
        simp only [dot, add_x, add_y]
        linear_combination -2 * direction.y * parallel
      · rw [scale_y, add_y]
        field_simp
        simp only [dot, add_x, add_y]
        linear_combination 2 * direction.x * parallel
    rw [mirrored, multiple]
    ext <;> simp

end Point

namespace Mirror

variable {K : Type} [ExactScalar K] {mirror : Mirror K} {mirrors : List (Mirror K)}

/-- Two points that differ are on one line only. -/
def IsProper : Mirror K → Prop
  | line through toward => through ≠ toward
  | flipX _ | flipY _ | flipBoth _ _ => True

instance : DecidablePred (IsProper : Mirror K → Prop)
  | line through toward => inferInstanceAs (Decidable (through ≠ toward))
  | flipX _ | flipY _ | flipBoth _ _ => .isTrue trivial

theorem apply_line (through toward point : Point K) :
    (line through toward).apply point =
      through + Point.mirrored (toward - through) (point - through) := by
  ext
  all_goals
    simp only [apply, Point.mirrored, Point.dot, Point.add_x, Point.add_y, Point.sub_x, Point.sub_y,
      Point.scale_x, Point.scale_y, ExactScalar.literal_eq]
    ring

theorem IsProper.direction {through toward : Point K} (proper : (line through toward).IsProper) :
    (toward - through).dot (toward - through) ≠ 0 := by
  rw [Ne, Point.dot_self_eq_zero_iff]
  intro zero
  obtain ⟨x, y⟩ := Point.mk.inj zero
  exact proper (Point.ext (sub_eq_zero.mp x) (sub_eq_zero.mp y)).symm

theorem IsProper.apply_apply (proper : mirror.IsProper) (point : Point K) :
    mirror.apply (mirror.apply point) = point := by
  cases mirror with
  | line through toward =>
      have back (vector : Point K) : through + vector - through = vector := by ext <;> simp
      rw [apply_line, apply_line, back, Point.mirrored_mirrored proper.direction]
      ext <;> simp
  | flipX _ | flipY _ | flipBoth _ _ => ext <;> simp [apply]

theorem IsProper.squaredDistance_apply (proper : mirror.IsProper) (left right : Point K) :
    Point.squaredDistance (mirror.apply left) (mirror.apply right) =
      Point.squaredDistance left right := by
  cases mirror with
  | line through toward =>
      have between : (line through toward).apply left - (line through toward).apply right =
          Point.mirrored (toward - through) (left - right) := by
        have offset : left - through - (right - through) = left - right := by ext <;> simp
        rw [← offset, ← Point.mirrored_sub, apply_line, apply_line]
        ext <;> simp
      rw [Point.squaredDistance, between, Point.dot_self_mirrored proper.direction]
      rfl
  | flipX _ | flipY _ | flipBoth _ _ =>
      simp only [Point.squaredDistance, Point.dot, Point.sub_x, Point.sub_y, apply]
      ring

def Axis : Mirror K → Point K → Prop
  | line through toward, point => (point - through).cross (toward - through) = 0
  | flipX x, point => point.x = x
  | flipY y, point => point.y = y
  | flipBoth x y, point => point = ⟨x, y⟩

theorem IsProper.apply_eq_self_iff (proper : mirror.IsProper) (point : Point K) :
    mirror.apply point = point ↔ mirror.Axis point := by
  have center (middle value : K) : 2 * middle - value = value ↔ value = middle := by
    constructor <;> intro same <;> linarith
  cases mirror with
  | line through toward =>
      rw [Axis, ← Point.mirrored_eq_self_iff proper.direction, apply_line]
      constructor
      · intro same
        nth_rewrite 2 [← same]
        ext <;> simp
      · intro same
        rw [same]
        ext <;> simp
  | flipX _ | flipY _ | flipBoth _ _ => simp [Point.ext_iff, apply, Axis, center]

theorem applyAll_append (first second : List (Mirror K)) (point : Point K) :
    applyAll (first ++ second) point = applyAll second (applyAll first point) :=
  List.foldl_append ..

theorem applyAll_reverse_applyAll (proper : ∀ mirror ∈ mirrors, mirror.IsProper)
    (point : Point K) : applyAll mirrors.reverse (applyAll mirrors point) = point := by
  induction mirrors generalizing point with
  | nil => rfl
  | cons mirror rest ih =>
      obtain ⟨isProper, others⟩ := List.forall_mem_cons.mp proper
      calc applyAll (mirror :: rest).reverse (applyAll (mirror :: rest) point)
          = mirror.apply (applyAll rest.reverse (applyAll rest (mirror.apply point))) := by
            rw [List.reverse_cons, applyAll_append]
            rfl
        _ = mirror.apply (mirror.apply point) := by rw [ih others]
        _ = point := isProper.apply_apply point

end Mirror

namespace Segment

theorem map_map (f : Point K → Point L) (g : Point L → Point M) (segment : Segment K) :
    (segment.map f).map g = segment.map (g ∘ f) := by
  cases segment <;> rfl

theorem map_eq_self {f : Point K → Point K} (same : ∀ point, f point = point)
    (segment : Segment K) : segment.map f = segment := by
  cases segment <;> simp [Segment.map, Cubic.map, same]

end Segment

namespace Path

def IsConnected (path : Path K) : Prop :=
  path.IsChain fun before behind => before.stop = behind.start

theorem IsConnected.map {path : Path K} (connected : path.IsConnected) (f : Point K → Point L) :
    IsConnected (path.map (Segment.map f)) := by
  refine (List.isChain_map _).mpr (connected.imp fun before behind joined => ?_)
  rw [Segment.stop_map, Segment.start_map, joined]

theorem map_map_eq_self {f : Point K → Point L} {g : Point L → Point K}
    (undoes : ∀ point, g (f point) = point) (path : Path K) :
    (path.map (Segment.map f)).map (Segment.map g) = path := by
  rw [List.map_map]
  refine List.map_id'' (fun segment => ?_) path
  exact (Segment.map_map f g segment).trans (Segment.map_eq_self undoes segment)

variable {K : Type} [ExactScalar K] {mirror : Mirror K} {mirrors : List (Mirror K)}

theorem reflect_reflect (proper : mirror.IsProper) (path : Path K) :
    Path.reflect (Path.reflect path mirror) mirror = path :=
  map_map_eq_self proper.apply_apply path

/-- A path is mirrored back from the last mirror to the first. -/
theorem foldr_reflect (mirrors : List (Mirror K)) (path : Path K) :
    mirrors.foldr (fun mirror path => Path.reflect path mirror) path =
      path.map (Segment.map (Mirror.applyAll mirrors.reverse)) := by
  induction mirrors with
  | nil => exact (List.map_id'' (Segment.map_eq_self fun _ => rfl) path).symm
  | cons mirror rest ih =>
      have last : mirror.apply ∘ Mirror.applyAll rest.reverse =
          Mirror.applyAll (mirror :: rest).reverse := by
        funext point
        rw [List.reverse_cons, Mirror.applyAll_append]
        rfl
      rw [List.foldr_cons, ih, reflect, List.map_map, ← last]
      exact List.map_congr_left fun segment _ => Segment.map_map _ _ segment

/-- A mirror undoes itself, moves all points but those of its axis, keeps distances, and leaves a
path connected in either direction. Mirrors that follow one another are undone from the last to the
first. -/
theorem reflect_keeps (proper : mirror.IsProper) (allProper : ∀ other ∈ mirrors, other.IsProper)
    (path : Path K) :
    Path.reflect (Path.reflect path mirror) mirror = path ∧
    (∀ point, mirror.apply point = point ↔ mirror.Axis point) ∧
    (∀ left right, Point.squaredDistance (mirror.apply left) (mirror.apply right) =
      Point.squaredDistance left right) ∧
    Path.reversed (Path.reflect path mirror) = Path.reflect (Path.reversed path) mirror ∧
    (IsConnected (Path.reflect path mirror) ↔ path.IsConnected) ∧
    (∀ point, Mirror.applyAll mirrors.reverse (Mirror.applyAll mirrors point) = point) ∧
    mirrors.foldr (fun mirror path => Path.reflect path mirror)
      (path.map (Segment.map (Mirror.applyAll mirrors))) = path := by
  refine ⟨reflect_reflect proper path, proper.apply_eq_self_iff, proper.squaredDistance_apply,
    reversed_map _ path, ?_, Mirror.applyAll_reverse_applyAll allProper, ?_⟩
  · constructor
    · intro connected
      rw [← reflect_reflect proper path]
      exact connected.map mirror.apply
    · exact fun connected => connected.map mirror.apply
  · rw [foldr_reflect]
    exact map_map_eq_self (Mirror.applyAll_reverse_applyAll allProper) path

theorem reflect_keeps_slanted :
    let slanted : Mirror Rat := .line ⟨1, 2⟩ ⟨4, 3⟩
    let mirrors : List (Mirror Rat) := [slanted, .flipX 5, .flipBoth 3 (-7)]
    let path : Path Rat := [.straight ⟨0, 0⟩ ⟨6, 0⟩, .curved ⟨⟨6, 0⟩, ⟨9, 0⟩, ⟨12, 3⟩, ⟨12, 6⟩⟩]
    slanted.IsProper ∧ (∀ other ∈ mirrors, other.IsProper) ∧
      slanted.apply ⟨6, 0⟩ = ⟨19 / 5, 33 / 5⟩ ∧
      Path.reflect (Path.reflect path slanted) slanted = path ∧
      path.IsConnected ∧ IsConnected (Path.reflect path slanted) ∧
      Mirror.applyAll mirrors.reverse (Mirror.applyAll mirrors ⟨6, 0⟩) = ⟨6, 0⟩ := by
  intro slanted mirrors path
  have proper : slanted.IsProper := by decide
  have allProper : ∀ other ∈ mirrors, other.IsProper := by decide
  have connected : path.IsConnected := .cons_cons rfl (.singleton _)
  obtain ⟨undone, -, -, -, isConnected, allUndone, -⟩ := reflect_keeps proper allProper path
  exact ⟨proper, allProper, by decide +kernel, undone, connected, isConnected.mpr connected,
    allUndone ⟨6, 0⟩⟩

end Path

end TransitMap
