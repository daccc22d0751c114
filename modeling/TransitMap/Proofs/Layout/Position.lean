import TransitMap.Proofs.Layout.Alignment
import TransitMap.Proofs.Plane.Whole

open TransitMap.Scalar (IsWhole)

namespace TransitMap

theorem isWhole_coordinateOf {position : StationId → Point Rat}
    (whole : ∀ station, (position station).IsWhole) (coordinate : Nat) :
    IsWhole (coordinateOf position coordinate) := by
  rw [coordinateOf]
  split
  · exact (whole _).x
  · exact (whole _).y

namespace Snapping

variable {values final : List Rat} {equalities : List (Equality Rat)}

theorem isWhole_free (pivots : List (PivotRow Rat)) (values : List Rat) :
    ∀ value ∈ free pivots values, IsWhole value := by
  intro value member
  obtain ⟨entry, -, rfl⟩ := List.mem_map.mp member
  split
  · exact .natCast 0
  · exact .round _

theorem isWhole_fix (whole : ∀ value ∈ values, IsWhole value) (pivot : PivotRow Rat) :
    ∀ value ∈ fix values pivot, IsWhole value := by
  intro value member
  rcases List.mem_or_eq_of_mem_set member with old | rfl
  · exact whole value old
  · exact .round _

theorem isWhole_foldr_fix (whole : ∀ value ∈ values, IsWhole value) (pivots : List (PivotRow Rat)) :
    ∀ value ∈ pivots.foldr (fun pivot values => fix values pivot) values, IsWhole value := by
  induction pivots with
  | nil => exact whole
  | cons pivot rest ih => exact isWhole_fix ih pivot

theorem isWhole_integral (rounded : integral values equalities = .ok final) :
    ∀ value ∈ final, IsWhole value := by
  simp only [integral, Outcome.bind_eq_ok, Except.ok.injEq] at rounded
  obtain ⟨pivots, -, rfl⟩ := rounded
  exact isWhole_foldr_fix (isWhole_free pivots values) pivots

end Snapping

namespace Layout

variable {values : List Rat} {points : List (Point Rat)}

theorem lesser_eq (left right : Rat) : lesser left right = min left right := by
  simp only [lesser, beq_self_eq_true, if_true, min_def]
  grind

theorem isLeast_least (nonempty : values ≠ []) : IsLeast {value | value ∈ values} (least values) := by
  obtain ⟨first, rest, rfl⟩ := List.exists_cons_of_ne_nil nonempty
  have smaller : (lesser : Rat → Rat → Rat) = min := by
    funext left right
    exact lesser_eq left right
  have isMin : (first :: rest).min? = some (least (first :: rest)) := by
    rw [least, smaller, List.min?_cons']
  exact List.min?_eq_some_iff.mp isMin

theorem isWhole_least (whole : ∀ value ∈ values, IsWhole value) : IsWhole (least values) := by
  by_cases empty : values = []
  · rw [empty]
    exact .natCast 0
  · exact whole _ (isLeast_least empty).1

theorem isWhole_valueAt (whole : ∀ value ∈ values, IsWhole value) (coordinate : Nat) :
    IsWhole (Snapping.valueAt values coordinate) := by
  rw [Snapping.valueAt, List.getD_eq_getElem?_getD]
  cases found : values[coordinate]? with
  | none => exact .natCast 0
  | some value => exact whole value (List.mem_of_getElem? found)

theorem isWhole_points (network : Network Rat) (whole : ∀ value ∈ values, IsWhole value) :
    ∀ point ∈ Layout.points network values, point.IsWhole := by
  intro point member
  obtain ⟨station, -, rfl⟩ := List.mem_map.mp member
  exact ⟨isWhole_valueAt whole _, isWhole_valueAt whole _⟩

theorem isWhole_toOrigin (whole : ∀ point ∈ points, point.IsWhole) :
    ∀ point ∈ toOrigin points, point.IsWhole := by
  have corner : (corner points).IsWhole := by
    constructor
    all_goals
      refine isWhole_least fun value member => ?_
      obtain ⟨point, isPoint, rfl⟩ := List.mem_map.mp member
    · exact (whole point isPoint).x
    · exact (whole point isPoint).y
  intro point member
  obtain ⟨original, isOriginal, rfl⟩ := List.mem_map.mp member
  have isWhole := whole original isOriginal
  exact ⟨isWhole.x.sub corner.x, isWhole.y.sub corner.y⟩

/-- All positions are on the grid, however the values were found. -/
theorem isWhole_of_ofNetwork {placer : Placer Rat} {network : Network Rat}
    {settings : Settings Rat} {layout : Layout Rat}
    (laidOut : ofNetwork placer network settings = .ok layout) :
    ∀ position ∈ layout.positions, position.IsWhole := by
  obtain ⟨values, layers, found, -, rfl⟩ := ofNetwork_eq_ok_iff.mp laidOut
  simp only [wholeValues, Outcome.bind_eq_ok] at found
  obtain ⟨placement, -, best, -, rounded⟩ := found
  exact isWhole_toOrigin (isWhole_points network (Snapping.isWhole_integral rounded))

end Layout

end TransitMap
