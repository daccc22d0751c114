import TransitMap.Proofs.Layout.Rounding
import TransitMap.Proofs.Layout.Sketch

/-!
Sketches that are moved by whole numbers. The best values move along, and the layout stays as it is
if rounding moves all coordinates of an axis alike. Since rounding goes away from zero at a half, a
value that is taken from a half across zero moves farther than the others, or less far.
-/

open TransitMap.Echelon (Staircase)
open TransitMap.Scalar (IsWhole)
open TransitMap.Snapping (valueAt)

namespace TransitMap

open scoped ExactScalar

namespace Snapping

variable {values final : List Rat} {amounts steps : Nat → Rat} {pivots : List (PivotRow Rat)}
  {equalities : List (Equality Rat)}

def shift (amounts : Nat → Rat) (values : List Rat) : List Rat :=
  values.mapIdx fun coordinate value => value + amounts coordinate

@[simp] theorem length_shift (amounts : Nat → Rat) (values : List Rat) :
    (shift amounts values).length = values.length :=
  List.length_mapIdx

theorem valueAt_shift {coordinate : Nat} (bound : coordinate < values.length) :
    valueAt (shift amounts values) coordinate = valueAt values coordinate + amounts coordinate := by
  simp [valueAt, shift, List.getD_eq_getElem?_getD, bound]

theorem pivotValue_shift (staircase : Staircase values.length pivots)
    (still : ∀ pivot ∈ pivots, pivot.row.total amounts = 0) : ∀ pivot ∈ pivots,
      pivotValue (shift amounts values) pivot =
        pivotValue values pivot + amounts pivot.coordinate := by
  intro pivot member
  have length := staircase.length pivot member
  have bound := staircase.bound pivot member
  have unit := staircase.unit pivot member
  have moved := @excess_eq (shift amounts values) pivot
    (length.trans (length_shift amounts values).symm) (bound.trans_eq (length_shift ..).symm) unit
  have total : pivot.row.total (valueAt (shift amounts values)) = pivot.row.total (valueAt values) := by
    rw [← add_zero (pivot.row.total (valueAt values)), ← still pivot member, ← Row.total_add]
    exact Row.total_congr fun coordinate inside => valueAt_shift (length ▸ inside)
  rw [valueAt_shift bound, Row.excess, total] at moved
  have before := excess_eq length bound unit
  rw [Row.excess] at before
  linarith

/-- If the values are moved by the amounts, rounding moves all coordinates by the steps: those that
are no pivots, and then the pivots that follow from them. -/
structure RoundsTo (pivots : List (PivotRow Rat)) (values final : List Rat)
    (amounts steps : Nat → Rat) : Prop where
  free : ∀ coordinate < values.length, (∀ pivot ∈ pivots, pivot.coordinate ≠ coordinate) →
    snap (valueAt values coordinate + amounts coordinate) =
      snap (valueAt values coordinate) + steps coordinate
  pivot : ∀ pivot ∈ pivots, snap (pivotValue final pivot + steps pivot.coordinate) =
    snap (pivotValue final pivot) + steps pivot.coordinate

/-- Moved by the amounts, no value that is rounded is taken from a half across zero. -/
structure Clear (pivots : List (PivotRow Rat)) (values final : List Rat) (amounts : Nat → Rat) :
    Prop where
  free : ∀ coordinate < values.length, (∀ pivot ∈ pivots, pivot.coordinate ≠ coordinate) →
    ¬Crosses (valueAt values coordinate) (valueAt values coordinate + amounts coordinate)
  pivot : ∀ pivot ∈ pivots,
    ¬Crosses (pivotValue final pivot) (pivotValue final pivot + amounts pivot.coordinate)

theorem roundsTo_self_iff (whole : ∀ coordinate, IsWhole (amounts coordinate)) :
    RoundsTo pivots values final amounts amounts ↔ Clear pivots values final amounts := by
  constructor
  · intro rounds
    exact ⟨fun coordinate bound isFree =>
        (snap_add_eq_iff _ (whole coordinate)).mp (rounds.free coordinate bound isFree),
      fun pivot member => (snap_add_eq_iff _ (whole _)).mp (rounds.pivot pivot member)⟩
  · intro clear
    exact ⟨fun coordinate bound isFree =>
        (snap_add_eq_iff _ (whole coordinate)).mpr (clear.free coordinate bound isFree),
      fun pivot member => (snap_add_eq_iff _ (whole _)).mpr (clear.pivot pivot member)⟩

theorem integral_shift_iff (built : Echelon.ofEqualities values.length equalities = .ok pivots)
    (rounded : integral values equalities = .ok final)
    (still : ∀ pivot ∈ pivots, pivot.row.total steps = 0) :
    integral (shift amounts values) equalities = .ok (shift steps final) ↔
      RoundsTo pivots values final amounts steps := by
  obtain ⟨length, isRounded, settled⟩ := (integral_eq_ok_iff built).mp rounded
  have staircase := Echelon.staircase_of_ofEqualities built
  have fits := pivotValue_shift (length.symm ▸ staircase) still
  have atPivot : ∀ pivot ∈ pivots, valueAt (shift steps final) pivot.coordinate =
      snap (pivotValue final pivot) + steps pivot.coordinate := by
    intro pivot member
    rw [valueAt_shift (length ▸ staircase.bound pivot member), settled pivot member]
  have atFree : ∀ coordinate < values.length, (∀ pivot ∈ pivots, pivot.coordinate ≠ coordinate) →
      valueAt (shift steps final) coordinate =
        snap (valueAt values coordinate) + steps coordinate := by
    intro coordinate bound isFree
    rw [valueAt_shift (length ▸ bound), isRounded coordinate bound isFree]
  rw [integral_eq_ok_iff (by rwa [length_shift]), length_shift, length_shift]
  constructor
  · rintro ⟨-, otherRounded, otherSettled⟩
    constructor
    · intro coordinate bound isFree
      rw [← valueAt_shift bound, ← otherRounded coordinate bound isFree,
        atFree coordinate bound isFree]
    · intro pivot member
      rw [← fits pivot member, ← otherSettled pivot member, atPivot pivot member]
  · intro rounds
    refine ⟨length, fun coordinate bound isFree => ?_, fun pivot member => ?_⟩
    · rw [atFree coordinate bound isFree, valueAt_shift bound, rounds.free coordinate bound isFree]
    · rw [atPivot pivot member, fits pivot member, rounds.pivot pivot member]

theorem integral_shift_eq_error {fault : PlacementFault Rat}
    (failed : integral values equalities = .error fault) :
    integral (shift amounts values) equalities = .error fault := by
  rw [integral, length_shift]
  simpa only [integral, Outcome.bind_eq_error, reduceCtorEq, and_false, exists_false, or_false]
    using failed

end Snapping

namespace Placement

variable {placement : Placement Rat} {amounts : Nat → Rat} {equalities : List (Equality Rat)}
  {values : Nat → Rat}

open Snapping (shift)

def shifted (placement : Placement Rat) (amounts : Nat → Rat) : Placement Rat :=
  { placement with targets := shift amounts placement.targets }

@[simp] theorem size_shifted (placement : Placement Rat) (amounts : Nat → Rat) :
    (placement.shifted amounts).size = placement.size :=
  Snapping.length_shift amounts placement.targets

theorem ofParts_shift (targets weights : List Rat) :
    ofParts (shift amounts targets) weights equalities =
      (ofParts targets weights equalities).map (shifted · amounts) := by
  unfold ofParts
  rw [Snapping.length_shift]
  split
  · rfl
  · split
    · rfl
    · split <;> rfl

theorem conditions_shifted {others : Nat → Rat}
    (still : ∀ equality ∈ equalities, (equality.dense placement.size).total amounts = 0)
    (hold : ∀ row ∈ placement.conditions equalities, row.excess values = 0)
    (inside : ∀ coordinate < placement.size,
      others coordinate = values coordinate + amounts coordinate)
    (behind : ∀ index, others (placement.size + index) = values (placement.size + index)) :
    ∀ row ∈ (placement.shifted amounts).conditions equalities, row.excess others = 0 := by
  intro row member
  rcases mem_conditions.mp member with
    ⟨coordinate, target, weight, found, weighed, rfl⟩ | ⟨equality, isOne, rfl⟩
  · obtain ⟨before, isTarget, rfl⟩ : ∃ before, placement.targets[coordinate]? = some before ∧
        before + amounts coordinate = target := by
      simpa [shifted, shift] using found
    have bound : coordinate < placement.size := (List.getElem?_eq_some_iff.mp isTarget).1
    have stationary := hold _ (mem_conditions.mpr
      (.inl ⟨coordinate, before, weight, isTarget, weighed, rfl⟩))
    rw [Row.excess, total_stationaryRow bound] at stationary
    rw [size_shifted, Row.excess, total_stationaryRow bound, inside coordinate bound]
    simp only [behind]
    change _ - 2 * weight * before = 0 at stationary
    change _ - 2 * weight * (before + amounts coordinate) = 0
    linarith
  · have holds := hold _ (mem_conditions.mpr (.inr ⟨equality, isOne, rfl⟩))
    rw [Row.excess, total_equalityRow] at holds
    have moved : (equality.dense placement.size).total others =
        (equality.dense placement.size).total fun coordinate =>
          values coordinate + amounts coordinate :=
      Row.total_congr fun coordinate bound =>
        inside coordinate (equality.length_dense placement.size ▸ bound)
    rw [size_shifted, Row.excess, total_equalityRow, moved, Row.total_add, still equality isOne,
      add_zero]
    exact holds

/-- The best values are moved along with the targets, if that changes no equality. -/
theorem solve_shifted (same : placement.targets.length = placement.weights.length)
    (positive : ∀ weight ∈ placement.weights, 0 < weight)
    (still : ∀ equality ∈ placement.equalities,
      (equality.dense placement.size).total amounts = 0) :
    (placement.shifted amounts).solve = placement.solve.map (shift amounts) := by
  have size := size_shifted placement amounts
  cases built : Echelon.ofEqualities placement.size placement.equalities with
  | error refused =>
      rw [solve, solve, reduced, reduced, size, shifted, built]
      rfl
  | ok pivots =>
      by_cases empty : placement.targets = []
      · rw [solve, solve, reduced, reduced, size, shifted, built, empty]
        rfl
      · obtain ⟨values, hold⟩ := exists_conditions_hold same positive built
        have kept : ∀ equality ∈ Echelon.independent pivots,
            (equality.dense placement.size).total amounts = 0 := fun equality member =>
          still equality (Echelon.mem_of_ofEqualities built equality member)
        -- The multiples stay as they are.
        let others := fun index => values index + if index < placement.size then amounts index else 0
        have inside : ∀ coordinate < placement.size,
            others coordinate = values coordinate + amounts coordinate := fun coordinate bound =>
          congrArg (values coordinate + ·) (if_pos bound)
        have moved := conditions_shifted kept hold inside fun index => by simp [others]
        have otherNonempty : (placement.shifted amounts).targets ≠ [] := by
          simpa [← List.length_pos_iff, shifted] using empty
        rw [solve_eq_ok same positive empty built hold,
          solve_eq_ok (size.trans same) positive otherNonempty (size.symm ▸ built) moved, size]
        refine congrArg Except.ok (Snapping.ext_valueAt (by simp) fun coordinate bound => ?_)
        rw [Snapping.length_shift, List.length_map, List.length_range] at bound
        rw [Snapping.valueAt_shift (by simpa using bound), Snapping.valueAt_map_range _ bound,
          Snapping.valueAt_map_range _ bound, inside coordinate bound]

end Placement

namespace Layout

open Snapping (shift)

variable {network : Network Rat} {settings : Settings Rat} {values others : List Rat}

theorem points_shift (enough : 2 * network.stations.length ≤ values.length) (step : Point Rat) :
    points network (shift (coordinateOf fun _ => step) values) =
      (points network values).map (· + step) := by
  apply List.ext_getElem?
  intro index
  have even : coordinateOf (fun _ => step) (2 * index) = step.x := by simp [coordinateOf]
  have odd : coordinateOf (fun _ => step) (2 * index + 1) = step.y := by
    simp [coordinateOf, Nat.add_mod]
  rw [getElem?_points, List.getElem?_map, getElem?_points]
  split
  · next known =>
      rw [Snapping.valueAt_shift (by omega), Snapping.valueAt_shift (by omega), even, odd]
      rfl
  · rfl

theorem least_map_add (amount : Rat) (nonempty : values ≠ []) :
    least (values.map (· + amount)) = least values + amount := by
  have isLeast := isLeast_least nonempty
  have otherIsLeast : IsLeast {value | value ∈ values.map (· + amount)} (least values + amount) := by
    constructor
    · exact List.mem_map.mpr ⟨_, isLeast.1, rfl⟩
    · intro value member
      obtain ⟨before, isOne, rfl⟩ := List.mem_map.mp member
      exact add_le_add_left (isLeast.2 isOne) amount
  exact (isLeast_least (by simpa using nonempty)).unique otherIsLeast

theorem toOrigin_map_add (points : List (Point Rat)) (step : Point Rat) :
    toOrigin (points.map (· + step)) = toOrigin points := by
  by_cases empty : points = []
  · rw [empty]
    rfl
  have moved : corner (points.map (· + step)) = corner points + step := by
    have left := least_map_add step.x (List.map_eq_nil_iff.not.mpr empty : points.map Point.x ≠ [])
    have top := least_map_add step.y (List.map_eq_nil_iff.not.mpr empty : points.map Point.y ≠ [])
    rw [List.map_map] at left top
    rw [corner, List.map_map, List.map_map]
    exact congrArg₂ Point.mk left top
  rw [toOrigin, moved, List.map_map, toOrigin]
  exact List.map_congr_left fun point _ =>
    Point.ext (add_sub_add_right_eq_sub ..) (add_sub_add_right_eq_sub ..)

theorem coordinateOf_sub (point other : Point Rat) (coordinate : Nat) :
    coordinateOf (fun _ => point - other) coordinate =
      coordinateOf (fun _ => point) coordinate - coordinateOf (fun _ => other) coordinate := by
  simp only [coordinateOf]
  split <;> rfl

theorem eq_shift_of_toOrigin_eq (count : values.length = 2 * network.stations.length)
    (length : others.length = values.length)
    (same : toOrigin (points network others) = toOrigin (points network values)) :
    ∃ step, others = shift (coordinateOf fun _ => step) values := by
  let layout : Layout Rat := ⟨toOrigin (points network values), []⟩
  refine ⟨corner (points network others) - corner (points network values),
    Snapping.ext_valueAt (by rw [length, Snapping.length_shift]) fun coordinate bound => ?_⟩
  rw [Snapping.length_shift] at bound
  have before := @coordinateOf_position network values layout rfl coordinate (count ▸ bound)
  have after := @coordinateOf_position network others layout same.symm coordinate (count ▸ bound)
  rw [before, cornerOf, cornerOf] at after
  rw [Snapping.valueAt_shift bound, coordinateOf_sub]
  linarith

end Layout

def Network.moved (network : Network Rat) (offset : Point Rat) : Network Rat :=
  { network with stations := network.stations.map fun station =>
      { station with sketch := station.sketch + offset } }

theorem Network.sketchValues_moved (network : Network Rat) (offset : Point Rat) :
    (network.moved offset).sketchValues =
      Snapping.shift (coordinateOf fun _ => offset) network.sketchValues := by
  refine Snapping.ext_valueAt (by simp [length_sketchValues, moved]) fun coordinate bound => ?_
  rw [Snapping.length_shift] at bound
  have known : coordinate / 2 < network.stations.length := by
    rw [length_sketchValues] at bound
    omega
  have atStation : (network.moved offset).sketch ⟨coordinate / 2⟩ =
      network.sketch ⟨coordinate / 2⟩ + offset := by
    simp [sketch, moved, station?, known]
  rw [Snapping.valueAt_shift bound, valueAt_sketchValues, valueAt_sketchValues, coordinateOf,
    atStation, coordinateOf, coordinateOf]
  split <;> rfl

namespace Layout

open Snapping (shift integral RoundsTo Clear)

variable {network : Network Rat} {settings : Settings Rat}

theorem points_moved (offset : Point Rat) (values : List Rat) :
    points (network.moved offset) values = points network values := by
  simp only [points, Network.stationIds, Network.moved, List.length_map]

theorem weightValues_moved (offset : Point Rat) :
    weightValues (network.moved offset) settings = weightValues network settings := by
  rw [weightValues, Network.moved, List.flatMap_map]
  rfl

theorem placement_moved (offset : Point Rat) :
    placement (network.moved offset) settings =
      (placement network settings).map (Placement.shifted · (coordinateOf fun _ => offset)) := by
  have moved : placement (network.moved offset) settings =
      Placement.ofParts (network.moved offset).sketchValues
        (weightValues (network.moved offset) settings) (network.equalities settings.width) := rfl
  rw [moved, network.sketchValues_moved, weightValues_moved, Placement.ofParts_shift]
  rfl

def bestValues (network : Network Rat) (settings : Settings Rat) :
    Except (PlacementFault Rat) (List Rat) :=
  placement network settings >>= Placement.solve

/-- The best values move along with the sketch. -/
theorem bestValues_moved (balanced : ∀ alignment ∈ network.alignments, alignment.rule.Balanced)
    (offset : Point Rat) : bestValues (network.moved offset) settings =
      (bestValues network settings).map (shift (coordinateOf fun _ => offset)) := by
  rw [bestValues, bestValues, placement_moved]
  cases checked : placement network settings with
  | error fault => rfl
  | ok task =>
      obtain ⟨rfl, same, positive, known⟩ := Placement.of_ofParts checked
      refine Placement.solve_shifted same positive fun equality member => ?_
      exact total_dense_of_balanced balanced
        ⟨Network.distinct_of_mem_equalities member, known equality member⟩ offset member

theorem wholeValues_eq_bind (network : Network Rat) (settings : Settings Rat) :
    wholeValues Placement.solve network settings = bestValues network settings >>= fun values =>
      integral values (network.equalities settings.width) := by
  rw [wholeValues, bestValues]
  cases checked : placement network settings with
  | error fault => rfl
  | ok task =>
      obtain ⟨rfl, -⟩ := Placement.of_ofParts checked
      rfl

theorem wholeValues_moved_eq_error
    (balanced : ∀ alignment ∈ network.alignments, alignment.rule.Balanced) (offset : Point Rat)
    {fault : PlacementFault Rat}
    (failed : wholeValues Placement.solve network settings = .error fault) :
    wholeValues Placement.solve (network.moved offset) settings = .error fault := by
  rw [wholeValues_eq_bind] at failed ⊢
  rw [bestValues_moved balanced]
  cases best : bestValues network settings with
  | error other =>
      rw [best] at failed
      exact failed
  | ok values =>
      rw [best] at failed
      exact Snapping.integral_shift_eq_error failed

theorem exists_wholeValues_moved
    (balanced : ∀ alignment ∈ network.alignments, alignment.rule.Balanced) (offset : Point Rat)
    {final : List Rat} (found : wholeValues Placement.solve network settings = .ok final) :
    ∃ values pivots otherFinal, bestValues network settings = .ok values ∧
      Echelon.ofEqualities values.length (network.equalities settings.width) = .ok pivots ∧
      integral values (network.equalities settings.width) = .ok final ∧
      integral (shift (coordinateOf fun _ => offset) values) (network.equalities settings.width) =
        .ok otherFinal ∧
      wholeValues Placement.solve (network.moved offset) settings = .ok otherFinal := by
  rw [wholeValues_eq_bind, Outcome.bind_eq_ok] at found
  obtain ⟨values, best, rounded⟩ := found
  obtain ⟨pivots, built⟩ := Snapping.exists_pivots_of_integral rounded
  have otherBuilt := (Snapping.length_shift (coordinateOf fun _ => offset) values).symm ▸ built
  have otherRounded := Snapping.integral_of_ofEqualities otherBuilt
  refine ⟨values, pivots, _, best, built, rounded, otherRounded, ?_⟩
  rw [wholeValues_eq_bind, bestValues_moved balanced, best]
  exact otherRounded

theorem toOrigin_eq_iff_roundsTo {values final otherFinal : List Rat} {pivots : List (PivotRow Rat)}
    {amounts : Nat → Rat} {equalities : List (Equality Rat)}
    (count : final.length = 2 * network.stations.length)
    (built : Echelon.ofEqualities values.length equalities = .ok pivots)
    (still : ∀ pivot ∈ pivots, ∀ step, pivot.row.total (coordinateOf fun _ => step) = 0)
    (rounded : integral values equalities = .ok final)
    (otherRounded : integral (shift amounts values) equalities = .ok otherFinal) :
    toOrigin (points network otherFinal) = toOrigin (points network final) ↔
      ∃ step, RoundsTo pivots values final amounts (coordinateOf fun _ => step) := by
  have length := ((Snapping.integral_eq_ok_iff built).mp rounded).1
  have otherLength := (Snapping.excess_of_integral otherRounded).1
  rw [Snapping.length_shift, ← length] at otherLength
  constructor
  · intro same
    obtain ⟨step, rfl⟩ := eq_shift_of_toOrigin_eq count otherLength same
    exact ⟨step, (Snapping.integral_shift_iff built rounded fun pivot member =>
      still pivot member step).mp otherRounded⟩
  · rintro ⟨step, rounds⟩
    have moved := (Snapping.integral_shift_iff built rounded fun pivot member =>
      still pivot member step).mpr rounds
    obtain rfl := Except.ok.inj (otherRounded.symm.trans moved)
    rw [points_shift count.ge, toOrigin_map_add]

theorem ofNetwork_moved_eq_error
    (balanced : ∀ alignment ∈ network.alignments, alignment.rule.Balanced) (offset : Point Rat)
    {fault : LayoutFault Rat} (failed : ofNetwork Placement.solve network settings = .error fault) :
    ofNetwork Placement.solve (network.moved offset) settings = .error fault := by
  rw [ofNetwork_eq_error_iff] at failed ⊢
  rcases failed with ⟨cause, found, rfl⟩ | ⟨⟨final, found⟩, stacked⟩
  · exact .inl ⟨cause, wholeValues_moved_eq_error balanced offset found, rfl⟩
  · obtain ⟨-, -, otherFinal, -, -, -, -, otherFound⟩ :=
      exists_wholeValues_moved balanced offset found
    exact .inr ⟨⟨otherFinal, otherFound⟩, stacked⟩

/-- A sketch that is moved by whole numbers has a layout just if it had one before. Its best values
are moved along. The layout stays as it is just if rounding moves all coordinates of an axis alike,
and so it does unless it takes a value from a half across zero. -/
theorem ofNetwork_moved (balanced : ∀ alignment ∈ network.alignments, alignment.rule.Balanced)
    (x y : Int) :
    (∀ fault, ofNetwork Placement.solve network settings = .error fault →
      ofNetwork Placement.solve (network.moved (.ofGrid x y)) settings = .error fault) ∧
    ∀ layout, ofNetwork Placement.solve network settings = .ok layout →
      ∃ values pivots final other, bestValues network settings = .ok values ∧
        Echelon.ofEqualities values.length (network.equalities settings.width) = .ok pivots ∧
        integral values (network.equalities settings.width) = .ok final ∧
        bestValues (network.moved (.ofGrid x y)) settings =
          .ok (shift (coordinateOf fun _ => .ofGrid x y) values) ∧
        ofNetwork Placement.solve (network.moved (.ofGrid x y)) settings = .ok other ∧
        (other = layout ↔ ∃ step, RoundsTo pivots values final
          (coordinateOf fun _ => .ofGrid x y) (coordinateOf fun _ => step)) ∧
        (Clear pivots values final (coordinateOf fun _ => .ofGrid x y) → other = layout) := by
  refine ⟨fun fault => ofNetwork_moved_eq_error balanced _, fun layout laidOut => ?_⟩
  obtain ⟨final, layers, found, stacked, rfl⟩ := ofNetwork_eq_ok_iff.mp laidOut
  obtain ⟨values, pivots, otherFinal, best, built, rounded, otherRounded, otherFound⟩ :=
    exists_wholeValues_moved balanced (.ofGrid x y) found
  have otherBest : bestValues (network.moved (.ofGrid x y)) settings =
      .ok (shift (coordinateOf fun _ => .ofGrid x y) values) := by
    rw [bestValues_moved balanced, best]
    rfl
  obtain ⟨count, fits, -⟩ := excess_of_wholeValues found
  rw [((Snapping.integral_eq_ok_iff built).mp rounded).1] at fits
  have same := toOrigin_eq_iff_roundsTo count built (fun pivot member step =>
    (total_row_of_balanced balanced fits step built).1 pivot member) rounded otherRounded
  have whole : ∀ coordinate, IsWhole (coordinateOf (fun _ => .ofGrid x y) coordinate) :=
    isWhole_coordinateOf fun _ => ⟨.intCast x, .intCast y⟩
  have moved := ofNetwork_eq_ok_iff.mpr ⟨otherFinal, layers, otherFound, stacked, rfl⟩
  rw [points_moved] at moved
  refine ⟨values, pivots, final, ⟨toOrigin (points network otherFinal), layers⟩, best, built, rounded,
    otherBest, moved, ?_, fun clear => ?_⟩
  · rw [← same, Layout.mk.injEq, and_iff_left rfl]
  · rw [same.mpr ⟨_, (Snapping.roundsTo_self_iff whole).mpr clear⟩]

def steepSource : List Char :=
  ("line red:\nstation \"A\" 0 0\nstation \"B\" 1 10\nstation \"C\" 0 20\n" ++
    "edges \"A, B, C\"\nvertical \"A, B\"\n").toList

def steep : Network Rat where
  lines := [⟨"red", [("A", ⟨0⟩), ("B", ⟨1⟩), ("C", ⟨2⟩)], [⟨⟨0⟩, ⟨1⟩⟩, ⟨⟨1⟩, ⟨2⟩⟩], [], []⟩]
  lineNames := [("red", ⟨0⟩)]
  stations := [⟨"A", ⟨0⟩, .station, "A", ⟨0, 0⟩⟩, ⟨"B", ⟨0⟩, .station, "B", ⟨1, 10⟩⟩,
    ⟨"C", ⟨0⟩, .station, "C", ⟨0, 20⟩⟩]
  curves := []
  alignments := [⟨.axis .vertical [⟨0⟩, ⟨1⟩], some ⟨0⟩, 6, "vertical \"A, B\""⟩]
  overlaps := []

def steepPivot : PivotRow Rat := ⟨0, ⟨[1, 0, -1, 0, 0, 0], 0⟩, ⟨[(0, 1), (2, -1)], 0, 6⟩⟩

theorem bestValues_steep : bestValues steep .default = .ok [1 / 2, 0, 1 / 2, 10, 0, 20] := by
  cbv

theorem integral_steep : integral [1 / 2, 0, 1 / 2, 10, 0, 20]
    (steep.equalities (Settings.width .default)) = .ok [1, 0, 1, 10, 0, 20] := by
  cbv

theorem ofNetwork_steep :
    ofNetwork Placement.solve steep .default = .ok ⟨[⟨1, 0⟩, ⟨1, 10⟩, ⟨0, 20⟩], [1]⟩ := by
  refine ofNetwork_eq_ok_iff.mpr ⟨[1, 0, 1, 10, 0, 20], [1], ?_, rfl, by cbv⟩
  rw [wholeValues_eq_bind, bestValues_steep]
  exact integral_steep

theorem ofNetwork_moved_steep :
    ofNetwork Placement.solve (steep.moved (.ofGrid 3 (-4))) .default =
      ofNetwork Placement.solve steep .default := by
  have reduced : Echelon.ofEqualities 6 (steep.equalities (Settings.width .default)) =
      .ok [steepPivot] := by cbv
  have balanced : ∀ alignment ∈ steep.alignments, alignment.rule.Balanced := by
    simp [steep, AlignmentRule.Balanced]
  obtain ⟨values, pivots, final, other, best, built, rounded, -, laidOut, -, stays⟩ :=
    (ofNetwork_moved balanced 3 (-4)).2 _ ofNetwork_steep
  obtain rfl := Except.ok.inj (best.symm.trans bestValues_steep)
  obtain rfl := Except.ok.inj (built.symm.trans reduced)
  obtain rfl := Except.ok.inj (rounded.symm.trans integral_steep)
  rw [laidOut, ofNetwork_steep, stays ⟨fun coordinate bound isFree => ?_, fun pivot member => ?_⟩]
  · have notPivot : 0 ≠ coordinate := isFree steepPivot (List.mem_singleton.mpr rfl)
    obtain _ | _ | _ | _ | _ | _ | coordinate := coordinate
    · exact absurd rfl notPivot
    · exact Snapping.not_crosses_of_isWhole (.natCast 0) _
    · intro crosses
      norm_num [Snapping.Crosses, coordinateOf, Point.ofGrid, valueAt] at crosses
    · exact Snapping.not_crosses_of_isWhole (.natCast 10) _
    · exact Snapping.not_crosses_of_isWhole (.natCast 0) _
    · exact Snapping.not_crosses_of_isWhole (.natCast 20) _
    · exact absurd bound (by simp)
  · obtain rfl := List.mem_singleton.mp member
    exact Snapping.not_crosses_of_isWhole ⟨1, by cbv⟩ _

def steepMovedSource : List Char :=
  ("line red:\nstation \"A\" -10 0\nstation \"B\" -9 10\nstation \"C\" -10 20\n" ++
    "edges \"A, B, C\"\nvertical \"A, B\"\n").toList

/-- Ten to the left, both stations are halfway on the other side of zero, and are rounded to the
left instead of to the right. -/
theorem not_ofNetwork_moved_steep :
    Network.ofSource (fun _ name => some name) steepSource = .ok steep ∧
      Network.ofSource (fun _ name => some name) steepMovedSource =
        .ok (steep.moved (.ofGrid (-10) 0)) ∧
      ofNetwork Placement.solve steep .default = .ok ⟨[⟨1, 0⟩, ⟨1, 10⟩, ⟨0, 20⟩], [1]⟩ ∧
      ofNetwork Placement.solve (steep.moved (.ofGrid (-10) 0)) .default =
        .ok ⟨[⟨0, 0⟩, ⟨0, 10⟩, ⟨0, 20⟩], [1]⟩ ∧
      ofNetwork Placement.solve (steep.moved (.ofGrid (-10) 0)) .default ≠
        ofNetwork Placement.solve steep .default := by
  have found : wholeValues Placement.solve (steep.moved (.ofGrid (-10) 0)) .default =
      .ok [-10, 0, -10, 10, -10, 20] := by cbv
  have laidOut : ofNetwork Placement.solve (steep.moved (.ofGrid (-10) 0)) .default =
      .ok ⟨[⟨0, 0⟩, ⟨0, 10⟩, ⟨0, 20⟩], [1]⟩ :=
    ofNetwork_eq_ok_iff.mpr ⟨_, [1], found, rfl, by cbv⟩
  refine ⟨by cbv, by cbv, ofNetwork_steep, laidOut, ?_⟩
  rw [laidOut, ofNetwork_steep]
  decide

end Layout

end TransitMap
