import TransitMap.Layout.Basic
import TransitMap.Proofs.Layout.Placement
import TransitMap.Proofs.Side
import TransitMap.Proofs.Source.Soundness

/-!
When the alignments of a network hold at the positions of its layout. Rounding keeps them where each
pivot comes out whole, and the move to the origin keeps those that count each axis as often on both
sides.
-/

namespace TransitMap

open scoped ExactScalar

/-- The alignments hold, at the line width that is set, just if the equalities do. -/
theorem Network.alignmentsHold_iff {network : Network Rat} {settings : Settings Rat}
    {position : StationId → Point Rat} :
    network.AlignmentsHold settings.lineWidth (⌊(settings.lineWidth : ℝ) / √2⌋ : Int) position ↔
      ∀ equality ∈ network.equalities settings.width, equality.Holds (coordinateOf position) := by
  rw [← Scalar.floorSide_natCast, ← Network.equalities_hold_iff]
  rfl

namespace Layout

open Snapping (valueAt pivotValue snap)

variable {network : Network Rat} {settings : Settings Rat} {values : List Rat}

@[simp] theorem length_points (network : Network Rat) (values : List Rat) :
    (points network values).length = network.stations.length := by
  simp [points, Network.stationIds]

theorem getElem?_points (network : Network Rat) (values : List Rat) (index : Nat) :
    (points network values)[index]? =
      if index < network.stations.length then
        some ⟨valueAt values (2 * index), valueAt values (2 * index + 1)⟩
      else none := by
  rw [points, Network.stationIds, List.map_map, List.getElem?_map]
  split
  · next known =>
      rw [List.getElem?_range known]
      rfl
  · next outside => rw [List.getElem?_eq_none (by simpa using outside), Option.map_none]

theorem valueAt_eq_component (values : List Rat) (coordinate : Nat) :
    valueAt values coordinate = (⟨valueAt values (2 * (coordinate / 2)),
      valueAt values (2 * (coordinate / 2) + 1)⟩ : Point Rat).component
        (if coordinate % 2 = 0 then .x else .y) := by
  by_cases isX : coordinate % 2 = 0
  · have own : 2 * (coordinate / 2) = coordinate := by omega
    rw [if_pos isX, Point.component_x, own]
  · have own : 2 * (coordinate / 2) + 1 = coordinate := by omega
    rw [if_neg isX, Point.component_y, own]

def cornerOf (network : Network Rat) (values : List Rat) : Nat → Rat :=
  coordinateOf fun _ => corner (points network values)

theorem coordinateOf_position {layout : Layout Rat}
    (moved : layout.positions = toOrigin (points network values)) {coordinate : Nat}
    (bound : coordinate < 2 * network.stations.length) :
    coordinateOf layout.position coordinate =
      valueAt values coordinate - cornerOf network values coordinate := by
  have known : coordinate / 2 < network.stations.length := by omega
  have atStation : layout.position ⟨coordinate / 2⟩ =
      ⟨valueAt values (2 * (coordinate / 2)), valueAt values (2 * (coordinate / 2) + 1)⟩ -
        corner (points network values) := by
    simp only [position, moved, toOrigin, List.getD_eq_getElem?_getD, List.getElem?_map,
      getElem?_points, if_pos known, Option.map_some, Option.getD_some]
  rw [coordinateOf, cornerOf, coordinateOf, atStation, valueAt_eq_component values coordinate]
  split
  · rfl
  · rfl

/-- After the move a row misses less by what the corner has of its sum. -/
theorem excess_position {layout : Layout Rat}
    (moved : layout.positions = toOrigin (points network values)) {row : Row Rat}
    (length : row.coefficients.length = 2 * network.stations.length) :
    row.excess (coordinateOf layout.position) =
      row.excess (valueAt values) - row.total (cornerOf network values) := by
  have total : row.total (coordinateOf layout.position) =
      row.total (valueAt values) - row.total (cornerOf network values) := by
    rw [Row.total, Row.total, Row.total, ← Finset.sum_sub_distrib]
    refine Finset.sum_congr rfl fun coordinate member => ?_
    rw [coordinateOf_position moved (length ▸ Finset.mem_range.mp member), mul_sub]
  rw [Row.excess, Row.excess, total]
  ring

/-- What rounding leaves behind: every equality has one term for each coordinate, and each reduced
row misses what the rounding of its pivot adds. -/
theorem excess_of_wholeValues (found : wholeValues Placement.solve network settings = .ok values) :
    values.length = 2 * network.stations.length ∧
      (∀ equality ∈ network.equalities settings.width, equality.Fits values.length) ∧
      ∃ pivots, Echelon.ofEqualities values.length (network.equalities settings.width) = .ok pivots ∧
        ∀ pivot ∈ pivots, pivot.row.excess (valueAt values) =
          snap (pivotValue values pivot) - pivotValue values pivot := by
  simp only [wholeValues, Outcome.bind_eq_ok] at found
  obtain ⟨placement, checked, solution, solved, rounded⟩ := found
  obtain ⟨rfl, same, -, known⟩ := Placement.of_ofParts checked
  obtain ⟨length, pivots, built, missed⟩ := Snapping.excess_of_integral rounded
  have size := Placement.length_of_solve same solved
  have count : values.length = 2 * network.stations.length := by
    rw [length, size]
    simp [Placement.size, List.length_flatMap, Nat.mul_comm]
  rw [← length] at size built
  refine ⟨count, fun equality member => ?_, pivots, built, missed⟩
  exact ⟨Network.distinct_of_mem_equalities member, size ▸ known equality member⟩

def Aligned (layout : Layout Rat) (network : Network Rat) (width : Nat) : Prop :=
  network.AlignmentsHold width (⌊(width : ℝ) / √2⌋ : Int) layout.position

theorem aligned_iff_equalities {layout : Layout Rat} :
    layout.Aligned network settings.lineWidth ↔
      ∀ equality ∈ network.equalities settings.width, equality.Holds (coordinateOf layout.position) :=
  Network.alignmentsHold_iff

theorem ofNetwork_eq_ok_iff {placer : Placer Rat} {layout : Layout Rat} :
    ofNetwork placer network settings = .ok layout ↔ ∃ values layers,
      wholeValues placer network settings = .ok values ∧ stack network = .ok layers ∧
        layout = ⟨toOrigin (points network values), layers⟩ := by
  simp only [ofNetwork, place, Outcome.bind_eq_ok, Outcome.mapError_eq_ok, Except.ok.injEq]
  constructor
  · rintro ⟨_, ⟨values, found, rfl⟩, layers, stacked, rfl⟩
    exact ⟨values, layers, found, stacked, rfl⟩
  · rintro ⟨values, layers, found, stacked, rfl⟩
    exact ⟨_, ⟨values, found, rfl⟩, layers, stacked, rfl⟩

theorem ofNetwork_eq_error_iff {placer : Placer Rat} {fault : LayoutFault Rat} :
    ofNetwork placer network settings = .error fault ↔
      (∃ cause, wholeValues placer network settings = .error cause ∧ fault = .placement cause) ∨
      (∃ values, wholeValues placer network settings = .ok values) ∧ stack network = .error fault := by
  simp only [ofNetwork, place, Outcome.bind_eq_error, Outcome.bind_eq_ok, Outcome.mapError_eq_error,
    Outcome.mapError_eq_ok, reduceCtorEq, and_false, exists_false, or_false, Except.ok.injEq]
  grind

theorem positions_of_ofNetwork {layout : Layout Rat}
    (laidOut : ofNetwork Placement.solve network settings = .ok layout) :
    ∃ values, wholeValues Placement.solve network settings = .ok values ∧
      layout.positions = toOrigin (points network values) := by
  obtain ⟨values, layers, found, -, rfl⟩ := ofNetwork_eq_ok_iff.mp laidOut
  exact ⟨values, found, rfl⟩

/-- Balanced alignments do not tell how far all stations are moved. -/
theorem total_dense_of_balanced (balanced : ∀ alignment ∈ network.alignments, alignment.rule.Balanced)
    {size : Nat} {equality : Equality Rat} (fits : equality.Fits size) (point : Point Rat)
    (member : equality ∈ network.equalities settings.width) :
    (equality.dense size).total (coordinateOf fun _ => point) = 0 := by
  obtain ⟨alignment, isOne, inRule⟩ := List.mem_flatMap.mp member
  rw [fits.total_dense]
  exact Equality.sum_constant_of_mem_ofRule (balanced alignment isOne) inRule point

theorem total_row_of_balanced (balanced : ∀ alignment ∈ network.alignments, alignment.rule.Balanced)
    {size : Nat} (fits : ∀ equality ∈ network.equalities settings.width, equality.Fits size)
    {pivots : List (PivotRow Rat)} (point : Point Rat)
    (built : Echelon.ofEqualities size (network.equalities settings.width) = .ok pivots) :
    (∀ pivot ∈ pivots, pivot.row.total (coordinateOf fun _ => point) = 0) ∧
      ∀ equality ∈ network.equalities settings.width,
        ((equality.dense size).reduce pivots).total (coordinateOf fun _ => point) = 0 := by
  have closed := Row.closed_total size (coordinateOf fun _ => point)
  have dense : ∀ equality ∈ network.equalities settings.width,
      (equality.dense size).coefficients.length = size ∧
        (equality.dense size).total (coordinateOf fun _ => point) = 0 := fun equality member =>
    ⟨equality.length_dense size, total_dense_of_balanced balanced (fits equality member) point member⟩
  have rows := Echelon.holds_of_ofEqualities closed dense built
  exact ⟨fun pivot member => (rows pivot member).2,
    fun equality member => (closed.reduce (dense equality member) rows).2⟩

/-- At positions that are moved from rounded values, reduced rows are off by what rounding adds and
the move takes. -/
theorem aligned_iff_reduced {layout : Layout Rat}
    (count : values.length = 2 * network.stations.length)
    (moved : layout.positions = toOrigin (points network values))
    (fits : ∀ equality ∈ network.equalities settings.width, equality.Fits values.length)
    {pivots : List (PivotRow Rat)}
    (built : Echelon.ofEqualities values.length (network.equalities settings.width) = .ok pivots)
    (missed : ∀ pivot ∈ pivots, pivot.row.excess (valueAt values) =
      snap (pivotValue values pivot) - pivotValue values pivot) :
    layout.Aligned network settings.lineWidth ↔
      (∀ pivot ∈ pivots,
        snap (pivotValue values pivot) - pivotValue values pivot =
          pivot.row.total (cornerOf network values)) ∧
      ∀ equality ∈ network.equalities settings.width,
        ((equality.dense values.length).reduce pivots).excess (valueAt values) =
          ((equality.dense values.length).reduce pivots).total (cornerOf network values) := by
  have staircase := Echelon.staircase_of_ofEqualities built
  rw [aligned_iff_equalities, Echelon.equalities_hold_iff fits built]
  refine and_congr (forall₂_congr fun pivot member => ?_) (forall₂_congr fun equality _ => ?_)
  · rw [excess_position moved ((staircase.length pivot member).trans count), missed pivot member,
      sub_eq_zero]
  · have length := (Row.closed_length values.length).reduce
      (equality.length_dense values.length) staircase.length
    rw [excess_position moved (length.trans count), sub_eq_zero]

/-- The alignments hold in the layout just where, in every reduced row, rounding the pivot makes up
for the move to the origin, and so does whatever is left of every equality. If all alignments are
balanced, that is where every pivot comes out whole and nothing is left of any equality. -/
theorem aligned_iff {layout : Layout Rat}
    (laidOut : ofNetwork Placement.solve network settings = .ok layout) :
    ∃ values pivots, wholeValues Placement.solve network settings = .ok values ∧
      Echelon.ofEqualities values.length (network.equalities settings.width) = .ok pivots ∧
      (layout.Aligned network settings.lineWidth ↔
        (∀ pivot ∈ pivots,
          snap (pivotValue values pivot) - pivotValue values pivot =
            pivot.row.total (cornerOf network values)) ∧
        ∀ equality ∈ network.equalities settings.width,
          ((equality.dense values.length).reduce pivots).excess (valueAt values) =
            ((equality.dense values.length).reduce pivots).total (cornerOf network values)) ∧
      ((∀ alignment ∈ network.alignments, alignment.rule.Balanced) →
        (layout.Aligned network settings.lineWidth ↔
          (∀ pivot ∈ pivots, Scalar.IsWhole (pivotValue values pivot)) ∧
          ∀ equality ∈ network.equalities settings.width,
            ((equality.dense values.length).reduce pivots).excess (valueAt values) = 0)) := by
  obtain ⟨values, found, moved⟩ := positions_of_ofNetwork laidOut
  obtain ⟨count, fits, pivots, built, missed⟩ := excess_of_wholeValues found
  have exact := aligned_iff_reduced count moved fits built missed
  refine ⟨values, pivots, found, built, exact, fun balanced => ?_⟩
  obtain ⟨rows, rest⟩ := total_row_of_balanced balanced fits (corner (points network values)) built
  rw [exact, cornerOf]
  refine and_congr (forall₂_congr fun pivot member => ?_) (forall₂_congr fun equality member => ?_)
  · rw [rows pivot member, sub_eq_zero, Snapping.snap_eq_self_iff]
  · rw [rest equality member]

def cornerEquality : Equality Rat := ⟨[(0, 1), (2, -1)], 0, 7⟩

def cornerPivot : PivotRow Rat := ⟨0, ⟨[1, 0, -1, 0], 0⟩, cornerEquality⟩

theorem aligned_iff_corner :
    ofNetwork Placement.solve Network.corner .default = .ok ⟨[⟨0, 0⟩, ⟨0, 9⟩], [1]⟩ ∧
      Layout.Aligned ⟨[⟨0, 0⟩, ⟨0, 9⟩], [1]⟩ Network.corner 50 := by
  have rounded : wholeValues Placement.solve Network.corner .default = .ok [5, 0, 5, 9] := by cbv
  have laidOut :
      ofNetwork Placement.solve Network.corner .default = .ok ⟨[⟨0, 0⟩, ⟨0, 9⟩], [1]⟩ := by
    rw [ofNetwork, place, rounded]
    cbv
  refine ⟨laidOut, ?_⟩
  obtain ⟨values, pivots, found, built, -, balanced⟩ := aligned_iff laidOut
  obtain rfl := Except.ok.inj (found.symm.trans rounded)
  have equalities : Network.corner.equalities (Settings.width .default) = [cornerEquality] := by cbv
  rw [equalities] at built balanced
  have reduced : Echelon.ofEqualities 4 [cornerEquality] = .ok [cornerPivot] := by cbv
  obtain rfl := Except.ok.inj (built.symm.trans reduced)
  refine (balanced (by simp [Network.corner, AlignmentRule.Balanced])).mpr ⟨?_, ?_⟩
  · rw [List.forall_mem_singleton]
    exact ⟨5, by cbv⟩
  · have left : (cornerEquality.dense 4).reduce [cornerPivot] = ⟨[0, 0, 0, 0], 0⟩ := by cbv
    rw [List.forall_mem_singleton]
    refine (congrArg (fun row => row.excess (valueAt [5, 0, 5, 9])) left).trans ?_
    norm_num [Row.excess, Row.total, Row.coefficient, Finset.sum_range_succ]

def driftSource : List Char :=
  ("line red:\nstation \"A\" 10 0\nstation \"B\" 30 10\nedges \"A, B\"\n" ++
    "equal \"A.x\" \"B.y\"\n").toList

def drift : Network Rat where
  lines := [⟨"red", [("A", ⟨0⟩), ("B", ⟨1⟩)], [⟨⟨0⟩, ⟨1⟩⟩], [], []⟩]
  lineNames := [("red", ⟨0⟩)]
  stations := [⟨"A", ⟨0⟩, .station, "A", ⟨10, 0⟩⟩, ⟨"B", ⟨0⟩, .station, "B", ⟨30, 10⟩⟩]
  curves := []
  alignments := [⟨.equal [⟨⟨0⟩, .x⟩] [⟨⟨1⟩, .y⟩], some ⟨0⟩, 5, "equal \"A.x\" \"B.y\""⟩]
  overlaps := []

/-- The move to the origin takes ten from the x coordinates and nothing from the y coordinates. -/
theorem not_aligned_drift :
    Network.ofSource (fun _ name => some name) driftSource = .ok drift ∧
      (Settings.default : Settings Rat).fault? = none ∧
      wholeValues Placement.solve drift .default = .ok [10, 0, 30, 10] ∧
      ofNetwork Placement.solve drift .default = .ok ⟨[⟨0, 0⟩, ⟨20, 10⟩], [1]⟩ ∧
      ¬Layout.Aligned ⟨[⟨0, 0⟩, ⟨20, 10⟩], [1]⟩ drift (Settings.default : Settings Rat).lineWidth := by
  have rounded : wholeValues Placement.solve drift .default = .ok [10, 0, 30, 10] := by cbv
  have laidOut : ofNetwork Placement.solve drift .default = .ok ⟨[⟨0, 0⟩, ⟨20, 10⟩], [1]⟩ := by
    rw [ofNetwork, place, rounded]
    cbv
  refine ⟨by cbv, by cbv, rounded, laidOut, fun aligned => ?_⟩
  have holds := aligned _ List.mem_cons_self
  norm_num [drift, AlignmentRule.Holds, position] at holds

end Layout

end TransitMap
