import TransitMap.Proofs.Layout.Placement
import TransitMap.Proofs.Layout.Position
import TransitMap.Proofs.Layout.Stacking
import TransitMap.Proofs.Source.Reading

open Relation (TransGen)
open TransitMap.Scalar (IsWhole)
open TransitMap.Snapping (valueAt)
open TransitMap.Stacking (Among Covers)

namespace TransitMap

namespace Network

variable {network : Network Rat} {resolver : Resolver} {source : List Char}

def sketch (network : Network Rat) (station : StationId) : Point Rat :=
  ((network.station? station).map Station.sketch).getD default

def sketchValues (network : Network Rat) : List Rat :=
  network.stations.flatMap fun station => [station.sketch.x, station.sketch.y]

theorem length_sketchValues (network : Network Rat) :
    network.sketchValues.length = 2 * network.stations.length := by
  simp [sketchValues, List.length_flatMap, Nat.mul_comm]

theorem points_sketchValues (network : Network Rat) :
    Layout.points network network.sketchValues = network.stations.map Station.sketch := by
  rw [Layout.points, stationIds, sketchValues, List.map_map]
  induction network.stations with
  | nil => rfl
  | cons station rest ih =>
      rw [List.length_cons, List.range_succ_eq_map, List.map_cons, List.map_map, List.map_cons, ← ih]
      rfl

theorem valueAt_sketchValues (network : Network Rat) :
    valueAt network.sketchValues = coordinateOf network.sketch := by
  funext coordinate
  have atStation : (network.station? ⟨coordinate / 2⟩).map Station.sketch =
      if coordinate / 2 < network.stations.length then
        some ⟨valueAt network.sketchValues (2 * (coordinate / 2)),
          valueAt network.sketchValues (2 * (coordinate / 2) + 1)⟩
      else none := by
    rw [station?, ← List.getElem?_map, ← points_sketchValues, Layout.getElem?_points]
  rw [coordinateOf, sketch, atStation]
  split
  · exact Layout.valueAt_eq_component _ coordinate
  · have outside : network.sketchValues.length ≤ coordinate := by
      rw [length_sketchValues]
      omega
    rw [valueAt, List.getD_eq_getElem?_getD, List.getElem?_eq_none outside, Option.getD_none,
      Option.getD_none]
    split <;> rfl

theorem isWhole_sketch (read : ofSource resolver source = .ok network) (station : StationId) :
    (network.sketch station).IsWhole := by
  rw [sketch]
  cases found : network.station? station with
  | none => exact .default
  | some known =>
      obtain ⟨x, y, sketched⟩ := exists_sketch_of_ofSource read found
      rw [Option.map_some, Option.getD_some, sketched]
      exact ⟨.intCast x, .intCast y⟩

end Network

namespace Layout

variable {network : Network Rat} {settings : Settings Rat}

theorem stationWeight_pos (weight : 0 < settings.alignmentPointWeight) (station : Station Rat) :
    0 < stationWeight settings station := by
  rw [stationWeight]
  split
  · exact weight
  · exact one_pos

def weightValues (network : Network Rat) (settings : Settings Rat) : List Rat :=
  network.stations.flatMap fun station =>
    [stationWeight settings station, stationWeight settings station]

theorem length_weightValues (network : Network Rat) (settings : Settings Rat) :
    (weightValues network settings).length = network.sketchValues.length := by
  simp [weightValues, Network.sketchValues, List.length_flatMap]

theorem weightValues_pos (weight : 0 < settings.alignmentPointWeight) :
    ∀ value ∈ weightValues network settings, 0 < value := by
  intro value member
  obtain ⟨station, -, isWeight⟩ := List.mem_flatMap.mp member
  have own : value = stationWeight settings station := by simpa using isWeight
  exact own ▸ stationWeight_pos weight station

theorem placement_eq_ok (own : network.AlignsOwn) (weight : 0 < settings.alignmentPointWeight) :
    placement network settings = .ok ⟨network.sketchValues, weightValues network settings,
      network.equalities settings.width⟩ :=
  Placement.ofParts_eq_ok (length_weightValues network settings).symm (weightValues_pos weight)
    fun _ member => network.length_sketchValues.symm ▸ Network.known_of_mem_equalities own member

theorem wholeValues_eq {placer : Placer Rat} {values : List Rat} (own : network.AlignsOwn)
    (weight : 0 < settings.alignmentPointWeight)
    (found : placer ⟨network.sketchValues, weightValues network settings,
      network.equalities settings.width⟩ = .ok values) :
    wholeValues placer network settings =
      Snapping.integral values (network.equalities settings.width) := by
  rw [wholeValues, placement_eq_ok own weight]
  change (placer _ >>= _) = _
  rw [found]
  rfl

theorem sketchValues_ne_nil (nonempty : network.stations ≠ []) : network.sketchValues ≠ [] := by
  have size := List.length_pos_iff.mpr nonempty
  rw [← List.length_pos_iff, network.length_sketchValues]
  omega

theorem wholeValues_eq_sketchValues (own : network.AlignsOwn)
    (whole : ∀ station, (network.sketch station).IsWhole) (nonempty : network.stations ≠ [])
    (weight : 0 < settings.alignmentPointWeight)
    (aligned : ∀ equality ∈ network.equalities settings.width,
      equality.Holds (coordinateOf network.sketch))
    (count : Echelon.CoefficientsCount (2 * network.stations.length)
      (network.equalities settings.width)) :
    wholeValues Placement.solve network settings = .ok network.sketchValues := by
  rw [← network.length_sketchValues] at count
  rw [← network.valueAt_sketchValues] at aligned
  have fits : ∀ equality ∈ network.equalities settings.width,
      equality.Fits network.sketchValues.length := fun equality member =>
    network.length_sketchValues ▸ Network.fits_of_mem_equalities own member
  obtain ⟨pivots, built⟩ := Echelon.exists_ofEqualities fits aligned count
  -- The conditions hold at the sketch with all multiples zero, and nowhere else.
  have solved : Placement.solve ⟨network.sketchValues, weightValues network settings,
      network.equalities settings.width⟩ = .ok network.sketchValues :=
    Placement.solve_eq_targets (length_weightValues network settings).symm (weightValues_pos weight)
      (sketchValues_ne_nil nonempty) fits aligned count
  have wholeAt : ∀ coordinate < network.sketchValues.length,
      IsWhole (valueAt network.sketchValues coordinate) := by
    rw [network.valueAt_sketchValues]
    exact fun coordinate _ => isWhole_coordinateOf whole coordinate
  have rounded := Snapping.integral_eq_self wholeAt built
    ((Echelon.equalities_hold_iff fits built).mp aligned).1
  exact (wholeValues_eq own weight solved).trans rounded

theorem toOrigin_points_sketchValues (network : Network Rat) (nonempty : network.stations ≠ []) :
    ∃ left top, IsLeast {x | ∃ station ∈ network.stations, station.sketch.x = x} left ∧
      IsLeast {y | ∃ station ∈ network.stations, station.sketch.y = y} top ∧
      toOrigin (points network network.sketchValues) = network.stations.map fun station =>
        ⟨station.sketch.x - left, station.sketch.y - top⟩ := by
  have isLeast (component : Point Rat → Rat) :
      IsLeast {value | ∃ station ∈ network.stations, component station.sketch = value}
        (least (network.stations.map fun station => component station.sketch)) := by
    have notEmpty : network.stations.map (fun station => component station.sketch) ≠ [] := by
      simpa using nonempty
    simpa using isLeast_least notEmpty
  refine ⟨_, _, isLeast Point.x, isLeast Point.y, ?_⟩
  rw [toOrigin, network.points_sketchValues, List.map_map, corner, List.map_map, List.map_map]
  rfl

/-- If the sketched positions meet all alignments already and no line has to be drawn on top of
itself, the layout has the stations where they are sketched, moved such that the leftmost and the
topmost of them are at zero. -/
theorem ofNetwork_eq_sketch {resolver : Resolver} {source : List Char}
    (read : Network.ofSource resolver source = .ok network) (nonempty : network.stations ≠ [])
    (weight : 0 < settings.alignmentPointWeight)
    (aligned : ∀ equality ∈ network.equalities settings.width,
      equality.Holds (coordinateOf network.sketch))
    (count : Echelon.CoefficientsCount (2 * network.stations.length)
      (network.equalities settings.width))
    (acyclic : ∀ line, ¬TransGen (Covers network.overlaps) line line) :
    ∃ left top layers, IsLeast {x | ∃ station ∈ network.stations, station.sketch.x = x} left ∧
      IsLeast {y | ∃ station ∈ network.stations, station.sketch.y = y} top ∧
      stack network = .ok layers ∧
      ofNetwork Placement.solve network settings =
        .ok ⟨network.stations.map fun station =>
          ⟨station.sketch.x - left, station.sketch.y - top⟩, layers⟩ := by
  obtain ⟨draft, places, origins, sound, describes, noFindings⟩ :=
    Network.describes_of_ofSource read
  have wellFormed := describes.wellFormed sound noFindings
  have found := wholeValues_eq_sketchValues wellFormed.alignsOwn (Network.isWhole_sketch read)
    nonempty weight aligned count
  have among : Among network.overlaps network.lineIds := fun overlap member => by
    simpa using wellFormed.overlap_known overlap member
  obtain ⟨layers, stacked⟩ := (stack_eq_ok_iff among).mpr acyclic
  obtain ⟨left, top, isLeft, isTop, moved⟩ := toOrigin_points_sketchValues network nonempty
  refine ⟨left, top, layers, isLeft, isTop, stacked, ?_⟩
  rw [ofNetwork, place, found, stacked, ← moved]
  rfl

def slopeSource : List Char :=
  ("line red:\nstation \"A\" 10 20\nalignment-point \"m\" 30 40\nstation \"B\" 50 60\n" ++
    "edges \"A, B\"\nequal \"A.x + B.x\" \"m.x + m.x\"\ndown-right \"A, m\"\n" ++
    "down-right \"m, A\"\nline blue:\nzindex red above blue\n").toList

def slope : Network Rat where
  lines := [⟨"red", [("A", ⟨0⟩), ("m", ⟨1⟩), ("B", ⟨2⟩)], [⟨⟨0⟩, ⟨2⟩⟩], [], []⟩,
    .empty "blue"]
  lineNames := [("red", ⟨0⟩), ("blue", ⟨1⟩)]
  stations := [⟨"A", ⟨0⟩, .station, "A", ⟨10, 20⟩⟩, ⟨"m", ⟨0⟩, .alignmentPoint, "red:m", ⟨30, 40⟩⟩,
    ⟨"B", ⟨0⟩, .station, "B", ⟨50, 60⟩⟩]
  curves := []
  alignments := [
    ⟨.equal [⟨⟨0⟩, .x⟩, ⟨⟨2⟩, .x⟩] [⟨⟨1⟩, .x⟩, ⟨⟨1⟩, .x⟩], some ⟨0⟩, 6,
      "equal \"A.x + B.x\" \"m.x + m.x\""⟩,
    ⟨.diagonal .falling [⟨0⟩, ⟨1⟩], some ⟨0⟩, 7, "down-right \"A, m\""⟩,
    ⟨.diagonal .falling [⟨1⟩, ⟨0⟩], some ⟨0⟩, 8, "down-right \"m, A\""⟩]
  overlaps := [⟨⟨0⟩, ⟨1⟩, 10⟩]

theorem ofSource_slope : Network.ofSource (fun _ name => some name) slopeSource = .ok slope := by
  cbv

theorem ofNetwork_eq_sketch_slope :
    Network.ofSource (fun _ name => some name) slopeSource = .ok slope ∧
      (∀ equality ∈ slope.equalities (Settings.width .default),
        equality.Holds (coordinateOf slope.sketch)) ∧
      Echelon.CoefficientsCount 6 (slope.equalities (Settings.width .default)) ∧
      (∀ line, ¬TransGen (Covers slope.overlaps) line line) ∧
      ofNetwork Placement.solve slope .default =
        .ok ⟨[⟨0, 0⟩, ⟨20, 20⟩, ⟨40, 40⟩], [2, 1]⟩ := by
  have equalities : slope.equalities (Settings.width .default) =
      [⟨[(0, 1), (4, 1), (2, -2)], 0, 6⟩, ⟨[(0, 1), (2, -1), (1, -1), (3, 1)], 0, 7⟩,
        ⟨[(2, 1), (0, -1), (3, -1), (1, 1)], 0, 8⟩] := by cbv
  have aligned : ∀ equality ∈ slope.equalities (Settings.width .default),
      equality.Holds (coordinateOf slope.sketch) := by
    rw [equalities]
    norm_num [Equality.Holds, coordinateOf, Network.sketch, slope, Network.station?]
  have count : Echelon.CoefficientsCount 6 (slope.equalities (Settings.width .default)) := by
    have remainders : Echelon.remainders 6 [] (slope.equalities (Settings.width .default)) =
        [⟨[1, 0, -2, 0, 1, 0], 0⟩, ⟨[0, -1, 1, 1, -1, 0], 0⟩, ⟨[0, 0, 0, 0, 0, 0], 0⟩] := by
      rw [equalities]
      cbv
    rw [Echelon.CoefficientsCount, remainders]
    simp only [Echelon.coefficientTolerance, Scalar.literal_eq, Scalar.ofNat_eq]
    norm_num
  have stacked : stack slope = .ok [2, 1] := rfl
  have among : Among slope.overlaps slope.lineIds := by
    unfold Among
    decide
  have acyclic := (stack_eq_ok_iff among).mp ⟨_, stacked⟩
  refine ⟨ofSource_slope, aligned, count, acyclic, ?_⟩
  obtain ⟨left, top, layers, isLeft, isTop, isStack, laidOut⟩ :=
    ofNetwork_eq_sketch ofSource_slope (by decide) (by cbv) aligned count acyclic
  have leftmost : left = 10 := by
    refine isLeft.unique ⟨⟨_, List.mem_cons_self, rfl⟩, ?_⟩
    rintro _ ⟨station, member, rfl⟩
    exact (by decide : ∀ station ∈ slope.stations, 10 ≤ station.sketch.x) station member
  have topmost : top = 20 := by
    refine isTop.unique ⟨⟨_, List.mem_cons_self, rfl⟩, ?_⟩
    rintro _ ⟨station, member, rfl⟩
    exact (by decide : ∀ station ∈ slope.stations, 20 ≤ station.sketch.y) station member
  rw [laidOut, Except.ok.inj (isStack.symm.trans stacked), leftmost, topmost]
  norm_num [slope]

end Layout

end TransitMap
