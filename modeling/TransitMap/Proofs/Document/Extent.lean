import Mathlib.Order.Bounds.Basic
import TransitMap.Proofs.Document.Assembly
import TransitMap.Proofs.Layout.Offsets
import TransitMap.Proofs.Source.Connection

open TransitMap.Scalar (IsWhole)

namespace TransitMap

theorem Scalar.toGrid_of_nonneg {value : Int} (nonneg : 0 ≤ value) :
    toGrid (value : Rat) = min value greatestGrid := by
  have least : leastGrid ≤ min greatestGrid value :=
    le_min (by decide) ((show leastGrid ≤ 0 by decide).trans nonneg)
  simp only [toGrid, nearest_intCast]
  rw [max_eq_right least, min_comm]

namespace Layout

variable {values : List Rat} {points : List (Point Rat)} {network : Network Rat}
  {layout : Layout Rat}

theorem greatest_eq_foldl_max (values : List Rat) : greatest values = values.foldl max 0 := by
  have larger : (fun greatest value : Rat => if greatest < value then value else greatest) = max := by
    funext greatest value
    exact (max_def_lt greatest value).symm
  rw [greatest, larger, Scalar.literal_eq, Nat.cast_zero]

/-- That zero counts as well makes no difference where no value is negative. -/
theorem isGreatest_greatest (nonempty : values ≠ []) (nonneg : ∀ value ∈ values, 0 ≤ value) :
    IsGreatest {value | value ∈ values} (greatest values) := by
  have isMax : (0 :: values).max? = some (greatest values) := by
    rw [greatest_eq_foldl_max, List.max?_cons']
  obtain ⟨member, above⟩ := List.max?_eq_some_iff.mp isMax
  rw [List.forall_mem_cons] at above
  refine ⟨?_, above.2⟩
  rcases List.mem_cons.mp member with isZero | member
  · obtain ⟨value, member⟩ := List.exists_mem_of_ne_nil values nonempty
    have same : greatest values = value :=
      le_antisymm (isZero ▸ nonneg value member) (above.2 value member)
    exact same ▸ member
  · exact member

theorem exists_isGreatest_greatest (isLeast : IsLeast {value | value ∈ values} 0)
    (whole : ∀ value ∈ values, IsWhole value) :
    ∃ last : Int, 0 ≤ last ∧ greatest values = last ∧ IsGreatest {value | value ∈ values} last := by
  have isGreatest := isGreatest_greatest (List.ne_nil_of_mem isLeast.1) isLeast.2
  obtain ⟨last, isLast⟩ := whole _ isGreatest.1
  refine ⟨last, ?_, isLast, isLast ▸ isGreatest⟩
  exact_mod_cast isLast ▸ isLeast.2 isGreatest.1

theorem isLeast_map_sub_least (nonempty : values ≠ []) :
    IsLeast {value | value ∈ values.map (· - least values)} 0 := by
  obtain ⟨member, below⟩ := isLeast_least nonempty
  constructor
  · exact List.mem_map.mpr ⟨least values, member, sub_self _⟩
  · intro value isMoved
    obtain ⟨before, isValue, rfl⟩ := List.mem_map.mp isMoved
    exact sub_nonneg.mpr (below isValue)

theorem isLeast_toOrigin (nonempty : points ≠ []) :
    IsLeast {x | x ∈ (toOrigin points).map Point.x} 0 ∧
      IsLeast {y | y ∈ (toOrigin points).map Point.y} 0 := by
  have left := isLeast_map_sub_least (List.map_eq_nil_iff.not.mpr nonempty : points.map Point.x ≠ [])
  have top := isLeast_map_sub_least (List.map_eq_nil_iff.not.mpr nonempty : points.map Point.y ≠ [])
  rw [List.map_map] at left top
  rw [toOrigin, List.map_map, List.map_map]
  exact ⟨left, top⟩

def coordinates (layout : Layout Rat) (network : Network Rat) (direction : Point Rat → Rat) :
    Set Rat :=
  {value | ∃ station ∈ network.stationIds, direction (layout.position station) = value}

theorem position_mem (length : layout.positions.length = network.stations.length)
    {station : StationId} (isStation : station ∈ network.stationIds) :
    layout.position station ∈ layout.positions := by
  have bound := length ▸ Network.mem_stationIds.mp isStation
  rw [position, List.getD_eq_getElem _ _ bound]
  exact List.getElem_mem bound

theorem coordinates_eq (length : layout.positions.length = network.stations.length)
    (direction : Point Rat → Rat) :
    layout.coordinates network direction =
      {value | value ∈ layout.positions.map direction} := by
  ext value
  simp only [coordinates, Set.mem_ofPred_eq, List.mem_map]
  constructor
  · rintro ⟨station, isStation, rfl⟩
    exact ⟨_, position_mem length isStation, rfl⟩
  · rintro ⟨point, member, rfl⟩
    obtain ⟨index, bound, rfl⟩ := List.getElem_of_mem member
    refine ⟨⟨index⟩, Network.mem_stationIds.mpr (length ▸ bound), ?_⟩
    rw [position, List.getD_eq_getElem _ _ bound]

theorem exists_of_ofNetwork {placer : Placer Rat} {settings : Settings Rat}
    (laidOut : ofNetwork placer network settings = .ok layout) :
    ∃ points : List (Point Rat), points.length = network.stations.length ∧
      layout.positions = toOrigin points := by
  obtain ⟨final, layers, -, -, rfl⟩ := ofNetwork_eq_ok_iff.mp laidOut
  exact ⟨_, length_points network final, rfl⟩

end Layout

namespace Assembly

theorem of_document_eq_ok {assembly : Assembly Rat} {palette : Palette} {document : MapDocument}
    (assembled : assembly.document palette = .ok document) :
    document.lineWidth = assembly.settings.lineWidth ∧ document.maxX = assembly.extent.x ∧
      document.maxY = assembly.extent.y := by
  unfold Assembly.document at assembled
  dsimp only at assembled
  split at assembled
  · cases assembled
  · obtain ⟨lines, -, made⟩ := Outcome.bind_eq_ok.mp assembled
    obtain rfl := Except.ok.inj made
    exact ⟨rfl, rfl, rfl⟩

/-- All stations are at whole coordinates from zero on, and some are at zero. The document ends one
line width behind the last of them, at the greatest grid point at most. -/
theorem extent_of_ofNetwork {placer : Placer Rat} {network : Network Rat} {settings : Settings Rat}
    {layout : Layout Rat} (nonempty : network.stations ≠ [])
    (laidOut : Layout.ofNetwork placer network settings = .ok layout) :
    (∀ station ∈ network.stationIds, (layout.position station).IsWhole ∧
      0 ≤ (layout.position station).x ∧ 0 ≤ (layout.position station).y) ∧
    IsLeast (layout.coordinates network Point.x) 0 ∧
    IsLeast (layout.coordinates network Point.y) 0 ∧
    ∃ right bottom : Int,
      IsGreatest (layout.coordinates network Point.x) right ∧
      IsGreatest (layout.coordinates network Point.y) bottom ∧
      ∀ paths drawn palette document,
        Assembly.document ⟨network, layout, paths, drawn⟩ palette = .ok document →
          document.lineWidth = drawn.lineWidth ∧
          document.maxX = min (right + drawn.lineWidth) Scalar.greatestGrid ∧
          document.maxY = min (bottom + drawn.lineWidth) Scalar.greatestGrid := by
  obtain ⟨points, length, moved⟩ := Layout.exists_of_ofNetwork laidOut
  have size : layout.positions.length = network.stations.length := by
    rw [moved, Layout.toOrigin, List.length_map, length]
  have notEmpty : points ≠ [] := by
    rintro rfl
    exact nonempty (List.length_eq_zero_iff.mp length.symm)
  have whole := Layout.isWhole_of_ofNetwork laidOut
  obtain ⟨left, top⟩ := Layout.isLeast_toOrigin notEmpty
  rw [← moved] at left top
  obtain ⟨right, rightNonneg, maxX, isRight⟩ := Layout.exists_isGreatest_greatest left
    (List.forall_mem_map.mpr fun point member => (whole point member).x)
  obtain ⟨bottom, bottomNonneg, maxY, isBottom⟩ := Layout.exists_isGreatest_greatest top
    (List.forall_mem_map.mpr fun point member => (whole point member).y)
  rw [Layout.coordinates_eq size, Layout.coordinates_eq size]
  refine ⟨fun station isStation => ?_, left, top, right, bottom, isRight, isBottom, ?_⟩
  · have member := Layout.position_mem size isStation
    exact ⟨whole _ member, left.2 (List.mem_map_of_mem member), top.2 (List.mem_map_of_mem member)⟩
  · intro paths drawn palette document assembled
    obtain ⟨width, isX, isY⟩ := of_document_eq_ok assembled
    have held : ∀ last : Int, 0 ≤ last →
        Scalar.toGrid ((last : Rat) + drawn.width) = min (last + drawn.lineWidth) Scalar.greatestGrid := by
      intro last nonneg
      have sum : (last : Rat) + drawn.width = ((last + drawn.lineWidth : Int) : Rat) := by
        rw [Settings.width, Scalar.ofNat_eq]
        push_cast
        rfl
      rw [sum, Scalar.toGrid_of_nonneg (by omega)]
    refine ⟨width, ?_, ?_⟩
    · rw [isX, ← held right rightNonneg, ← maxX]
      rfl
    · rw [isY, ← held bottom bottomNonneg, ← maxY]
      rfl

def vast : Network Rat where
  lines := [⟨"red", [("A", ⟨0⟩), ("B", ⟨1⟩), ("p", ⟨2⟩)], [⟨⟨0⟩, ⟨1⟩⟩], [], []⟩]
  lineNames := [("red", ⟨0⟩)]
  stations := [⟨"A", ⟨0⟩, .station, "A", ⟨-9000000000000000000, 0⟩⟩,
    ⟨"B", ⟨0⟩, .station, "B", ⟨9000000000000000000, 0⟩⟩,
    ⟨"p", ⟨0⟩, .alignmentPoint, "red:p", ⟨0, 3⟩⟩]
  curves := []
  alignments := []
  overlaps := []

def askew : Placer Rat := fun _ => .ok [1 / 2, 241 / 2, 100, 121, 1301 / 10, -41]

def askewLayout : Layout Rat := ⟨[⟨0, 162⟩, ⟨99, 162⟩, ⟨129, 0⟩], [1]⟩

theorem extent_of_ofNetwork_askew :
    vast.stations ≠ [] ∧ Layout.ofNetwork askew vast .default = .ok askewLayout ∧
      IsGreatest (askewLayout.coordinates vast Point.x) 129 ∧
      ∃ lines, Assembly.document ⟨vast, askewLayout, [], .default⟩ ⟨[("red", "#f00")]⟩ =
        .ok ⟨50, 179, 212, lines⟩ := by
  have rounded : Layout.wholeValues askew vast .default = .ok [1, 121, 100, 121, 130, -41] := by cbv
  have laidOut : Layout.ofNetwork askew vast .default = .ok askewLayout := by
    rw [Layout.ofNetwork, Layout.place, rounded]
    cbv
  have assembled : ∃ lines, Assembly.document ⟨vast, askewLayout, [], .default⟩
      ⟨[("red", "#f00")]⟩ = .ok ⟨50, 179, 212, lines⟩ := ⟨_, by cbv⟩
  obtain ⟨-, -, -, right, bottom, isRight, -, ends⟩ :=
    extent_of_ofNetwork (by decide) laidOut
  obtain ⟨lines, made⟩ := assembled
  have width : (Settings.default : Settings Rat).lineWidth = 50 := rfl
  obtain ⟨-, maxX, -⟩ := ends _ _ _ _ made
  obtain rfl : right = 129 := by
    simp only [width, Scalar.greatestGrid] at maxX
    omega
  exact ⟨by decide, laidOut, isRight, lines, made⟩

/-- A document ends at the greatest grid point, even if the stations go on. -/
theorem not_extent_vast :
    ∃ layout document, Layout.ofNetwork Placement.solve vast .default = .ok layout ∧
      Assembly.document ⟨vast, layout, [], .default⟩ ⟨[("red", "#f00")]⟩ = .ok document ∧
      IsGreatest (layout.coordinates vast Point.x) 18000000000000000000 ∧
      document.maxX - document.lineWidth ≠ 18000000000000000000 := by
  have rounded : Layout.wholeValues Placement.solve vast .default =
      .ok [-9000000000000000000, 0, 9000000000000000000, 0, 0, 3] := by cbv
  have laidOut : Layout.ofNetwork Placement.solve vast .default =
      .ok ⟨[⟨0, 0⟩, ⟨18000000000000000000, 0⟩, ⟨9000000000000000000, 3⟩], [1]⟩ := by
    rw [Layout.ofNetwork, Layout.place, rounded]
    cbv
  have assembled : ∃ lines, Assembly.document ⟨vast,
      ⟨[⟨0, 0⟩, ⟨18000000000000000000, 0⟩, ⟨9000000000000000000, 3⟩], [1]⟩, [], .default⟩
        ⟨[("red", "#f00")]⟩ = .ok ⟨50, 9223372036854775807, 53, lines⟩ := ⟨_, by cbv⟩
  obtain ⟨lines, made⟩ := assembled
  refine ⟨_, _, laidOut, made, ?_, by norm_num⟩
  rw [Layout.coordinates_eq rfl]
  constructor
  · simp
  · intro value member
    simp only [List.map_cons, List.map_nil, Set.mem_ofPred_eq, List.mem_cons, List.not_mem_nil,
      or_false] at member
    rcases member with rfl | rfl | rfl <;> norm_num

end Assembly

end TransitMap
