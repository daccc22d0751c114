import TransitMap.Proofs.Layout.Difference
import TransitMap.Proofs.Layout.Sketch

open TransitMap.Scalar (IsWhole)
open TransitMap.Snapping (valueAt snap pivotValue)

namespace TransitMap

open scoped ExactScalar

/-- Every equality of the rule sets how far one coordinate is from another. -/
def AlignmentRule.SetsOffsets : AlignmentRule → Prop
  | axis .. | sameStation .. => True
  | diagonal .. | equal .. => False

theorem AlignmentRule.SetsOffsets.balanced {rule : AlignmentRule} (offsets : rule.SetsOffsets) :
    rule.Balanced := by
  cases rule with
  | axis | sameStation => trivial
  | diagonal | equal => exact offsets.elim

namespace Equality

variable {equality : Equality Rat} {first second : StationId} {x y width : Rat} {sourceLine : Nat}

/-- The equality sets a whole offset of a coordinate of one station from that of another one. -/
def SetsOffset (first second : StationId) (equality : Equality Rat) : Prop :=
  ∃ component constant sourceLine, IsWhole constant ∧ equality =
    difference (first.coordinate component) (second.coordinate component) constant sourceLine

theorem setsOffset_of_mem_offset (isX : IsWhole x) (isY : IsWhole y)
    (member : equality ∈ offset first second x y sourceLine) :
    equality.SetsOffset first second := by
  simp only [offset, List.mem_cons, List.not_mem_nil, or_false] at member
  rcases member with rfl | rfl
  · exact ⟨_, _, _, isY, rfl⟩
  · exact ⟨_, _, _, isX, rfl⟩

theorem setsOffset_of_mem_ofRelation (isWidth : IsWhole width)
    (isSide : IsWhole (Scalar.floorSide width)) {relation : Relation}
    (member : equality ∈ ofRelation width relation first second sourceLine) :
    equality.SetsOffset first second ∨ equality.SetsOffset second first := by
  have zero : IsWhole (0 : Rat) := .natCast 0
  cases relation with
  | above => exact .inl (setsOffset_of_mem_offset zero isWidth.neg (List.mem_reverse.mp member))
  | below => exact .inr (setsOffset_of_mem_offset zero isWidth.neg (List.mem_reverse.mp member))
  | left => exact .inl (setsOffset_of_mem_offset isWidth.neg zero member)
  | right => exact .inr (setsOffset_of_mem_offset isWidth.neg zero member)
  | aboveRight => exact .inl (setsOffset_of_mem_offset isSide isSide.neg member)
  | belowLeft => exact .inr (setsOffset_of_mem_offset isSide isSide.neg member)
  | aboveLeft => exact .inl (setsOffset_of_mem_offset isSide.neg isSide.neg member)
  | belowRight => exact .inr (setsOffset_of_mem_offset isSide.neg isSide.neg member)
  | exact => exact .inl (setsOffset_of_mem_offset zero zero (List.mem_reverse.mp member))

theorem exists_setsOffset_of_mem_ofRule {rule : AlignmentRule} (offsets : rule.SetsOffsets)
    (isWidth : IsWhole width) (isSide : IsWhole (Scalar.floorSide width))
    (member : equality ∈ ofRule width sourceLine rule) :
    ∃ first ∈ rule.stations, ∃ second ∈ rule.stations, equality.SetsOffset first second := by
  cases rule with
  | axis axis stations =>
      obtain ⟨first, isFirst, second, isSecond, rfl⟩ := exists_of_mem_consecutive member
      exact ⟨first, isFirst, second, isSecond, _, _, _, .natCast 0, rfl⟩
  | sameStation relation pairs =>
      obtain ⟨⟨first, second⟩, isPair, member⟩ := List.mem_flatMap.mp member
      have isFirst : first ∈ (AlignmentRule.sameStation relation pairs).stations :=
        List.mem_flatMap.mpr ⟨_, isPair, by simp⟩
      have isSecond : second ∈ (AlignmentRule.sameStation relation pairs).stations :=
        List.mem_flatMap.mpr ⟨_, isPair, by simp⟩
      rcases setsOffset_of_mem_ofRelation isWidth isSide member with forward | backward
      · exact ⟨first, isFirst, second, isSecond, forward⟩
      · exact ⟨second, isSecond, first, isFirst, backward⟩
  | diagonal | equal => exact offsets.elim

theorem SetsOffset.isDifference {count size : Nat} (offset : equality.SetsOffset first second)
    (fits : equality.Fits size) (enough : 2 * count ≤ size) (isFirst : first.index < count)
    (isSecond : second.index < count) : equality.IsDifference size := by
  obtain ⟨component, constant, sourceLine, whole, rfl⟩ := offset
  have inside : ∀ station : StationId, station.index < count →
      station.coordinate component < size := by
    intro station bound
    cases component <;> simp only [StationId.coordinate] <;> omega
  refine ⟨_, _, length_dense .., inside first isFirst, inside second isSecond, fun values => ?_,
    whole⟩
  rw [fits.total_dense, difference, sum_ofTerms]
  simp [sub_eq_add_neg]

end Equality

variable {network : Network Rat} {settings : Settings Rat}

theorem Settings.isWhole_width (settings : Settings Rat) :
    IsWhole settings.width ∧ IsWhole (Scalar.floorSide settings.width) := by
  refine ⟨.natCast settings.lineWidth, ?_⟩
  rw [Settings.width, Scalar.ofNat_eq, Scalar.floorSide_natCast]
  exact .intCast _

theorem Network.isDifference_of_mem_equalities (own : network.AlignsOwn)
    (offsets : ∀ alignment ∈ network.alignments, alignment.rule.SetsOffsets) {size : Nat}
    (enough : 2 * network.stations.length ≤ size) :
    ∀ equality ∈ network.equalities settings.width, equality.IsDifference size := by
  intro equality member
  have fits := (Network.fits_of_mem_equalities own member).mono enough
  obtain ⟨alignment, isOne, inRule⟩ := List.mem_flatMap.mp member
  obtain ⟨isWidth, isSide⟩ := settings.isWhole_width
  obtain ⟨first, isFirst, second, isSecond, offset⟩ :=
    Equality.exists_setsOffset_of_mem_ofRule (offsets alignment isOne) isWidth isSide inRule
  exact offset.isDifference fits enough (own alignment isOne first isFirst)
    (own alignment isOne second isSecond)

theorem Network.exists_alignmentsHold_iff :
    (∃ position, network.AlignmentsHold settings.lineWidth
        (⌊(settings.lineWidth : ℝ) / √2⌋ : Int) position) ↔
      ∃ values, ∀ equality ∈ network.equalities settings.width, equality.Holds values := by
  constructor
  · rintro ⟨position, hold⟩
    exact ⟨_, Network.alignmentsHold_iff.mp hold⟩
  · rintro ⟨values, hold⟩
    refine ⟨positionOf values, Network.alignmentsHold_iff.mpr ?_⟩
    rwa [coordinateOf_positionOf]

namespace Snapping

variable {values final : List Rat} {equalities : List (Equality Rat)} {pivots : List (PivotRow Rat)}

/-- The rows hold for the rounded values: a pivot is a whole offset from a whole value. -/
theorem rows_hold_of_integral
    (differences : ∀ equality ∈ equalities, equality.IsDifference values.length)
    (rounded : integral values equalities = .ok final)
    (built : Echelon.ofEqualities values.length equalities = .ok pivots) :
    ∀ pivot ∈ pivots, pivot.row.excess (valueAt final) = 0 := by
  obtain ⟨length, others, otherBuilt, missed⟩ := excess_of_integral rounded
  obtain rfl := Except.ok.inj (otherBuilt.symm.trans built)
  have staircase := Echelon.staircase_of_ofEqualities built
  intro pivot member
  obtain ⟨next, leads⟩ := Echelon.leads_of_ofEqualities differences built pivot member
  have fits : pivot.row.excess (valueAt final) =
      valueAt final pivot.coordinate - pivotValue final pivot :=
    excess_eq (leads.row.length.trans length.symm) (length ▸ staircase.bound pivot member)
      (staircase.unit pivot member)
  have isOffset : pivotValue final pivot = valueAt final next + pivot.row.constant := by
    rw [Row.excess, leads.row.total] at fits
    linarith
  have whole : IsWhole (pivotValue final pivot) := by
    rw [isOffset]
    exact (Layout.isWhole_valueAt (isWhole_integral rounded) next).add leads.row.whole
  rw [missed pivot member, snap_eq_self_iff.mpr whole, sub_self]

/-- Rounding finds values for which all offsets are right, if there are any. -/
theorem hold_of_integral (fits : ∀ equality ∈ equalities, equality.Fits values.length)
    (differences : ∀ equality ∈ equalities, equality.IsDifference values.length)
    (rounded : integral values equalities = .ok final) :
    ∀ equality ∈ equalities, equality.Holds (valueAt final) := by
  obtain ⟨-, pivots, built, -⟩ := excess_of_integral rounded
  exact (Echelon.rows_hold_iff_of_differences fits differences built).mp
    (rows_hold_of_integral differences rounded built)

theorem exists_integral_iff (fits : ∀ equality ∈ equalities, equality.Fits values.length)
    (differences : ∀ equality ∈ equalities, equality.IsDifference values.length) :
    (∃ final, integral values equalities = .ok final) ↔
      ∃ others, ∀ equality ∈ equalities, equality.Holds others := by
  constructor
  · rintro ⟨final, rounded⟩
    exact ⟨_, hold_of_integral fits differences rounded⟩
  · rintro ⟨others, hold⟩
    obtain ⟨pivots, built⟩ := Echelon.exists_ofEqualities fits hold
      (Echelon.coefficientsCount_of_differences differences)
    exact ⟨_, integral_of_ofEqualities built⟩

end Snapping

namespace Layout

variable {values : List Rat}

theorem aligned_of_hold {layout : Layout Rat} (own : network.AlignsOwn)
    (moved : layout.positions = toOrigin (points network values))
    (balanced : ∀ alignment ∈ network.alignments, alignment.rule.Balanced)
    (hold : ∀ equality ∈ network.equalities settings.width, equality.Holds (valueAt values)) :
    layout.Aligned network settings.lineWidth := by
  rw [aligned_iff_equalities]
  intro equality member
  have fits := Network.fits_of_mem_equalities own member
  have still := total_dense_of_balanced balanced fits (corner (points network values)) member
  rw [← fits.excess_dense_eq_zero, excess_position moved (equality.length_dense _), cornerOf, still,
    sub_zero, fits.excess_dense_eq_zero]
  exact hold equality member

/-- Whatever values are found for the coordinates, stations are placed just if the alignments can be
met, and then they are placed on the grid such that all alignments hold. -/
theorem place_is_exact {placer : Placer Rat} (own : network.AlignsOwn)
    (weight : 0 < settings.alignmentPointWeight)
    (offsets : ∀ alignment ∈ network.alignments, alignment.rule.SetsOffsets)
    (answers : ∀ task, placement network settings = .ok task →
      ∃ values, placer task = .ok values ∧ task.size ≤ values.length) :
    ((∃ fault, place placer network settings = .error fault) ↔
      ¬∃ position, network.AlignmentsHold settings.lineWidth
        (⌊(settings.lineWidth : ℝ) / √2⌋ : Int) position) ∧
    ∀ positions, place placer network settings = .ok positions →
      positions.length = network.stations.length ∧ (∀ position ∈ positions, position.IsWhole) ∧
        ∀ layers, Layout.Aligned ⟨positions, layers⟩ network settings.lineWidth := by
  obtain ⟨values, answered, enough⟩ := answers _ (placement_eq_ok own weight)
  have enough : 2 * network.stations.length ≤ values.length :=
    network.length_sketchValues.symm.trans_le enough
  have fits : ∀ equality ∈ network.equalities settings.width, equality.Fits values.length :=
    fun _ member => (Network.fits_of_mem_equalities own member).mono enough
  have differences : ∀ equality ∈ network.equalities settings.width,
      equality.IsDifference values.length :=
    Network.isDifference_of_mem_equalities own offsets enough
  rw [place, wholeValues_eq own weight answered]
  constructor
  · rw [Network.exists_alignmentsHold_iff, ← Snapping.exists_integral_iff fits differences]
    cases Snapping.integral values (network.equalities settings.width) <;> simp
  · intro positions isPlaced
    rw [Outcome.bind_eq_ok] at isPlaced
    obtain ⟨final, rounded, isPlaced⟩ := isPlaced
    obtain rfl := Except.ok.inj isPlaced
    refine ⟨?_, isWhole_toOrigin (isWhole_points network (Snapping.isWhole_integral rounded)),
      fun layers => ?_⟩
    · rw [toOrigin, List.length_map, length_points]
    · exact aligned_of_hold own rfl (fun alignment isOne => (offsets alignment isOne).balanced)
        (Snapping.hold_of_integral fits differences rounded)

def junction : Network Rat where
  lines := [⟨"red", [("A", ⟨0⟩), ("B", ⟨1⟩)], [⟨⟨0⟩, ⟨1⟩⟩], [], []⟩,
    ⟨"blue", [("C", ⟨2⟩)], [], [], []⟩]
  lineNames := [("red", ⟨0⟩), ("blue", ⟨1⟩)]
  stations := [⟨"A", ⟨0⟩, .station, "A", ⟨60, 90⟩⟩, ⟨"B", ⟨0⟩, .station, "B", ⟨100, 93⟩⟩,
    ⟨"C", ⟨1⟩, .station, "C", ⟨40, 80⟩⟩]
  curves := []
  alignments := [⟨.axis .horizontal [⟨0⟩, ⟨1⟩], some ⟨0⟩, 4, "horizontal \"A, B\""⟩,
    ⟨.sameStation .aboveLeft [(⟨2⟩, ⟨0⟩)], none, 8,
      "same-station \"blue: C\" above-left \"red: A\""⟩,
    ⟨.sameStation .belowRight [(⟨0⟩, ⟨2⟩)], none, 9,
      "same-station \"red: A\" below-right \"blue: C\""⟩]
  overlaps := []

def scattered : Placer Rat := fun _ => .ok [1 / 2, 3, 100, 7, 40, 80, -5]

set_option maxRecDepth 4000 in
theorem wholeValues_junction :
    wholeValues scattered junction .default = .ok [75, 115, 100, 115, 40, 80, -5] := by
  cbv

theorem alignsOwn_junction : junction.AlignsOwn := by
  unfold Network.AlignsOwn
  decide

theorem setsOffsets_junction : ∀ alignment ∈ junction.alignments, alignment.rule.SetsOffsets := by
  simp [junction, AlignmentRule.SetsOffsets]

theorem place_is_exact_junction :
    place scattered junction .default = .ok [⟨35, 35⟩, ⟨60, 35⟩, ⟨0, 0⟩] ∧
      Layout.Aligned ⟨[⟨35, 35⟩, ⟨60, 35⟩, ⟨0, 0⟩], [1, 1]⟩ junction 50 := by
  have placed : place scattered junction .default = .ok [⟨35, 35⟩, ⟨60, 35⟩, ⟨0, 0⟩] := by
    rw [place, wholeValues_junction]
    cbv
  have weight : 0 < (Settings.default : Settings Rat).alignmentPointWeight := by cbv
  have answers : ∀ task, placement junction .default = .ok task →
      ∃ values, scattered task = .ok values ∧ task.size ≤ values.length := by
    intro task isTask
    obtain rfl := Except.ok.inj ((placement_eq_ok alignsOwn_junction weight).symm.trans isTask)
    exact ⟨_, rfl, by decide⟩
  have exact := place_is_exact alignsOwn_junction weight setsOffsets_junction answers
  exact ⟨placed, (exact.2 _ placed).2.2 [1, 1]⟩

end Layout

end TransitMap
