import TransitMap.Proofs.Layout.Offsets
import TransitMap.Proofs.Layout.Optimum

/-!
Alignments that are written in another way. As long as they set offsets and are met by the same
whole positions, the layout is the same: which coordinates are pivots, the best values, and the
whole values next to them depend on nothing else.
-/

open TransitMap.Scalar (IsWhole)
open TransitMap.Snapping (valueAt)

namespace TransitMap

open scoped ExactScalar

section Raise

variable {direction values : Nat → Rat} {level : Rat} {row : Row Rat} {size first second : Nat}

/-- The values, each one more where a direction has the given value. -/
def raise (direction : Nat → Rat) (level : Rat) (values : Nat → Rat) (coordinate : Nat) : Rat :=
  if direction coordinate = level then values coordinate + 1 else values coordinate

theorem isWhole_raise {coordinate : Nat} (whole : IsWhole (values coordinate)) :
    IsWhole (raise direction level values coordinate) := by
  unfold raise
  split
  · exact whole.add (.natCast 1)
  · exact whole

/-- A difference that vanishes in the direction is between two raised values or between two that are
not. -/
theorem Row.IsDifference.excess_raise (isDifference : row.IsDifference size first second)
    (zero : row.total direction = 0) :
    row.excess (raise direction level values) = row.excess values := by
  rw [isDifference.total, sub_eq_zero] at zero
  rw [excess, excess, isDifference.total, isDifference.total, raise, raise, zero]
  split
  · rw [add_sub_add_right_eq_sub]
  · rfl

theorem Row.IsDifference.total_eq_zero_of_excess_raise
    (isDifference : row.IsDifference size first second)
    (same : row.excess (raise direction (direction first) values) = row.excess values) :
    row.total direction = 0 := by
  rw [excess, excess, isDifference.total, isDifference.total, raise, raise, if_pos rfl] at same
  rw [isDifference.total, sub_eq_zero]
  by_contra apart
  rw [if_neg (Ne.symm apart)] at same
  linarith

end Raise

/-- Two lists of differences hold for the same whole values, of which there are some. -/
structure Restates (size : Nat) (equalities others : List (Equality Rat)) : Prop where
  fits : ∀ equality ∈ equalities, equality.Fits size
  otherFits : ∀ equality ∈ others, equality.Fits size
  differences : ∀ equality ∈ equalities, equality.IsDifference size
  otherDifferences : ∀ equality ∈ others, equality.IsDifference size
  same : ∀ values : Nat → Rat, (∀ coordinate, IsWhole (values coordinate)) →
    ((∀ equality ∈ equalities, equality.Holds values) ↔
      ∀ equality ∈ others, equality.Holds values)
  solvable : ∃ values : Nat → Rat, (∀ coordinate, IsWhole (values coordinate)) ∧
    ∀ equality ∈ equalities, equality.Holds values

namespace Restates

variable {size : Nat} {equalities others : List (Equality Rat)}
  {pivots otherPivots : List (PivotRow Rat)} {values direction : Nat → Rat}

theorem symm (restates : Restates size equalities others) : Restates size others equalities where
  fits := restates.otherFits
  otherFits := restates.fits
  differences := restates.otherDifferences
  otherDifferences := restates.differences
  same values whole := (restates.same values whole).symm
  solvable := by
    obtain ⟨values, whole, hold⟩ := restates.solvable
    exact ⟨values, whole, (restates.same values whole).mp hold⟩

theorem exists_ofEqualities (restates : Restates size equalities others) :
    ∃ pivots, Echelon.ofEqualities size equalities = .ok pivots := by
  obtain ⟨values, -, hold⟩ := restates.solvable
  exact Echelon.exists_ofEqualities restates.fits hold
    (Echelon.coefficientsCount_of_differences restates.differences)

theorem leads (restates : Restates size equalities others)
    (built : Echelon.ofEqualities size equalities = .ok pivots) :
    ∀ pivot ∈ pivots, pivot.Leads size :=
  Echelon.leads_of_ofEqualities restates.differences built

theorem rows_hold_iff (restates : Restates size equalities others)
    (built : Echelon.ofEqualities size equalities = .ok pivots) :
    (∀ pivot ∈ pivots, pivot.row.excess values = 0) ↔
      ∀ equality ∈ equalities, equality.Holds values :=
  Echelon.rows_hold_iff_of_differences restates.fits restates.differences built

theorem rows_hold (restates : Restates size equalities others)
    (built : Echelon.ofEqualities size equalities = .ok pivots)
    (otherBuilt : Echelon.ofEqualities size others = .ok otherPivots)
    (whole : ∀ coordinate, IsWhole (values coordinate))
    (hold : ∀ pivot ∈ pivots, pivot.row.excess values = 0) :
    ∀ pivot ∈ otherPivots, pivot.row.excess values = 0 := by
  rw [restates.symm.rows_hold_iff otherBuilt, ← restates.same values whole]
  exact (restates.rows_hold_iff built).mp hold

/-- Where the rows of one list vanish, those of the other one do: raising all coordinates with the
same value of the direction leads from whole values to whole values. -/
theorem vanish (restates : Restates size equalities others)
    (built : Echelon.ofEqualities size equalities = .ok pivots)
    (otherBuilt : Echelon.ofEqualities size others = .ok otherPivots)
    (zero : ∀ pivot ∈ pivots, pivot.row.total direction = 0) :
    ∀ pivot ∈ otherPivots, pivot.row.total direction = 0 := by
  obtain ⟨start, whole, hold⟩ := restates.solvable
  have rows := (restates.rows_hold_iff built).mpr hold
  intro pivot member
  obtain ⟨next, leadsTo⟩ := restates.symm.leads otherBuilt pivot member
  have wholeRaised : ∀ coordinate,
      IsWhole (raise direction (direction pivot.coordinate) start coordinate) :=
    fun coordinate => isWhole_raise (whole coordinate)
  have raised : ∀ own ∈ pivots,
      own.row.excess (raise direction (direction pivot.coordinate) start) = 0 := by
    intro own isOwn
    obtain ⟨ownNext, ownLeads⟩ := restates.leads built own isOwn
    rw [ownLeads.row.excess_raise (zero own isOwn), rows own isOwn]
  have before := restates.rows_hold built otherBuilt whole rows pivot member
  have after := restates.rows_hold built otherBuilt wholeRaised raised pivot member
  exact leadsTo.row.total_eq_zero_of_excess_raise (after.trans before.symm)

theorem isPivot_iff (restates : Restates size equalities others)
    (built : Echelon.ofEqualities size equalities = .ok pivots)
    (otherBuilt : Echelon.ofEqualities size others = .ok otherPivots) {coordinate : Nat}
    (bound : coordinate < size) :
    (∃ pivot ∈ pivots, pivot.coordinate = coordinate) ↔
      ∃ pivot ∈ otherPivots, pivot.coordinate = coordinate := by
  have vanish_iff (values : Nat → Rat) : (∀ pivot ∈ pivots, pivot.row.total values = 0) ↔
      ∀ pivot ∈ otherPivots, pivot.row.total values = 0 :=
    ⟨restates.vanish built otherBuilt, restates.symm.vanish otherBuilt built⟩
  have staircase := Echelon.staircase_of_ofEqualities built
  have otherStaircase := Echelon.staircase_of_ofEqualities otherBuilt
  rw [Echelon.isPivot_iff staircase (restates.leads built) bound,
    Echelon.isPivot_iff otherStaircase (restates.symm.leads otherBuilt) bound]
  simp only [vanish_iff]

theorem hold (restates : Restates size equalities others)
    (hold : ∀ equality ∈ equalities, equality.Holds values) :
    ∀ equality ∈ others, equality.Holds values := by
  obtain ⟨pivots, built⟩ := restates.exists_ofEqualities
  obtain ⟨otherPivots, otherBuilt⟩ := restates.symm.exists_ofEqualities
  obtain ⟨start, whole, startHolds⟩ := restates.solvable
  have rows := (restates.rows_hold_iff built).mpr hold
  have startRows := (restates.rows_hold_iff built).mpr startHolds
  have apart : ∀ pivot ∈ pivots,
      pivot.row.total (fun coordinate => values coordinate - start coordinate) = 0 := by
    intro pivot member
    rw [← Row.excess_sub, rows pivot member, startRows pivot member, sub_self]
  rw [← restates.symm.rows_hold_iff otherBuilt]
  intro pivot member
  have same := restates.vanish built otherBuilt apart pivot member
  rwa [← Row.excess_sub, restates.rows_hold built otherBuilt whole startRows pivot member,
    sub_zero] at same

theorem hold_iff (restates : Restates size equalities others) (values : Nat → Rat) :
    (∀ equality ∈ equalities, equality.Holds values) ↔
      ∀ equality ∈ others, equality.Holds values :=
  ⟨restates.hold, restates.symm.hold⟩

theorem exists_integral {values : List Rat} (restates : Restates values.length equalities others) :
    ∃ final, Snapping.integral values equalities = .ok final := by
  obtain ⟨start, -, hold⟩ := restates.solvable
  exact (Snapping.exists_integral_iff restates.fits restates.differences).mpr ⟨start, hold⟩

/-- Rounding finds the same values: the coordinates that are no pivots are rounded alike, and they
determine the others. -/
theorem integral_eq {values : List Rat} (restates : Restates values.length equalities others) :
    ∃ final, Snapping.integral values equalities = .ok final ∧
      Snapping.integral values others = .ok final := by
  obtain ⟨final, rounded⟩ := restates.exists_integral
  obtain ⟨otherFinal, otherRounded⟩ := restates.symm.exists_integral
  obtain ⟨length, pivots, built, -⟩ := Snapping.excess_of_integral rounded
  obtain ⟨otherLength, otherPivots, otherBuilt, -⟩ := Snapping.excess_of_integral otherRounded
  have rows := Snapping.rows_hold_of_integral restates.differences rounded built
  have otherHold :=
    Snapping.hold_of_integral restates.otherFits restates.otherDifferences otherRounded
  have otherRows := (restates.rows_hold_iff built).mpr (restates.symm.hold otherHold)
  have vanish : ∀ pivot ∈ pivots, pivot.row.total
      (fun coordinate => valueAt final coordinate - valueAt otherFinal coordinate) = 0 := by
    intro pivot member
    rw [← Row.excess_sub, rows pivot member, otherRows pivot member, sub_self]
  have free : ∀ coordinate, 0 ≤ coordinate → coordinate < values.length →
      (∀ pivot ∈ pivots, pivot.coordinate ≠ coordinate) →
      valueAt final coordinate - valueAt otherFinal coordinate = 0 := by
    intro coordinate _ bound isFree
    have otherIsFree : ∀ pivot ∈ otherPivots, pivot.coordinate ≠ coordinate := by
      by_contra isPivot
      push Not at isPivot
      obtain ⟨pivot, member, same⟩ := (restates.isPivot_iff built otherBuilt bound).mpr isPivot
      exact isFree pivot member same
    rw [Snapping.valueAt_integral_of_free rounded built bound isFree,
      Snapping.valueAt_integral_of_free otherRounded otherBuilt bound otherIsFree, sub_self]
  have apart := Echelon.eq_zero_of_free (restates.leads built) vanish free
  have same : final = otherFinal :=
    Snapping.ext_valueAt (length.trans otherLength.symm) fun coordinate bound =>
      sub_eq_zero.mp (apart coordinate (Nat.zero_le _) (otherLength ▸ bound))
  exact ⟨final, rounded, same ▸ otherRounded⟩

theorem exists_best {placement : Placement Rat}
    (restates : Restates placement.size placement.equalities others)
    (same : placement.targets.length = placement.weights.length)
    (positive : ∀ weight ∈ placement.weights, 0 < weight) (nonempty : placement.targets ≠ []) :
    ∃ best, placement.solve = .ok best ∧ best.length = placement.size ∧
      placement.IsBest (valueAt best) := by
  obtain ⟨start, -, hold⟩ := restates.solvable
  exact Placement.exists_solve_eq_ok same positive nonempty restates.fits
    (Echelon.coefficientsCount_of_differences restates.differences)
    (Echelon.constantsCount_of_differences restates.differences) hold

theorem solve_eq {placement : Placement Rat}
    (restates : Restates placement.size placement.equalities others)
    (same : placement.targets.length = placement.weights.length)
    (positive : ∀ weight ∈ placement.weights, 0 < weight) (nonempty : placement.targets ≠ []) :
    ∃ best, placement.solve = .ok best ∧ best.length = placement.size ∧
      Placement.solve { placement with equalities := others } = .ok best := by
  obtain ⟨best, solved, length, isBest⟩ := restates.exists_best same positive nonempty
  let other : Placement Rat := { placement with equalities := others }
  have otherRestates : Restates other.size other.equalities placement.equalities := restates.symm
  obtain ⟨otherBest, otherSolved, otherLength, otherIsBest⟩ :=
    otherRestates.exists_best same positive nonempty
  have bests : best = otherBest :=
    Snapping.ext_valueAt (length.trans otherLength.symm) fun coordinate bound =>
      isBest.unique otherIsBest restates.hold_iff coordinate (otherLength ▸ bound)
  exact ⟨best, solved, length, bests ▸ otherSolved⟩

end Restates

variable {network : Network Rat} {settings : Settings Rat} {others : List Alignment}

theorem Network.restates (own : network.AlignsOwn)
    (otherOwn : Network.AlignsOwn { network with alignments := others })
    (offsets : ∀ alignment ∈ network.alignments, alignment.rule.SetsOffsets)
    (otherOffsets : ∀ alignment ∈ others, alignment.rule.SetsOffsets)
    (same : ∀ position : StationId → Point Rat, (∀ station, (position station).IsWhole) →
      (network.AlignmentsHold settings.lineWidth (⌊(settings.lineWidth : ℝ) / √2⌋ : Int) position ↔
        Network.AlignmentsHold { network with alignments := others } settings.lineWidth
          (⌊(settings.lineWidth : ℝ) / √2⌋ : Int) position))
    (solvable : ∃ position : StationId → Point Rat, (∀ station, (position station).IsWhole) ∧
      network.AlignmentsHold settings.lineWidth (⌊(settings.lineWidth : ℝ) / √2⌋ : Int) position) :
    Restates (2 * network.stations.length) (network.equalities settings.width)
      (Network.equalities { network with alignments := others } settings.width) where
  fits _ member := Network.fits_of_mem_equalities own member
  otherFits _ member := Network.fits_of_mem_equalities otherOwn member
  differences := Network.isDifference_of_mem_equalities own offsets le_rfl
  otherDifferences := Network.isDifference_of_mem_equalities otherOwn otherOffsets le_rfl
  same values whole := by
    have atValues := same (positionOf values) fun station => ⟨whole _, whole _⟩
    rwa [Network.alignmentsHold_iff, Network.alignmentsHold_iff,
      coordinateOf_positionOf] at atValues
  solvable := by
    obtain ⟨position, whole, hold⟩ := solvable
    exact ⟨_, isWhole_coordinateOf whole, Network.alignmentsHold_iff.mp hold⟩

namespace Layout

theorem wholeValues_restated (own : network.AlignsOwn)
    (otherOwn : Network.AlignsOwn { network with alignments := others })
    (weight : 0 < settings.alignmentPointWeight) (nonempty : network.stations ≠ [])
    (restates : Restates (2 * network.stations.length) (network.equalities settings.width)
      (Network.equalities { network with alignments := others } settings.width)) :
    ∃ values, wholeValues Placement.solve network settings = .ok values ∧
      wholeValues Placement.solve { network with alignments := others } settings = .ok values := by
  let task : Placement Rat :=
    ⟨network.sketchValues, weightValues network settings, network.equalities settings.width⟩
  rw [← network.length_sketchValues] at restates
  change Restates task.size task.equalities _ at restates
  obtain ⟨best, solved, length, otherSolved⟩ := restates.solve_eq
    (length_weightValues network settings).symm (weightValues_pos weight)
    (sketchValues_ne_nil nonempty)
  rw [← length] at restates
  obtain ⟨values, rounded, otherRounded⟩ := restates.integral_eq
  exact ⟨values, (wholeValues_eq own weight solved).trans rounded,
    (wholeValues_eq otherOwn weight otherSolved).trans otherRounded⟩

/-- The layout of a network depends on alignments that set offsets only through the whole positions
that meet them. -/
theorem ofNetwork_restated (own : network.AlignsOwn)
    (otherOwn : Network.AlignsOwn { network with alignments := others })
    (weight : 0 < settings.alignmentPointWeight) (nonempty : network.stations ≠ [])
    (offsets : ∀ alignment ∈ network.alignments, alignment.rule.SetsOffsets)
    (otherOffsets : ∀ alignment ∈ others, alignment.rule.SetsOffsets)
    (same : ∀ position : StationId → Point Rat, (∀ station, (position station).IsWhole) →
      (network.AlignmentsHold settings.lineWidth (⌊(settings.lineWidth : ℝ) / √2⌋ : Int) position ↔
        Network.AlignmentsHold { network with alignments := others } settings.lineWidth
          (⌊(settings.lineWidth : ℝ) / √2⌋ : Int) position))
    (solvable : ∃ position : StationId → Point Rat, (∀ station, (position station).IsWhole) ∧
      network.AlignmentsHold settings.lineWidth (⌊(settings.lineWidth : ℝ) / √2⌋ : Int) position) :
    (∃ positions, place Placement.solve network settings = .ok positions) ∧
      ofNetwork Placement.solve { network with alignments := others } settings =
        ofNetwork Placement.solve network settings := by
  obtain ⟨values, found, otherFound⟩ := wholeValues_restated own otherOwn weight nonempty
    (Network.restates own otherOwn offsets otherOffsets same solvable)
  have placed : place Placement.solve network settings =
      .ok (toOrigin (points network values)) := by
    rw [place, found]
    rfl
  have otherPlaced : place Placement.solve { network with alignments := others } settings =
      .ok (toOrigin (points network values)) := by
    rw [place, otherFound]
    rfl
  refine ⟨⟨_, placed⟩, ?_⟩
  rw [ofNetwork, ofNetwork, placed, otherPlaced]
  rfl

def junctionRestated : List Alignment :=
  [⟨.sameStation .belowRight [(⟨0⟩, ⟨2⟩)], none, 4,
      "same-station \"red: A\" below-right \"blue: C\""⟩,
    ⟨.axis .horizontal [⟨1⟩, ⟨0⟩, ⟨1⟩], none, 5, "horizontal \"red: B, red: A, red: B\""⟩]

set_option maxRecDepth 4000 in
theorem floor_side_default :
    (⌊((Settings.default : Settings Rat).lineWidth : ℝ) / √2⌋ : Int) = (35 : Rat) := by
  rw [← Scalar.floorSide_natCast]
  cbv

theorem ofNetwork_restated_junction :
    (∃ positions, place Placement.solve junction .default = .ok positions) ∧
      ofNetwork Placement.solve { junction with alignments := junctionRestated } .default =
        ofNetwork Placement.solve junction .default := by
  have otherOwn : Network.AlignsOwn { junction with alignments := junctionRestated } := by
    unfold Network.AlignsOwn
    decide
  refine ofNetwork_restated alignsOwn_junction otherOwn (by cbv) (by decide) setsOffsets_junction
    (by simp [junctionRestated, AlignmentRule.SetsOffsets]) (fun position _ => ?_)
    ⟨fun station => [⟨35, 35⟩, ⟨60, 35⟩, ⟨0, 0⟩].getD station.index ⟨0, 0⟩, fun station => ?_, ?_⟩
  · simp only [floor_side_default, Network.AlignmentsHold, junction, junctionRestated,
      List.forall_mem_cons, AlignmentRule.Holds, Relation.Holds, Axis.Holds,
      List.isChain_cons_cons, List.isChain_singleton, List.not_mem_nil, false_imp_iff,
      implies_true, and_true]
    grind
  · obtain ⟨_ | _ | _ | index⟩ := station
    · exact ⟨.natCast 35, .natCast 35⟩
    · exact ⟨.natCast 60, .natCast 35⟩
    · exact ⟨.natCast 0, .natCast 0⟩
    · exact ⟨.natCast 0, .natCast 0⟩
  · rw [floor_side_default]
    norm_num [Network.AlignmentsHold, junction, AlignmentRule.Holds, Relation.Holds, Axis.Holds]

end Layout

end TransitMap
