import TransitMap.Proofs.Layout.Elimination
import TransitMap.Proofs.Layout.Sketch

/-!
When rounding keeps equalities. It does so just if some whole solution has the rounded values at the
coordinates that are no pivots; a pivot that does not come out whole is rounded on its own, and its
row is lost.
-/

open scoped TransitMap.ExactScalar
open TransitMap.Scalar (IsWhole)

namespace TransitMap.Snapping

variable {values final : List Rat} {equalities : List (Equality Rat)} {pivots : List (PivotRow Rat)}

theorem exists_integral (fits : ∀ equality ∈ equalities, equality.Fits values.length)
    (coefficients : Echelon.CoefficientsCount values.length equalities)
    (solvable : Solvable equalities) : ∃ final, integral values equalities = .ok final := by
  obtain ⟨others, hold⟩ := solvable
  obtain ⟨pivots, built⟩ := Echelon.exists_ofEqualities fits hold coefficients
  exact ⟨_, integral_of_ofEqualities built⟩

/-- Some whole solution has the rounded values at the coordinates that are no pivots. -/
def Completable (values : List Rat) (equalities : List (Equality Rat))
    (pivots : List (PivotRow Rat)) : Prop :=
  ∃ others : Nat → Rat, (∀ coordinate, IsWhole (others coordinate)) ∧
    (∀ equality ∈ equalities, equality.Holds others) ∧
    ∀ coordinate < values.length, (∀ pivot ∈ pivots, pivot.coordinate ≠ coordinate) →
      others coordinate = snap (valueAt values coordinate)

theorem completable_of_hold (built : Echelon.ofEqualities values.length equalities = .ok pivots)
    (rounded : integral values equalities = .ok final)
    (hold : ∀ equality ∈ equalities, equality.Holds (valueAt final)) :
    Completable values equalities pivots :=
  ⟨valueAt final, Layout.isWhole_valueAt (isWhole_integral rounded), hold,
    fun _ bound isFree => valueAt_integral_of_free rounded built bound isFree⟩

theorem Completable.hold (completable : Completable values equalities pivots)
    (fits : ∀ equality ∈ equalities, equality.Fits values.length)
    (built : Echelon.ofEqualities values.length equalities = .ok pivots)
    (rounded : integral values equalities = .ok final) :
    ∀ equality ∈ equalities, equality.Holds (valueAt final) := by
  obtain ⟨others, whole, hold, isRounded⟩ := completable
  have staircase := Echelon.staircase_of_ofEqualities built
  let completed := (List.range values.length).map others
  have length : completed.length = values.length := by simp [completed]
  have inside : ∀ coordinate < values.length, valueAt completed coordinate = others coordinate :=
    fun coordinate bound => valueAt_map_range others bound
  have rows := ((Echelon.equalities_hold_iff fits built).mp hold).1
  have found : integral values equalities = .ok completed := by
    refine integral_eq_ok_of_rows_hold built length (fun coordinate bound => ?_)
      (fun pivot member => ?_) fun coordinate bound isFree => ?_
    · rw [inside coordinate bound]
      exact whole coordinate
    · rw [← rows pivot member, Row.excess, Row.excess, Row.total_congr fun coordinate bound =>
        inside coordinate (staircase.length pivot member ▸ bound)]
    · rw [inside coordinate bound, isRounded coordinate bound isFree]
  obtain rfl := Except.ok.inj (rounded.symm.trans found)
  intro equality member
  exact ((fits equality member).holds_congr inside).mpr (hold equality member)

/-- If nothing that is left of an equality is taken for zero without being zero, the equalities hold
just where every pivot comes out whole. -/
theorem hold_iff_isWhole (fits : ∀ equality ∈ equalities, equality.Fits values.length)
    (coefficients : Echelon.CoefficientsCount values.length equalities)
    (constants : Echelon.ConstantsCount values.length equalities)
    (built : Echelon.ofEqualities values.length equalities = .ok pivots)
    (rounded : integral values equalities = .ok final) :
    (∀ equality ∈ equalities, equality.Holds (valueAt final)) ↔
      ∀ pivot ∈ pivots, IsWhole (pivotValue final pivot) := by
  obtain ⟨-, others, otherBuilt, missed⟩ := excess_of_integral rounded
  obtain rfl := Except.ok.inj (otherBuilt.symm.trans built)
  rw [← Echelon.rows_hold_iff fits coefficients constants built]
  refine forall₂_congr fun pivot member => ?_
  rw [missed pivot member, sub_eq_zero, snap_eq_self_iff]

/-- Rounding finds whole values for equalities that have a solution. They hold for these values just
if some whole solution has the rounded values at the coordinates that are no pivots, that is if
every pivot comes out whole. -/
theorem integral_holds_iff (fits : ∀ equality ∈ equalities, equality.Fits values.length) :
    (Echelon.CoefficientsCount values.length equalities → Solvable equalities →
      ∃ final, integral values equalities = .ok final) ∧
    ∀ final, integral values equalities = .ok final →
      final.length = values.length ∧ (∀ value ∈ final, IsWhole value) ∧
      ∃ pivots, Echelon.ofEqualities values.length equalities = .ok pivots ∧
        ((∀ equality ∈ equalities, equality.Holds (valueAt final)) ↔
          Completable values equalities pivots) ∧
        (Echelon.CoefficientsCount values.length equalities →
          Echelon.ConstantsCount values.length equalities →
          ((∀ equality ∈ equalities, equality.Holds (valueAt final)) ↔
            ∀ pivot ∈ pivots, IsWhole (pivotValue final pivot))) := by
  refine ⟨exists_integral fits, fun final rounded => ?_⟩
  obtain ⟨length, pivots, built, -⟩ := excess_of_integral rounded
  exact ⟨length, isWhole_integral rounded, pivots, built,
    ⟨completable_of_hold built rounded, fun completable => completable.hold fits built rounded⟩,
    fun coefficients constants => hold_iff_isWhole fits coefficients constants built rounded⟩

def thirds : Equality Rat := ⟨[(0, 2), (2, -3)], 0, 6⟩

def thirdsPivot : PivotRow Rat := ⟨2, ⟨[-2 / 3, 0, 1, 0, 0, 0], 0⟩, thirds⟩

theorem integral_holds_iff_thirds :
    integral [31 / 5, 0, 4, 10, 0, 20] [thirds] = .ok [6, 0, 4, 10, 0, 20] ∧
      Completable [31 / 5, 0, 4, 10, 0, 20] [thirds] [thirdsPivot] ∧
      thirds.Holds (valueAt [6, 0, 4, 10, 0, 20]) := by
  have fits : ∀ equality ∈ [thirds], equality.Fits 6 := by
    rw [List.forall_mem_singleton]
    exact ⟨by decide, by decide⟩
  have rounded : integral [31 / 5, 0, 4, 10, 0, 20] [thirds] = .ok [6, 0, 4, 10, 0, 20] := by cbv
  have reduced : Echelon.ofEqualities 6 [thirds] = .ok [thirdsPivot] := by cbv
  obtain ⟨-, -, pivots, built, completes, -⟩ :=
    (@integral_holds_iff [31 / 5, 0, 4, 10, 0, 20] [thirds] fits).2 _ rounded
  obtain rfl := Except.ok.inj (built.symm.trans reduced)
  have holds : thirds.Holds (valueAt [6, 0, 4, 10, 0, 20]) := by
    norm_num [thirds, Equality.Holds, valueAt]
  exact ⟨rounded, completes.mp (by simpa using holds), holds⟩

def thirdsSource : List Char :=
  ("line red:\nstation \"A\" 4 0\nstation \"B\" 4 10\nstation \"C\" 0 20\nedges \"A, B, C\"\n" ++
    "equal \"A.x + A.x\" \"B.x + B.x + B.x\"\n").toList

def thirdsNetwork : Network Rat where
  lines := [⟨"red", [("A", ⟨0⟩), ("B", ⟨1⟩), ("C", ⟨2⟩)], [⟨⟨0⟩, ⟨1⟩⟩, ⟨⟨1⟩, ⟨2⟩⟩], [], []⟩]
  lineNames := [("red", ⟨0⟩)]
  stations := [⟨"A", ⟨0⟩, .station, "A", ⟨4, 0⟩⟩, ⟨"B", ⟨0⟩, .station, "B", ⟨4, 10⟩⟩,
    ⟨"C", ⟨0⟩, .station, "C", ⟨0, 20⟩⟩]
  curves := []
  alignments := [⟨.equal [⟨⟨0⟩, .x⟩, ⟨⟨0⟩, .x⟩] [⟨⟨1⟩, .x⟩, ⟨⟨1⟩, .x⟩, ⟨⟨1⟩, .x⟩], some ⟨0⟩, 6,
    "equal \"A.x + A.x\" \"B.x + B.x + B.x\""⟩]
  overlaps := []

/-- The first coordinate is rounded to five, for which no whole number fits. -/
theorem not_holds_integral_thirds :
    Network.ofSource (fun _ name => some name) thirdsSource = .ok thirdsNetwork ∧
      thirdsNetwork.equalities (Settings.width .default) = [thirds] ∧
      thirds.Holds (valueAt [6, 0, 4, 10, 0, 20]) ∧
      Layout.wholeValues Placement.solve thirdsNetwork .default = .ok [5, 0, 3, 10, 0, 20] ∧
      integral [60 / 13, 0, 40 / 13, 10, 0, 20] [thirds] = .ok [5, 0, 3, 10, 0, 20] ∧
      ¬thirds.Holds (valueAt [5, 0, 3, 10, 0, 20]) := by
  refine ⟨by cbv, by cbv, ?_, by cbv, by cbv, ?_⟩
  · norm_num [thirds, Equality.Holds, valueAt]
  · norm_num [thirds, Equality.Holds, valueAt]

end TransitMap.Snapping
