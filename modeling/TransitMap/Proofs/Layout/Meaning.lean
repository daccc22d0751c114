import Mathlib
import TransitMap.Proofs.Layout.Equality
import TransitMap.Proofs.Side

namespace TransitMap.Network

/-- Positions meet all equalities just if they are aligned as the network says. Every equality has
one term for each of its coordinates, none without a coefficient, and its coordinates are those of
stations that an alignment names. -/
theorem equalities_say_alignments (network : Network Rat) (width : Rat) :
    (∀ position : StationId → Point Rat,
      (∀ equality ∈ network.equalities width, equality.Holds (coordinateOf position)) ↔
        network.AlignmentsHold width (⌊(width : ℝ) / √2⌋ : Int) position) ∧
    ∀ equality ∈ network.equalities width,
      (equality.terms.map Prod.fst).Nodup ∧ (∀ term ∈ equality.terms, term.2 ≠ 0) ∧
      (∀ term ∈ equality.terms, ∃ alignment ∈ network.alignments,
        ∃ station ∈ alignment.rule.stations, ∃ component, term.1 = station.coordinate component) ∧
      (network.AlignsOwn → ∀ term ∈ equality.terms, term.1 < 2 * network.stations.length) := by
  refine ⟨fun position => ?_, fun equality member => ?_⟩
  · rw [equalities_hold_iff, Scalar.floorSide_eq]
  · obtain ⟨alignment, isOne, inRule⟩ := List.mem_flatMap.mp member
    refine ⟨distinct_of_mem_equalities member, Equality.counts_of_mem_ofRule inRule,
      fun term isTerm => ?_, fun own => known_of_mem_equalities own member⟩
    exact ⟨alignment, isOne, Equality.exists_station_of_mem_ofRule inRule term isTerm⟩

def reflexive : Network Rat where
  lines := [⟨"red", [("A", ⟨0⟩), ("B", ⟨1⟩)], [⟨⟨0⟩, ⟨1⟩⟩], [], []⟩]
  lineNames := [("red", ⟨0⟩)]
  stations := [⟨"A", ⟨0⟩, .station, "A", ⟨0, 0⟩⟩, ⟨"B", ⟨0⟩, .station, "B", ⟨0, 10⟩⟩]
  curves := []
  alignments := [⟨.axis .vertical [⟨0⟩, ⟨1⟩, ⟨0⟩], some ⟨0⟩, 5, "vertical \"A, B, A\""⟩,
    ⟨.equal [⟨⟨0⟩, .x⟩, ⟨⟨0⟩, .x⟩] [⟨⟨1⟩, .x⟩, ⟨⟨0⟩, .x⟩], some ⟨0⟩, 6,
      "equal \"A.x + A.x\" \"B.x + A.x\""⟩,
    ⟨.diagonal .rising [⟨1⟩, ⟨1⟩], some ⟨0⟩, 7, "up-right \"B, B\""⟩,
    ⟨.sameStation .left [(⟨0⟩, ⟨0⟩)], none, 9, "same-station \"red: A\" left \"red: A\""⟩]
  overlaps := []

theorem equalities_say_alignments_reflexive :
    reflexive.AlignsOwn ∧
      reflexive.equalities 50 = [⟨[(0, 1), (2, -1)], 0, 5⟩, ⟨[(2, 1), (0, -1)], 0, 5⟩,
        ⟨[(0, 1), (2, -1)], 0, 6⟩, ⟨[], 0, 7⟩, ⟨[], 0, 9⟩, ⟨[], -50, 9⟩] ∧
      (∀ equality ∈ reflexive.equalities 50, ∀ term ∈ equality.terms, term.1 < 4) ∧
      ∀ position, ¬reflexive.AlignmentsHold 50 (⌊((50 : Rat) : ℝ) / √2⌋ : Int) position := by
  have own : reflexive.AlignsOwn := by simp [AlignsOwn, reflexive, AlignmentRule.stations]
  have equalities : reflexive.equalities 50 = [⟨[(0, 1), (2, -1)], 0, 5⟩,
      ⟨[(2, 1), (0, -1)], 0, 5⟩, ⟨[(0, 1), (2, -1)], 0, 6⟩, ⟨[], 0, 7⟩, ⟨[], 0, 9⟩,
      ⟨[], -50, 9⟩] := by
    cbv
  obtain ⟨say, proper⟩ := equalities_say_alignments reflexive 50
  refine ⟨own, equalities, fun equality member => (proper equality member).2.2.2 own,
    fun position hold => ?_⟩
  have last := (say position).mpr hold ⟨[], -50, 9⟩ (by simp [equalities])
  norm_num [Equality.Holds] at last

end TransitMap.Network
