import Mathlib.Algebra.BigOperators.Group.List.Basic
import Mathlib.Data.List.Chain
import Mathlib.Tactic.Ring
import TransitMap.Layout.Equality
import TransitMap.Proofs.Network.WellFormed
import TransitMap.Proofs.Scalar

namespace TransitMap

/-- Where the first station lies relative to the second one, at a line width and the offset in x and
in y that amounts to it along a diagonal. -/
def Relation.Holds (width side : Rat) (first second : Point Rat) : Relation → Prop
  | above => first.x = second.x ∧ first.y + width = second.y
  | below => first.x = second.x ∧ second.y + width = first.y
  | left => first.y = second.y ∧ first.x + width = second.x
  | right => first.y = second.y ∧ second.x + width = first.x
  | aboveRight => first.y + side = second.y ∧ first.x - side = second.x
  | belowLeft => second.y + side = first.y ∧ second.x - side = first.x
  | aboveLeft => first.y + side = second.y ∧ first.x + side = second.x
  | belowRight => second.y + side = first.y ∧ second.x + side = first.x
  | exact => first.x = second.x ∧ first.y = second.y

def Point.component (point : Point Rat) : Component → Rat
  | .x => point.x
  | .y => point.y

@[simp] theorem Point.component_x (point : Point Rat) : point.component .x = point.x := rfl

@[simp] theorem Point.component_y (point : Point Rat) : point.component .y = point.y := rfl

def Axis.Holds (first second : Point Rat) : Axis → Prop
  | vertical => first.x = second.x
  | horizontal => first.y = second.y

def Diagonal.Holds (first second : Point Rat) : Diagonal → Prop
  | rising => second.x - first.x = -(second.y - first.y)
  | falling => second.x - first.x = second.y - first.y

def AlignmentRule.Holds (width side : Rat) (position : StationId → Point Rat) :
    AlignmentRule → Prop
  | .axis shared stations =>
      stations.IsChain fun first second => shared.Holds (position first) (position second)
  | .diagonal direction stations =>
      stations.IsChain fun first second => direction.Holds (position first) (position second)
  | .sameStation relation pairs =>
      ∀ pair ∈ pairs, relation.Holds width side (position pair.1) (position pair.2)
  | .equal left right =>
      (left.map fun term => (position term.station).component term.component).sum =
        (right.map fun term => (position term.station).component term.component).sum

/-- Both sides of the rule have as many x coordinates and as many y coordinates. -/
def AlignmentRule.Balanced : AlignmentRule → Prop
  | .equal left right => ∀ component,
      left.countP (fun term => term.component == component) =
        right.countP fun term => term.component == component
  | .axis .. | .diagonal .. | .sameStation .. => True

def Network.AlignmentsHold (network : Network Rat) (width side : Rat)
    (position : StationId → Point Rat) : Prop :=
  ∀ alignment ∈ network.alignments, alignment.rule.Holds width side position

def coordinateOf (position : StationId → Point Rat) (coordinate : Nat) : Rat :=
  (position ⟨coordinate / 2⟩).component (if coordinate % 2 = 0 then .x else .y)

@[simp] theorem coordinateOf_coordinate (position : StationId → Point Rat) (station : StationId)
    (component : Component) :
    coordinateOf position (station.coordinate component) = (position station).component component := by
  obtain ⟨index⟩ := station
  cases component with
  | x => simp [coordinateOf, StationId.coordinate]
  | y =>
      have half : (2 * index + 1) / 2 = index := by omega
      simp [coordinateOf, StationId.coordinate, half]

def positionOf (values : Nat → Rat) (station : StationId) : Point Rat :=
  ⟨values (station.coordinate .x), values (station.coordinate .y)⟩

@[simp] theorem coordinateOf_positionOf (values : Nat → Rat) :
    coordinateOf (positionOf values) = values := by
  funext coordinate
  rw [coordinateOf]
  split
  · next even =>
      have own : 2 * (coordinate / 2) = coordinate := by omega
      simp [positionOf, StationId.coordinate, own]
  · next odd =>
      have own : 2 * (coordinate / 2) + 1 = coordinate := by omega
      simp [positionOf, StationId.coordinate, own]

namespace Equality

variable {values : Nat → Rat}

def sum (values : Nat → Rat) (terms : List (Nat × Rat)) : Rat :=
  (terms.map fun term => term.2 * values term.1).sum

@[simp] theorem sum_nil (values : Nat → Rat) : sum values [] = 0 := rfl

@[simp] theorem sum_cons (values : Nat → Rat) (term : Nat × Rat) (terms : List (Nat × Rat)) :
    sum values (term :: terms) = term.2 * values term.1 + sum values terms := by
  simp [sum]

@[simp] theorem sum_append (values : Nat → Rat) (first second : List (Nat × Rat)) :
    sum values (first ++ second) = sum values first + sum values second := by
  simp [sum]

@[simp] theorem sum_addTerm (values : Nat → Rat) (coordinate : Nat) (coefficient : Rat)
    (terms : List (Nat × Rat)) :
    sum values (addTerm coordinate coefficient terms) =
      coefficient * values coordinate + sum values terms := by
  induction terms with
  | nil => simp [addTerm]
  | cons term rest ih =>
      simp only [addTerm]
      split
      · next same =>
          subst same
          simp only [sum_cons]
          ring
      · simp only [sum_cons, ih]
        ring

private theorem sum_foldl_addTerm (values : Nat → Rat) (merged terms : List (Nat × Rat)) :
    sum values (terms.foldl (fun merged term => addTerm term.1 term.2 merged) merged) =
      sum values merged + sum values terms := by
  induction terms generalizing merged with
  | nil => simp
  | cons term rest ih =>
      simp only [List.foldl_cons, ih, sum_addTerm, sum_cons]
      ring

@[simp] theorem sum_merge (values : Nat → Rat) (terms : List (Nat × Rat)) :
    sum values (merge terms) = sum values terms := by
  simp [merge, sum_foldl_addTerm]

theorem sum_filter (values : Nat → Rat) (terms : List (Nat × Rat)) :
    sum values (terms.filter fun term => !(term.2 == 0)) = sum values terms := by
  induction terms with
  | nil => rfl
  | cons term rest ih =>
      by_cases zero : term.2 = 0
      · simp [zero, ih]
      · simp [zero, ih]

private theorem keys_addTerm (coordinate : Nat) (coefficient : Rat) (terms : List (Nat × Rat)) :
    (addTerm coordinate coefficient terms).map Prod.fst =
      if coordinate ∈ terms.map Prod.fst then terms.map Prod.fst
      else terms.map Prod.fst ++ [coordinate] := by
  induction terms with
  | nil => simp [addTerm]
  | cons term rest ih =>
      simp only [addTerm]
      split
      · next same => simp [same]
      · next apart =>
          simp only [List.map_cons, ih, List.mem_cons, Ne.symm apart, false_or]
          split <;> simp

theorem distinct_merge (terms : List (Nat × Rat)) : ((merge terms).map Prod.fst).Nodup := by
  suffices distinct : ∀ merged : List (Nat × Rat), (merged.map Prod.fst).Nodup →
      ((terms.foldl (fun merged term => addTerm term.1 term.2 merged) merged).map Prod.fst).Nodup by
    exact distinct [] .nil
  induction terms with
  | nil => exact fun merged distinct => distinct
  | cons term rest ih =>
      intro merged distinct
      apply ih
      rw [keys_addTerm]
      split
      · exact distinct
      · next absent =>
          rw [List.nodup_append]
          refine ⟨distinct, by simp, fun key member other isNew => ?_⟩
          rw [List.mem_singleton.mp isNew]
          rintro rfl
          exact absent member

theorem mem_of_mem_merge {terms : List (Nat × Rat)} {coordinate : Nat}
    (member : coordinate ∈ (merge terms).map Prod.fst) : coordinate ∈ terms.map Prod.fst := by
  suffices among : ∀ merged : List (Nat × Rat), coordinate ∈
      (terms.foldl (fun merged term => addTerm term.1 term.2 merged) merged).map Prod.fst →
      coordinate ∈ merged.map Prod.fst ∨ coordinate ∈ terms.map Prod.fst by
    exact (among [] member).resolve_left List.not_mem_nil
  clear member
  induction terms with
  | nil => exact fun merged member => .inl member
  | cons term rest ih =>
      intro merged member
      rcases ih _ member with isAdded | isRest
      · rw [keys_addTerm] at isAdded
        split at isAdded
        · exact .inl isAdded
        · rcases List.mem_append.mp isAdded with old | new
          · exact .inl old
          · rw [List.mem_singleton.mp new]
            exact .inr List.mem_cons_self
      · exact .inr (List.mem_cons_of_mem _ isRest)

theorem distinct_ofTerms (terms : List (Nat × Rat)) (constant : Rat) (sourceLine : Nat) :
    ((ofTerms terms constant sourceLine).terms.map Prod.fst).Nodup :=
  (distinct_merge terms).sublist (List.filter_sublist.map Prod.fst)

def Holds (equality : Equality Rat) (values : Nat → Rat) : Prop :=
  sum values equality.terms = equality.constant

@[simp] theorem sum_ofTerms (values : Nat → Rat) (terms : List (Nat × Rat)) (constant : Rat)
    (sourceLine : Nat) : sum values (ofTerms terms constant sourceLine).terms = sum values terms := by
  simp only [ofTerms, Scalar.literal_eq, Nat.cast_zero]
  rw [sum_filter, sum_merge]

theorem holds_ofTerms {terms : List (Nat × Rat)} {constant : Rat} {sourceLine : Nat} :
    (ofTerms terms constant sourceLine).Holds values ↔ sum values terms = constant := by
  rw [Holds, sum_ofTerms]
  rfl

theorem holds_difference {first second : Nat} {constant : Rat} {sourceLine : Nat} :
    (difference first second constant sourceLine).Holds values ↔
      values first - values second = constant := by
  simp only [difference, holds_ofTerms, sum_cons, sum_nil, Scalar.literal_eq, Nat.cast_one]
  rw [one_mul, neg_one_mul, add_zero, sub_eq_add_neg]

variable {position : StationId → Point Rat}

theorem holds_onDiagonal {diagonal : Diagonal} {first second : StationId} {sourceLine : Nat} :
    (onDiagonal diagonal first second sourceLine).Holds (coordinateOf position) ↔
      diagonal.Holds (position first) (position second) := by
  cases diagonal with
  | rising =>
      simp [onDiagonal, holds_ofTerms, Diagonal.Holds]
      grind
  | falling =>
      simp [onDiagonal, holds_ofTerms, Diagonal.Holds]
      grind

theorem holds_offset {first second : StationId} {x y : Rat} {sourceLine : Nat} :
    (∀ equality ∈ offset first second x y sourceLine, equality.Holds (coordinateOf position)) ↔
      (position first).x - (position second).x = x ∧
        (position first).y - (position second).y = y := by
  simp [offset, holds_difference, and_comm]

theorem holds_ofRelation {width : Rat} {relation : Relation} {first second : StationId}
    {sourceLine : Nat} :
    (∀ equality ∈ ofRelation width relation first second sourceLine,
        equality.Holds (coordinateOf position)) ↔
      relation.Holds width (Scalar.floorSide width) (position first) (position second) := by
  cases relation <;>
    simp only [ofRelation, List.mem_reverse, holds_offset, Relation.Holds, Scalar.literal_eq] <;>
    grind

private theorem holds_consecutive {item : StationId → StationId → Equality Rat}
    {holds : StationId → StationId → Prop}
    (same : ∀ first second, (item first second).Holds values ↔ holds first second)
    {stations : List StationId} :
    (∀ equality ∈ consecutive item stations, equality.Holds values) ↔ stations.IsChain holds := by
  fun_induction consecutive item stations with
  | case1 first second rest ih => simp [same, ih]
  | case2 stations short =>
      match stations, short with
      | [], _ => simp
      | [station], _ => simp
      | first :: second :: rest, short => exact (short first second rest rfl).elim

private theorem sum_map_term (sign : Rat) (terms : List Term) :
    sum (coordinateOf position) (terms.map fun term => (term.coordinate, sign)) =
      sign * (terms.map fun term => (position term.station).component term.component).sum := by
  induction terms with
  | nil => simp
  | cons term rest ih =>
      rw [List.map_cons, sum_cons, ih]
      simp [Term.coordinate, mul_add]

theorem holds_ofRule {width : Rat} {sourceLine : Nat} {rule : AlignmentRule} :
    (∀ equality ∈ ofRule width sourceLine rule, equality.Holds (coordinateOf position)) ↔
      rule.Holds width (Scalar.floorSide width) position := by
  cases rule with
  | axis axis stations =>
      refine holds_consecutive fun first second => ?_
      cases axis <;>
        simp [holds_difference, Axis.Holds, sub_eq_zero]
  | diagonal diagonal stations => exact holds_consecutive fun first second => holds_onDiagonal
  | sameStation relation pairs =>
      rw [ofRule, List.forall_mem_flatMap]
      exact forall₂_congr fun pair _ => holds_ofRelation
  | equal left right =>
      simp only [ofRule, List.mem_singleton, forall_eq, holds_ofTerms, sum_append, sum_map_term,
        AlignmentRule.Holds, Scalar.literal_eq, Nat.cast_one, Nat.cast_zero]
      rw [one_mul, neg_one_mul, ← sub_eq_add_neg, sub_eq_zero]

theorem exists_of_mem_consecutive {item : StationId → StationId → α}
    {stations : List StationId} {value : α} (member : value ∈ consecutive item stations) :
    ∃ first ∈ stations, ∃ second ∈ stations, value = item first second := by
  fun_induction consecutive item stations with
  | case1 first second rest ih =>
      rcases List.mem_cons.mp member with rfl | later
      · exact ⟨first, by simp, second, by simp, rfl⟩
      · obtain ⟨earlier, isEarlier, next, isNext, rfl⟩ := ih later
        exact ⟨earlier, List.mem_cons_of_mem _ isEarlier, next, List.mem_cons_of_mem _ isNext, rfl⟩
  | case2 => cases member

private theorem sum_component (point : Point Rat) (terms : List Term) :
    (terms.map fun term => point.component term.component).sum =
      terms.countP (fun term => term.component == .x) * point.x +
        terms.countP (fun term => term.component == .y) * point.y := by
  induction terms with
  | nil => simp
  | cons term rest ih =>
      obtain ⟨station, component⟩ := term
      cases component <;> simp [ih] <;> ring

/-- The equalities of a balanced rule do not tell how far all stations are moved. -/
theorem sum_constant_of_mem_ofRule {width : Rat} {sourceLine : Nat} {rule : AlignmentRule}
    (balanced : rule.Balanced) {equality : Equality Rat}
    (member : equality ∈ ofRule width sourceLine rule) (point : Point Rat) :
    sum (coordinateOf fun _ => point) equality.terms = 0 := by
  cases rule with
  | axis axis stations =>
      obtain ⟨first, -, second, -, rfl⟩ := exists_of_mem_consecutive member
      simp [difference]
  | diagonal diagonal stations =>
      obtain ⟨first, -, second, -, rfl⟩ := exists_of_mem_consecutive member
      simp [onDiagonal]
  | sameStation relation pairs =>
      obtain ⟨pair, -, member⟩ := List.mem_flatMap.mp member
      cases relation <;>
        simp only [ofRelation, offset, List.mem_reverse, List.mem_cons, List.not_mem_nil,
          or_false] at member <;>
        rcases member with rfl | rfl <;>
        simp [difference]
  | equal left right =>
      obtain rfl := List.mem_singleton.mp member
      rw [sum_ofTerms, sum_append, sum_map_term, sum_map_term, sum_component, sum_component,
        balanced .x, balanced .y]
      simp

theorem exists_ofTerms_of_mem_ofRule {width : Rat} {sourceLine : Nat} {rule : AlignmentRule}
    {equality : Equality Rat} (member : equality ∈ ofRule width sourceLine rule) :
    ∃ terms constant, equality = ofTerms terms constant sourceLine ∧
      ∀ term ∈ terms, ∃ station ∈ rule.stations, ∃ component,
        term.1 = station.coordinate component := by
  cases rule with
  | axis axis stations =>
      obtain ⟨first, isFirst, second, isSecond, rfl⟩ := exists_of_mem_consecutive member
      refine ⟨_, _, rfl, ?_⟩
      simp only [List.forall_mem_cons]
      exact ⟨⟨first, isFirst, _, rfl⟩, ⟨second, isSecond, _, rfl⟩, by simp⟩
  | diagonal diagonal stations =>
      obtain ⟨first, isFirst, second, isSecond, rfl⟩ := exists_of_mem_consecutive member
      refine ⟨_, _, rfl, ?_⟩
      simp only [List.forall_mem_cons]
      exact ⟨⟨first, isFirst, _, rfl⟩, ⟨second, isSecond, _, rfl⟩, ⟨first, isFirst, _, rfl⟩,
        ⟨second, isSecond, _, rfl⟩, by simp⟩
  | sameStation relation pairs =>
      obtain ⟨⟨first, second⟩, isPair, member⟩ := List.mem_flatMap.mp member
      have isFirst : first ∈ (AlignmentRule.sameStation relation pairs).stations :=
        List.mem_flatMap.mpr ⟨_, isPair, by simp⟩
      have isSecond : second ∈ (AlignmentRule.sameStation relation pairs).stations :=
        List.mem_flatMap.mpr ⟨_, isPair, by simp⟩
      cases relation <;>
        simp only [ofRelation, offset, List.mem_reverse, List.mem_cons, List.not_mem_nil,
          or_false] at member <;>
        rcases member with rfl | rfl <;>
        refine ⟨_, _, rfl, ?_⟩ <;>
        simp only [List.forall_mem_cons, List.not_mem_nil, false_imp_iff, implies_true,
          and_true] <;>
        first
          | exact ⟨⟨first, isFirst, _, rfl⟩, ⟨second, isSecond, _, rfl⟩⟩
          | exact ⟨⟨second, isSecond, _, rfl⟩, ⟨first, isFirst, _, rfl⟩⟩
  | equal left right =>
      obtain rfl := List.mem_singleton.mp member
      refine ⟨_, _, rfl, fun term isTerm => ?_⟩
      simp only [List.mem_append, List.mem_map] at isTerm
      rcases isTerm with ⟨written, isOne, rfl⟩ | ⟨written, isOne, rfl⟩
      · exact ⟨_, List.mem_map_of_mem (List.mem_append_left _ isOne), _, rfl⟩
      · exact ⟨_, List.mem_map_of_mem (List.mem_append_right _ isOne), _, rfl⟩

theorem distinct_of_mem_ofRule {width : Rat} {sourceLine : Nat} {rule : AlignmentRule}
    {equality : Equality Rat} (member : equality ∈ ofRule width sourceLine rule) :
    (equality.terms.map Prod.fst).Nodup := by
  obtain ⟨terms, constant, rfl, -⟩ := exists_ofTerms_of_mem_ofRule member
  exact distinct_ofTerms _ _ _

theorem exists_station_of_mem_ofRule {width : Rat} {sourceLine : Nat} {rule : AlignmentRule}
    {equality : Equality Rat} (member : equality ∈ ofRule width sourceLine rule) :
    ∀ term ∈ equality.terms, ∃ station ∈ rule.stations, ∃ component,
      term.1 = station.coordinate component := by
  obtain ⟨terms, constant, rfl, among⟩ := exists_ofTerms_of_mem_ofRule member
  intro term isTerm
  have merged := List.mem_map_of_mem (f := Prod.fst) (List.mem_filter.mp isTerm).1
  obtain ⟨written, isWritten, same⟩ := List.mem_map.mp (mem_of_mem_merge merged)
  exact same ▸ among written isWritten

theorem known_of_mem_ofRule {width : Rat} {sourceLine : Nat} {rule : AlignmentRule}
    {equality : Equality Rat} (member : equality ∈ ofRule width sourceLine rule) {stations : Nat}
    (known : ∀ station ∈ rule.stations, station.index < stations) :
    ∀ term ∈ equality.terms, term.1 < 2 * stations := by
  intro term isTerm
  obtain ⟨station, isOne, component, isCoordinate⟩ := exists_station_of_mem_ofRule member term isTerm
  have bound := known station isOne
  rw [isCoordinate]
  cases component <;> simp only [StationId.coordinate] <;> omega

theorem counts_of_mem_ofRule {width : Rat} {sourceLine : Nat} {rule : AlignmentRule}
    {equality : Equality Rat} (member : equality ∈ ofRule width sourceLine rule) :
    ∀ term ∈ equality.terms, term.2 ≠ 0 := by
  obtain ⟨terms, constant, rfl, -⟩ := exists_ofTerms_of_mem_ofRule member
  intro term isTerm
  simpa using (List.mem_filter.mp isTerm).2

end Equality

theorem Network.distinct_of_mem_equalities {network : Network Rat} {width : Rat}
    {equality : Equality Rat} (member : equality ∈ network.equalities width) :
    (equality.terms.map Prod.fst).Nodup := by
  obtain ⟨alignment, -, member⟩ := List.mem_flatMap.mp member
  exact Equality.distinct_of_mem_ofRule member

def Network.AlignsOwn (network : Network Rat) : Prop :=
  ∀ alignment ∈ network.alignments, ∀ station ∈ alignment.rule.stations,
    station.index < network.stations.length

theorem Network.WellFormed.alignsOwn {network : Network Rat} (wellFormed : network.WellFormed) :
    network.AlignsOwn :=
  fun alignment member => (wellFormed.alignment_known alignment member).1

theorem Network.known_of_mem_equalities {network : Network Rat} (own : network.AlignsOwn)
    {width : Rat} {equality : Equality Rat} (member : equality ∈ network.equalities width) :
    ∀ term ∈ equality.terms, term.1 < 2 * network.stations.length := by
  obtain ⟨alignment, isOne, member⟩ := List.mem_flatMap.mp member
  exact Equality.known_of_mem_ofRule member (own alignment isOne)

/-- The equalities of a network hold for positions just if its alignments do. -/
theorem Network.equalities_hold_iff {network : Network Rat} {width : Rat}
    {position : StationId → Point Rat} :
    (∀ equality ∈ network.equalities width, equality.Holds (coordinateOf position)) ↔
      network.AlignmentsHold width (Scalar.floorSide width) position := by
  rw [Network.equalities, List.forall_mem_flatMap]
  exact forall₂_congr fun alignment _ => Equality.holds_ofRule

end TransitMap
