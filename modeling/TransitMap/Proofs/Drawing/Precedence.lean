import Mathlib.Data.List.Dedup
import Mathlib.Data.List.Sort
import TransitMap.Proofs.Drawing.Schedule

/-!
Which of two curves is drawn first when they depend on the same curves. Curves that depend on none
are drawn in the order in which they are declared. All others become ready when the last of their
dependencies is drawn, the one declared last before the others, and are drawn in that order.
-/

open Relation (TransGen)

namespace TransitMap

theorem not_sublist_swap {items : List α} (nodup : items.Nodup) {first second : α}
    (inTurn : [first, second].Sublist items) : ¬[second, first].Sublist items := by
  induction items with
  | nil => cases inTurn
  | cons item rest ih =>
      obtain ⟨absent, nodup⟩ := List.nodup_cons.mp nodup
      intro swapped
      cases inTurn with
      | cons _ inRest =>
          cases swapped with
          | cons _ swappedInRest => exact ih nodup inRest swappedInRest
          | cons_cons _ _ => exact absent (inRest.subset (by simp))
      | cons_cons _ _ =>
          cases swapped with
          | cons _ swappedInRest => exact absent (swappedInRest.subset (by simp))
          | cons_cons _ member => exact absent (List.singleton_sublist.mp member)

namespace Network

variable {K : Type} {network : Network K} {first second curve : CurveId}

theorem dedup_flatMap_replicate (times : CurveId → Nat) (curves : List CurveId)
    (nodup : curves.Nodup) :
    (curves.flatMap fun id => List.replicate (times id) id).reverse.dedup =
      (curves.filter fun id => times id ≠ 0).reverse := by
  induction curves with
  | nil => rfl
  | cons first rest ih =>
      obtain ⟨absent, nodup⟩ := List.nodup_cons.mp nodup
      rw [List.flatMap_cons, List.reverse_append, List.reverse_replicate, List.filter_cons]
      by_cases never : times first = 0
      · simp only [never, List.replicate_zero, List.append_nil, ih nodup]
        rfl
      · have apart : List.Disjoint (rest.flatMap fun id => List.replicate (times id) id).reverse
            (List.replicate (times first) first) := by
          intro id member same
          obtain rfl := List.eq_of_mem_replicate same
          simp only [List.mem_reverse, List.mem_flatMap, List.mem_replicate] at member
          obtain ⟨other, isOther, -, rfl⟩ := member
          exact absent isOther
        rw [apart.dedup_append, ih nodup, List.replicate_dedup never]
        simp [never]

theorem dedup_dependents (network : Network K) (dependency : CurveId) :
    (network.dependents dependency).dedup =
      (network.curveIds.filter fun id => dependency ∈ network.dependencies id).reverse := by
  rw [dependents_eq_reverse_flatMap, dedup_flatMap_replicate _ _ network.nodup_curveIds]
  simp [List.count_eq_zero]

theorem sublist_filter_curveIds {picked : CurveId → Bool}
    (isFirst : first ∈ network.curveIds.filter picked)
    (isSecond : second ∈ network.curveIds.filter picked) (earlier : first.index < second.index) :
    [first, second].Sublist (network.curveIds.filter picked) := by
  rw [List.mem_filter, mem_curveIds] at isFirst isSecond
  have indices : [first.index, second.index].Sublist (List.range network.curves.length) :=
    List.sublist_of_subperm_of_sortedLE
      (List.subperm_of_subset (by simp [earlier.ne]) (by simp [isFirst, isSecond]))
      (List.pairwise_pair.mpr earlier.le).sortedLE (List.sortedLT_range _).sortedLE
  have declared : [first, second].Sublist network.curveIds := indices.map CurveId.mk
  simpa [isFirst, isSecond] using declared.filter picked

end Network

namespace Schedule

variable {K : Type} {network : Network K} {schedule : Schedule} {curve first second : CurveId}

/-- The curves that are drawn or ready, in the order in which they became ready. -/
def queue (schedule : Schedule) : List CurveId := schedule.drawn.reverse ++ schedule.ready

theorem ready_release (schedule : Schedule) (released : CurveId) :
    (schedule.release released).ready =
      schedule.ready ++ if schedule.waitsFor released ≤ 1 then [released] else [] := by
  unfold release
  simp only [Nat.sub_eq_zero_iff_le]
  split
  · rfl
  · exact (List.append_nil _).symm

/-- Curves become ready where they are released for the last time. -/
theorem ready_foldl_release (released : List CurveId) (schedule : Schedule)
    (enough : ∀ curve, released.count curve ≤ schedule.waitsFor curve) :
    (released.foldl release schedule).ready = schedule.ready ++
      released.dedup.filter fun curve => schedule.waitsFor curve = released.count curve := by
  induction released generalizing schedule with
  | nil => simp
  | cons first rest ih =>
      have step : ∀ curve, rest.count curve ≤ (schedule.release first).waitsFor curve ∧
          ((schedule.release first).waitsFor curve = rest.count curve ↔
            schedule.waitsFor curve = (first :: rest).count curve) := by
        intro curve
        have bound := enough curve
        rw [waitsFor_release]
        rw [List.count_cons] at bound ⊢
        simp only [beq_iff_eq] at bound ⊢
        omega
      rw [List.foldl_cons, ih _ fun curve => (step curve).1, ready_release]
      simp only [fun curve => (step curve).2]
      have bound := enough first
      rw [List.count_cons_self] at bound
      by_cases again : first ∈ rest
      · have positive := List.count_pos_iff.mpr again
        rw [List.dedup_cons_of_mem again, if_neg (by omega), List.append_nil]
      · rw [List.dedup_cons_of_notMem again, List.filter_cons, List.count_cons_self,
          List.count_eq_zero.mpr again, List.append_assoc]
        by_cases last : schedule.waitsFor first = 0 + 1
        · simp [last]
        · rw [if_neg (by omega)]
          simp [last]

theorem queue_start (network : Network K) :
    (start network).queue =
      network.curveIds.filter fun curve => (network.dependencies curve).isEmpty :=
  rfl

/-- The curves that wait for `curve` alone. -/
def waitingFor (network : Network K) (schedule : Schedule) (curve : CurveId) : List CurveId :=
  network.curveIds.filter fun other => curve ∈ network.dependencies other ∧
    ∀ dependency ∈ network.dependencies other, dependency ∈ curve :: schedule.drawn

theorem mem_waitingFor {other : CurveId} :
    other ∈ waitingFor network schedule curve ↔ network.DependsOn other curve ∧
      ∀ dependency, network.DependsOn other dependency → dependency ∈ curve :: schedule.drawn := by
  rw [waitingFor, List.mem_filter, decide_eq_true_eq, and_iff_right_of_imp]
  · rfl
  · exact fun dependsOn => Network.DependsOn.mem_curveIds dependsOn.1

section Advance

variable {rest : List CurveId} (sound : Sound network schedule)
  (ready : schedule.ready = curve :: rest)

include sound ready

/-- A curve is released for the last time when the last of its dependencies is drawn. -/
theorem Sound.waitsFor_eq_count_iff {other : CurveId} (isCurve : other ∈ network.curveIds) :
    schedule.waitsFor other = (network.dependents curve).count other ↔
      ∀ dependency ∈ network.dependencies other, dependency ∈ curve :: schedule.drawn := by
  rw [network.count_dependents, sound.waitsFor_eq_add ready isCurve, Nat.add_eq_right,
    List.countP_eq_zero]
  simp only [decide_eq_true_eq, not_not]

theorem Sound.queue_advance :
    (Schedule.advance network schedule curve rest).queue =
      schedule.queue ++ (waitingFor network schedule curve).reverse := by
  have enough : ∀ other, (network.dependents curve).count other ≤ schedule.waitsFor other := by
    intro other
    rw [network.count_dependents]
    exact sound.count_le_waitsFor ready other
  have released : (Schedule.advance network schedule curve rest).ready = rest ++
      (network.dependents curve).dedup.filter fun other =>
        schedule.waitsFor other = (network.dependents curve).count other :=
    ready_foldl_release _ _ enough
  have newlyReady : ((network.curveIds.filter fun other => curve ∈ network.dependencies other).filter
      fun other => schedule.waitsFor other = (network.dependents curve).count other) =
        waitingFor network schedule curve := by
    rw [List.filter_filter, waitingFor]
    apply List.filter_congr
    intro other isCurve
    rw [← Bool.decide_and, decide_eq_decide, sound.waitsFor_eq_count_iff ready isCurve, and_comm]
  rw [queue, released, network.dedup_dependents, List.filter_reverse, newlyReady, drawn_advance,
    queue, ready, List.reverse_cons]
  simp only [List.append_assoc, List.cons_append, List.nil_append]

end Advance

theorem Sound.queue_run (sound : Sound network schedule) (steps : Nat) :
    schedule.queue.Sublist (Schedule.run network steps schedule).queue := by
  induction steps generalizing schedule with
  | zero => exact List.Sublist.refl _
  | succ steps ih =>
      rw [Schedule.run]
      split
      · exact List.Sublist.refl _
      · next curve rest ready =>
          have grown : schedule.queue.Sublist (Schedule.advance network schedule curve rest).queue := by
            rw [sound.queue_advance ready]
            exact List.sublist_append_left _ _
          exact grown.trans (ih (sound.advance ready))

/-- All curves are drawn in the order in which they became ready. -/
theorem queue_of_order {order : List CurveId} (ordered : Schedule.order network = .ok order) :
    (run network network.curves.length (start network)).queue = order := by
  obtain ⟨sound, -⟩ := (sound_start network).run network.curves.length
  obtain ⟨perm, -⟩ := order_eq_ok ordered
  unfold Schedule.order at ordered
  dsimp only at ordered
  generalize run network network.curves.length (start network) = last at sound ordered
  split at ordered
  · cases ordered
  · obtain rfl := Except.ok.inj ordered
    have noneReady : last.ready = [] := by
      rw [List.eq_nil_iff_forall_not_mem]
      intro curve isReady
      have isCurve := sound.known curve (List.mem_append_right _ isReady)
      have isDrawn := List.mem_reverse.mp (perm.mem_iff.mpr isCurve)
      exact List.disjoint_of_nodup_append sound.nodup isDrawn isReady
    rw [queue, noneReady, List.append_nil]

/-- As soon as one of the curves is ready, both are, `second` before `first`. -/
def ReadyInReverse (schedule : Schedule) (first second : CurveId) : Prop :=
  first ∈ schedule.queue ∨ second ∈ schedule.queue → [second, first].Sublist schedule.queue

section SameDependencies

variable (same : ∀ dependency,
  network.DependsOn first dependency ↔ network.DependsOn second dependency)

include same

theorem dependencies_eq_nil_iff_of_same :
    network.dependencies first = [] ↔ network.dependencies second = [] := by
  simp only [List.eq_nil_iff_forall_not_mem]
  exact forall_congr' fun dependency => not_congr (same dependency)

theorem mem_waitingFor_iff_of_same :
    first ∈ waitingFor network schedule curve ↔ second ∈ waitingFor network schedule curve := by
  simp only [mem_waitingFor, same]

theorem readyInReverse_start (waits : network.dependencies first ≠ []) :
    ReadyInReverse (start network) first second := by
  have alsoWaits := (dependencies_eq_nil_iff_of_same same).not.mp waits
  intro isReady
  rw [queue_start, List.mem_filter, List.mem_filter, List.isEmpty_iff, List.isEmpty_iff] at isReady
  rcases isReady with ⟨-, none⟩ | ⟨-, none⟩
  · exact absurd none waits
  · exact absurd none alsoWaits

variable (earlier : first.index < second.index)

include earlier

theorem ReadyInReverse.advance {rest : List CurveId} (sound : Sound network schedule)
    (ready : schedule.ready = curve :: rest) (inReverse : ReadyInReverse schedule first second) :
    ReadyInReverse (Schedule.advance network schedule curve rest) first second := by
  intro isReady
  rw [sound.queue_advance ready] at isReady ⊢
  by_cases before : first ∈ schedule.queue ∨ second ∈ schedule.queue
  · exact (inReverse before).trans (List.sublist_append_left _ _)
  · -- Both wait for the same curves, so that neither becomes ready without the other.
    have bothWait : first ∈ waitingFor network schedule curve ∧
        second ∈ waitingFor network schedule curve := by
      have alike : first ∈ waitingFor network schedule curve ↔
          second ∈ waitingFor network schedule curve := mem_waitingFor_iff_of_same same
      simp only [List.mem_append, List.mem_reverse] at isReady
      tauto
    have inTurn : [first, second].Sublist (waitingFor network schedule curve) :=
      Network.sublist_filter_curveIds bothWait.1 bothWait.2 earlier
    exact inTurn.reverse.trans (List.sublist_append_right _ _)

theorem ReadyInReverse.run (sound : Sound network schedule) (steps : Nat)
    (inReverse : ReadyInReverse schedule first second) :
    ReadyInReverse (Schedule.run network steps schedule) first second := by
  induction steps generalizing schedule with
  | zero => exact inReverse
  | succ steps ih =>
      rw [Schedule.run]
      split
      · exact inReverse
      · next curve rest ready =>
          exact ih (sound.advance ready) (inReverse.advance same earlier sound ready)

end SameDependencies

/-- Where no curve depends on itself, two curves that depend on the same curves are drawn in the
order in which they are declared if they depend on none, and in the opposite order otherwise. -/
theorem order_of_same_dependencies (network : Network K) (known : network.DependenciesKnown)
    (acyclic : ∀ curve, ¬TransGen network.DependsOn curve curve) :
    ∃ order, Schedule.order network = .ok order ∧ order.Perm network.curveIds ∧
      ∀ first ∈ network.curveIds, ∀ second ∈ network.curveIds, first.index < second.index →
        (∀ dependency,
          network.DependsOn first dependency ↔ network.DependsOn second dependency) →
        ([first, second].Sublist order ↔ network.dependencies first = []) ∧
        ([second, first].Sublist order ↔ network.dependencies first ≠ []) := by
  obtain ⟨order, ordered⟩ := (exists_order_iff known).mpr acyclic
  obtain ⟨perm, -⟩ := order_eq_ok ordered
  refine ⟨order, ordered, perm, ?_⟩
  intro first isFirst second isSecond earlier same
  have inTurn : network.dependencies first = [] → [first, second].Sublist order := by
    intro none
    have alsoNone := (dependencies_eq_nil_iff_of_same same).mp none
    have atStart : [first, second].Sublist (start network).queue :=
      Network.sublist_filter_curveIds (by simpa [none] using isFirst)
        (by simpa [alsoNone] using isSecond) earlier
    exact queue_of_order ordered ▸ atStart.trans ((sound_start network).queue_run _)
  have inReverse : network.dependencies first ≠ [] → [second, first].Sublist order := by
    intro waits
    have last := (readyInReverse_start same waits).run same earlier (sound_start network)
      network.curves.length
    rw [ReadyInReverse, queue_of_order ordered] at last
    exact last (.inl (perm.mem_iff.mpr isFirst))
  have notBoth : [first, second].Sublist order → ¬[second, first].Sublist order :=
    not_sublist_swap (perm.nodup_iff.mpr network.nodup_curveIds)
  tauto

def fan : Network Rat where
  lines := [⟨"red", [("A", ⟨0⟩), ("B", ⟨1⟩)], [⟨⟨0⟩, ⟨1⟩⟩], [⟨0⟩, ⟨1⟩, ⟨2⟩, ⟨3⟩, ⟨4⟩, ⟨5⟩], []⟩]
  lineNames := [("red", ⟨0⟩)]
  stations := [⟨"A", ⟨0⟩, .station, "A", ⟨0, 0⟩⟩, ⟨"B", ⟨0⟩, .station, "B", ⟨9, 9⟩⟩]
  curves := [.sharp ⟨.right, .down⟩, .parallel ⟨0⟩ ⟨.right, .down⟩, .wide ⟨.right, .down⟩,
    .join [⟨4⟩, ⟨1⟩], .parallel ⟨0⟩ ⟨.right, .down⟩, .join [⟨1⟩, ⟨4⟩, ⟨1⟩]].map
      fun shape => ⟨⟨0⟩, ⟨0⟩, ⟨1⟩, shape, 5⟩
  alignments := []
  overlaps := []

theorem order_fan : Schedule.order fan = .ok [⟨0⟩, ⟨2⟩, ⟨4⟩, ⟨1⟩, ⟨5⟩, ⟨3⟩] := by
  rfl

theorem dependenciesKnown_fan : fan.DependenciesKnown := by
  have among : ∀ curve ∈ fan.curveIds, ∀ dependency ∈ fan.dependencies curve,
      dependency ∈ fan.curveIds := by decide
  exact fun curve dependency dependsOn => among curve dependsOn.mem_curveIds dependency dependsOn

theorem acyclic_fan : ∀ curve, ¬TransGen fan.DependsOn curve curve :=
  (exists_order_iff dependenciesKnown_fan).mp ⟨_, order_fan⟩

theorem order_of_same_dependencies_fan :
    fan.DependenciesKnown ∧ (∀ curve, ¬TransGen fan.DependsOn curve curve) ∧
      ∃ order, Schedule.order fan = .ok order ∧ [⟨0⟩, ⟨2⟩].Sublist order ∧
        [⟨4⟩, ⟨1⟩].Sublist order := by
  obtain ⟨order, ordered, -, inOrder⟩ :=
    order_of_same_dependencies fan dependenciesKnown_fan acyclic_fan
  refine ⟨dependenciesKnown_fan, acyclic_fan, order, ordered, ?_, ?_⟩
  · have free := inOrder ⟨0⟩ (by decide) ⟨2⟩ (by decide) (by decide) fun dependency => Iff.rfl
    exact free.1.mpr (by decide)
  · have alike := inOrder ⟨1⟩ (by decide) ⟨4⟩ (by decide) (by decide) fun dependency => Iff.rfl
    exact alike.2.mpr (by decide)

/-- Two curves parallel to the same curve do not keep the order in which they are declared. -/
theorem not_sublist_order_fan :
    fan.DependenciesKnown ∧ (∀ curve, ¬TransGen fan.DependsOn curve curve) ∧
      (⟨1⟩ : CurveId).index < (⟨4⟩ : CurveId).index ∧
      fan.dependencies ⟨1⟩ = fan.dependencies ⟨4⟩ ∧
      ∃ order, Schedule.order fan = .ok order ∧ ¬[⟨1⟩, ⟨4⟩].Sublist order :=
  ⟨dependenciesKnown_fan, acyclic_fan, by decide, rfl, _, order_fan, by decide⟩

end Schedule

end TransitMap
