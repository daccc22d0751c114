import Mathlib.Data.Fintype.Card
import Mathlib.Data.List.Perm.Subperm
import Mathlib.Data.Set.Finite.Basic
import Mathlib.Logic.Relation
import Mathlib.Order.WellFounded
import TransitMap.Drawing.Schedule
import TransitMap.Proofs.Network.Declared

open Relation (ReflTransGen TransGen)

namespace TransitMap

/-- Where every item leads to another one of the list, every item leads to a cycle. -/
theorem exists_transGen_self {R : α → α → Prop} {items : List α}
    (next : ∀ item ∈ items, ∃ other ∈ items, R item other) {first : α} (member : first ∈ items) :
    ∃ looped, ReflTransGen R first looped ∧ TransGen R looped looped := by
  by_contra acyclic
  push Not at acyclic
  let Reached := { item // item ∈ items ∧ ReflTransGen R first item }
  let Behind : Reached → Reached → Prop := fun later earlier => TransGen R earlier.1 later.1
  have finite : Finite Reached :=
    (items.finite_toSet.subset fun item (reached : item ∈ items ∧ _) => reached.1).to_subtype
  have transitive : IsTrans Reached Behind := ⟨fun _ _ _ left right => right.trans left⟩
  have irreflexive : Std.Irrefl Behind := ⟨fun item => acyclic item.1 item.2.2⟩
  obtain ⟨last, -, isLast⟩ := (Finite.wellFounded_of_trans_of_irrefl Behind).has_min Set.univ
    ⟨⟨first, member, .refl⟩, trivial⟩
  obtain ⟨other, isItem, leads⟩ := next last.1 last.2.1
  exact isLast ⟨other, isItem, last.2.2.tail leads⟩ trivial (.single leads)

namespace Network

variable {K : Type} {network : Network K} {curve dependency : CurveId}

/-- The path of `curve` is made from the path of `dependency`. -/
def DependsOn (network : Network K) (curve dependency : CurveId) : Prop :=
  dependency ∈ network.dependencies curve

def DependenciesKnown (network : Network K) : Prop :=
  ∀ curve dependency, network.DependsOn curve dependency → dependency ∈ network.curveIds

/-- The curve depends on itself, or else on a curve that does, directly or through others. -/
def DependsOnCycle (network : Network K) (curve : CurveId) : Prop :=
  ∃ looped, ReflTransGen network.DependsOn curve looped ∧ TransGen network.DependsOn looped looped

theorem dependencies_eq_nil (unknown : curve ∉ network.curveIds) :
    network.dependencies curve = [] := by
  rw [mem_curveIds, not_lt] at unknown
  simp [dependencies, curve?, List.getElem?_eq_none unknown]

theorem DependsOn.mem_curveIds (dependsOn : network.DependsOn curve dependency) :
    curve ∈ network.curveIds := by
  by_contra unknown
  rw [DependsOn, dependencies_eq_nil unknown] at dependsOn
  cases dependsOn

theorem DependsOnCycle.exists_dependsOn (waits : network.DependsOnCycle curve) :
    ∃ dependency, network.DependsOn curve dependency ∧ network.DependsOnCycle dependency := by
  obtain ⟨looped, reached, cycle⟩ := waits
  rcases reached.cases_head with rfl | ⟨dependency, dependsOn, reached⟩
  · obtain ⟨dependency, dependsOn, reached⟩ := TransGen.head'_iff.mp cycle
    exact ⟨dependency, dependsOn, curve, reached, cycle⟩
  · exact ⟨dependency, dependsOn, looped, reached, cycle⟩

private theorem count_flatMap_replicate (times : CurveId → Nat) (curves : List CurveId)
    (nodup : curves.Nodup) (curve : CurveId) :
    (curves.flatMap fun id => List.replicate (times id) id).count curve =
      if curve ∈ curves then times curve else 0 := by
  induction curves with
  | nil => simp
  | cons first rest ih =>
      obtain ⟨absent, nodup⟩ := List.nodup_cons.mp nodup
      rw [List.flatMap_cons, List.count_append, ih nodup, List.count_replicate]
      by_cases same : first = curve
      · subst same
        simp [absent]
      · simp [same, Ne.symm same]

theorem dependents_eq_reverse_flatMap (network : Network K) (dependency : CurveId) :
    network.dependents dependency = (network.curveIds.flatMap fun id =>
      List.replicate ((network.dependencies id).count dependency) id).reverse := by
  simp only [dependents, List.map_const', List.count_eq_length_filter]

theorem count_dependents (network : Network K) (dependency curve : CurveId) :
    (network.dependents dependency).count curve =
      (network.dependencies curve).count dependency := by
  rw [dependents_eq_reverse_flatMap, List.count_reverse,
    count_flatMap_replicate _ _ network.nodup_curveIds]
  split
  · rfl
  · next unknown => rw [dependencies_eq_nil unknown, List.count_nil]

end Network

namespace Schedule

variable {K : Type} {network : Network K} {schedule : Schedule} {curve : CurveId}

theorem waitsFor_release (schedule : Schedule) (released curve : CurveId) :
    (schedule.release released).waitsFor curve =
      schedule.waitsFor curve - if released = curve then 1 else 0 := by
  have sameIndex : released = curve ↔ released.index = curve.index := by
    cases released
    cases curve
    simp
  have pending : (schedule.release released).pending =
      schedule.pending.set released.index (schedule.waitsFor released - 1) := by
    unfold release
    dsimp only
    split <;> rfl
  simp only [waitsFor, pending, List.getD_eq_getElem?_getD, List.getElem?_set, sameIndex]
  by_cases same : released.index = curve.index
  · rw [if_pos same, if_pos same, same]
    split
    · rfl
    · next outside => simp [List.getElem?_eq_none (not_lt.mp outside)]
  · rw [if_neg same, if_neg same, Nat.sub_zero]

theorem count_ready_release (schedule : Schedule) (released curve : CurveId) :
    (schedule.release released).ready.count curve = schedule.ready.count curve +
      if released = curve ∧ schedule.waitsFor curve ≤ 1 then 1 else 0 := by
  unfold release
  dsimp only
  split
  · next last =>
      rw [List.count_append, List.count_singleton]
      by_cases same : released = curve
      · subst same
        simp [Nat.sub_eq_zero_iff_le.mp last]
      · simp [same]
  · next waits =>
      have notLast : ¬(released = curve ∧ schedule.waitsFor curve ≤ 1) := by
        rintro ⟨rfl, last⟩
        exact waits (Nat.sub_eq_zero_iff_le.mpr last)
      rw [if_neg notLast, Nat.add_zero]

@[simp] theorem drawn_foldl_release (released : List CurveId) (schedule : Schedule) :
    (released.foldl release schedule).drawn = schedule.drawn := by
  induction released generalizing schedule with
  | nil => rfl
  | cons first rest ih =>
      rw [List.foldl_cons, ih]
      unfold release
      dsimp only
      split <;> rfl

theorem waitsFor_foldl_release (released : List CurveId) (schedule : Schedule) (curve : CurveId) :
    (released.foldl release schedule).waitsFor curve =
      schedule.waitsFor curve - released.count curve := by
  induction released generalizing schedule with
  | nil => simp
  | cons first rest ih =>
      rw [List.foldl_cons, ih, waitsFor_release, List.count_cons, Nat.sub_sub, Nat.add_comm]
      simp only [beq_iff_eq]

/-- A curve becomes ready once, with the last of the curves that it waited for. -/
theorem count_ready_foldl_release (released : List CurveId) (schedule : Schedule) (curve : CurveId)
    (enough : released.count curve ≤ schedule.waitsFor curve) :
    (released.foldl release schedule).ready.count curve = schedule.ready.count curve +
      if released.count curve ≠ 0 ∧ schedule.waitsFor curve = released.count curve then 1
      else 0 := by
  induction released generalizing schedule with
  | nil => simp
  | cons first rest ih =>
      have step := waitsFor_release schedule first curve
      rw [List.count_cons] at enough ⊢
      simp only [beq_iff_eq] at enough ⊢
      rw [List.foldl_cons, ih _ (by omega), count_ready_release, step]
      by_cases same : first = curve
      · simp only [same, if_true, true_and] at enough ⊢
        split <;> split <;> split <;> omega
      · simp [same]

/-- Each curve of the list comes before the curves it depends on; the last one drawn is first. -/
def Ordered (network : Network K) : List CurveId → Prop
  | [] => True
  | curve :: earlier =>
      (∀ dependency, network.DependsOn curve dependency → dependency ∈ earlier) ∧
      Ordered network earlier

/-- Curves wait for those of their dependencies that are not drawn, counted as often as they are
given, and the curves that wait for none are drawn or ready, once. -/
structure Sound (network : Network K) (schedule : Schedule) : Prop where
  waits : ∀ curve ∈ network.curveIds, schedule.waitsFor curve =
    (network.dependencies curve).countP fun dependency => dependency ∉ schedule.drawn
  listed : ∀ curve ∈ network.curveIds, (schedule.drawn ++ schedule.ready).count curve =
    if schedule.waitsFor curve = 0 then 1 else 0
  known : ∀ curve ∈ schedule.drawn ++ schedule.ready, curve ∈ network.curveIds
  ordered : Ordered network schedule.drawn

theorem sound_start (network : Network K) : Sound network (start network) where
  waits curve known := by
    obtain ⟨index⟩ := curve
    rw [Network.mem_curveIds] at known
    simp [start, waitsFor, Network.curveIds, known]
  listed curve known := by
    have once := network.nodup_curveIds.count (a := curve)
    have bound := Network.mem_curveIds.mp known
    obtain ⟨index⟩ := curve
    rw [if_pos known] at once
    have waits : (start network).waitsFor ⟨index⟩ = (network.dependencies ⟨index⟩).length := by
      simp [start, waitsFor, Network.curveIds, bound]
    rw [waits, start, List.nil_append]
    by_cases independent : network.dependencies ⟨index⟩ = []
    · rw [List.count_filter (by simp [independent]), once, independent]
      rfl
    · rw [List.count_eq_zero.mpr (by simp [independent]), if_neg (by simpa using independent)]
  known curve member := by
    rw [start, List.nil_append] at member
    exact List.mem_of_mem_filter member
  ordered := trivial

theorem Sound.nodup (sound : Sound network schedule) : (schedule.drawn ++ schedule.ready).Nodup := by
  rw [List.nodup_iff_count_le_one]
  intro curve
  by_cases known : curve ∈ network.curveIds
  · rw [sound.listed curve known]
    split <;> omega
  · rw [List.count_eq_zero.mpr fun member => known (sound.known curve member)]
    exact Nat.zero_le 1

private theorem countP_notMem_cons {drawn dependencies : List CurveId} (absent : curve ∉ drawn) :
    dependencies.countP (fun dependency => dependency ∉ curve :: drawn) + dependencies.count curve =
      dependencies.countP fun dependency => dependency ∉ drawn := by
  induction dependencies with
  | nil => rfl
  | cons dependency rest ih =>
      rw [List.countP_cons, List.countP_cons, List.count_cons, ← ih]
      by_cases same : dependency = curve
      · subst same
        simp [absent]
        omega
      · simp [same]
        omega

def advance (network : Network K) (schedule : Schedule) (curve : CurveId) (rest : List CurveId) :
    Schedule :=
  (network.dependents curve).foldl release
    { schedule with drawn := curve :: schedule.drawn, ready := rest }

section Advance

variable {rest : List CurveId} {other : CurveId}

theorem drawn_advance (network : Network K) (schedule : Schedule) (curve : CurveId)
    (rest : List CurveId) :
    (advance network schedule curve rest).drawn = curve :: schedule.drawn :=
  drawn_foldl_release _ _

theorem waitsFor_advance :
    (advance network schedule curve rest).waitsFor other =
      schedule.waitsFor other - (network.dependencies other).count curve := by
  rw [advance, waitsFor_foldl_release, network.count_dependents]
  rfl

theorem count_ready_advance
    (enough : (network.dependencies other).count curve ≤ schedule.waitsFor other) :
    (advance network schedule curve rest).ready.count other =
      rest.count other + if (network.dependencies other).count curve ≠ 0 ∧
        schedule.waitsFor other = (network.dependencies other).count curve then 1 else 0 := by
  rw [← network.count_dependents] at enough ⊢
  exact count_ready_foldl_release _ _ other enough

variable (sound : Sound network schedule) (ready : schedule.ready = curve :: rest)

include sound ready

theorem Sound.waitsFor_eq_add (known : other ∈ network.curveIds) :
    schedule.waitsFor other =
      (network.dependencies other).countP (fun dependency => dependency ∉ curve :: schedule.drawn) +
        (network.dependencies other).count curve := by
  have nodup := sound.nodup
  rw [ready] at nodup
  have absent : curve ∉ schedule.drawn := fun member =>
    List.disjoint_of_nodup_append nodup member List.mem_cons_self
  rw [sound.waits other known, countP_notMem_cons absent]

theorem Sound.count_le_waitsFor (other : CurveId) :
    (network.dependencies other).count curve ≤ schedule.waitsFor other := by
  by_cases known : other ∈ network.curveIds
  · have waits := sound.waitsFor_eq_add ready known
    omega
  · rw [Network.dependencies_eq_nil known]
    exact Nat.zero_le _

theorem Sound.drawn_of_dependsOn {dependency : CurveId}
    (dependsOn : network.DependsOn curve dependency) : dependency ∈ schedule.drawn := by
  have isCurve : curve ∈ network.curveIds := sound.known curve (by simp [ready])
  -- A ready curve waits for none.
  have waitsForNone : schedule.waitsFor curve = 0 := by
    have counted := sound.listed curve isCurve
    by_contra waits
    rw [if_neg waits, ready] at counted
    simp at counted
  rw [sound.waits curve isCurve, List.countP_eq_zero] at waitsForNone
  simpa using waitsForNone dependency dependsOn

theorem Sound.advance : Sound network (advance network schedule curve rest) where
  waits other known := by
    rw [waitsFor_advance, drawn_advance, sound.waitsFor_eq_add ready known, Nat.add_sub_cancel]
  listed other known := by
    have least := sound.count_le_waitsFor ready other
    have before := sound.listed other known
    rw [ready, List.count_append, List.count_cons] at before
    rw [List.count_append, drawn_advance, count_ready_advance least, waitsFor_advance,
      List.count_cons]
    grind
  known other member := by
    rw [drawn_advance, List.mem_append] at member
    rcases member with isDrawn | isReady
    · rcases List.mem_cons.mp isDrawn with rfl | before
      · exact sound.known other (by simp [ready])
      · exact sound.known other (List.mem_append_left _ before)
    · -- Only the dependents of a curve become ready, and what is no curve is none of them.
      by_contra unknown
      have notReady : other ∉ rest := fun before =>
        unknown (sound.known other (by simp [ready, before]))
      have counted : (Schedule.advance network schedule curve rest).ready.count other = _ :=
        count_ready_advance (sound.count_le_waitsFor ready other)
      rw [Network.dependencies_eq_nil unknown, List.count_nil,
        List.count_eq_zero.mpr notReady] at counted
      exact (List.count_pos_iff.mpr isReady).ne' (by simpa using counted)
  ordered := by
    rw [drawn_advance]
    exact ⟨fun _ dependsOn => sound.drawn_of_dependsOn ready dependsOn, sound.ordered⟩

end Advance

theorem Sound.run (sound : Sound network schedule) (steps : Nat) :
    Sound network (run network steps schedule) ∧
      ((run network steps schedule).ready = [] ∨
        (run network steps schedule).drawn.length = schedule.drawn.length + steps) := by
  induction steps generalizing schedule with
  | zero => exact ⟨sound, .inr rfl⟩
  | succ steps ih =>
      rw [Schedule.run]
      split
      · next ready => exact ⟨sound, .inl ready⟩
      · next curve rest ready =>
          obtain ⟨last, complete⟩ := ih (sound.advance ready)
          refine ⟨last, complete.imp_right fun length => ?_⟩
          rw [drawn_advance, List.length_cons] at length
          rw [Nat.add_comm steps, ← Nat.add_assoc]
          exact length

theorem Ordered.not_dependsOnCycle {drawn : List CurveId} (ordered : Ordered network drawn) :
    ∀ curve ∈ drawn, ¬network.DependsOnCycle curve := by
  induction drawn with
  | nil => simp
  | cons first earlier ih =>
      have apart := ih ordered.2
      intro curve member waits
      rcases List.mem_cons.mp member with rfl | before
      · obtain ⟨dependency, dependsOn, stillWaits⟩ := waits.exists_dependsOn
        exact apart dependency (ordered.1 dependency dependsOn) stillWaits
      · exact apart curve before waits

theorem Ordered.append_right {newer older : List CurveId}
    (ordered : Ordered network (newer ++ older)) : Ordered network older := by
  induction newer with
  | nil => exact ordered
  | cons _ _ ih => exact ih ordered.2

theorem Ordered.mem_of_reverse_eq {drawn before behind : List CurveId}
    (ordered : Ordered network drawn) (split : drawn.reverse = before ++ curve :: behind) :
    ∀ dependency, network.DependsOn curve dependency → dependency ∈ before := by
  obtain rfl : drawn = behind.reverse ++ curve :: before.reverse := by
    rw [← drawn.reverse_reverse, split]
    simp
  intro dependency dependsOn
  exact List.mem_reverse.mp (ordered.append_right.1 dependency dependsOn)

theorem order_eq_ok {order : List CurveId} (ordered : Schedule.order network = .ok order) :
    order.Perm network.curveIds ∧ ∃ drawn, Ordered network drawn ∧ order = drawn.reverse := by
  obtain ⟨sound, -⟩ := (sound_start network).run network.curves.length
  unfold Schedule.order at ordered
  dsimp only at ordered
  split at ordered
  · cases ordered
  · next complete =>
      obtain rfl := Except.ok.inj ordered
      have nodup := (List.nodup_append.mp sound.nodup).1
      have known := fun curve member => sound.known curve (List.mem_append_left _ member)
      have perm := (List.subperm_of_subset nodup known).perm_of_length_le (by simpa using complete)
      exact ⟨(List.reverse_perm _).trans perm, _, sound.ordered, rfl⟩

section Stuck

variable (sound : Sound network schedule) (noneReady : schedule.ready = [])

include sound noneReady

theorem Sound.waitsFor_ne_zero_iff (isCurve : curve ∈ network.curveIds) :
    schedule.waitsFor curve ≠ 0 ↔ curve ∉ schedule.drawn := by
  have counted := sound.listed curve isCurve
  rw [noneReady, List.append_nil] at counted
  rw [← List.count_eq_zero, counted]
  split <;> simp_all

theorem Sound.exists_waiting (known : network.DependenciesKnown) :
    ∀ curve ∈ network.curveIds.filter fun curve => schedule.waitsFor curve != 0,
      ∃ other ∈ network.curveIds.filter (fun curve => schedule.waitsFor curve != 0),
        network.DependsOn curve other := by
  intro curve member
  obtain ⟨isCurve, waits⟩ := List.mem_filter.mp member
  rw [bne_iff_ne, sound.waits curve isCurve, ← Nat.pos_iff_ne_zero, List.countP_pos_iff] at waits
  obtain ⟨other, dependsOn, notDrawn⟩ := waits
  have isOther := known curve other dependsOn
  have otherWaits := (sound.waitsFor_ne_zero_iff noneReady isOther).mpr (by simpa using notDrawn)
  exact ⟨other, List.mem_filter.mpr ⟨isOther, bne_iff_ne.mpr otherWaits⟩, dependsOn⟩

theorem Sound.mem_waiting_iff (known : network.DependenciesKnown) :
    curve ∈ network.curveIds.filter (fun curve => schedule.waitsFor curve != 0) ↔
      network.DependsOnCycle curve := by
  constructor
  · exact exists_transGen_self (sound.exists_waiting noneReady known)
  · intro waits
    obtain ⟨dependency, dependsOn, -⟩ := waits.exists_dependsOn
    have isCurve := dependsOn.mem_curveIds
    refine List.mem_filter.mpr ⟨isCurve, bne_iff_ne.mpr ?_⟩
    exact (sound.waitsFor_ne_zero_iff noneReady isCurve).mpr fun isDrawn =>
      sound.ordered.not_dependsOnCycle curve isDrawn waits

end Stuck

theorem order_eq_error (known : network.DependenciesKnown) {curves : List CurveId}
    (failed : Schedule.order network = .error curves) :
    curves ≠ [] ∧ curves.Sublist network.curveIds ∧
      ∀ curve, curve ∈ curves ↔ network.DependsOnCycle curve := by
  obtain ⟨sound, complete⟩ := (sound_start network).run network.curves.length
  unfold Schedule.order at failed
  dsimp only at failed
  generalize run network network.curves.length (start network) = last at sound complete failed
  split at failed
  · next few =>
      obtain rfl := Except.error.inj failed
      have noneReady : last.ready = [] := complete.resolve_right fun length => by
        rw [length] at few
        simp [start] at few
      refine ⟨fun none => ?_, List.filter_sublist, fun curve =>
        sound.mem_waiting_iff noneReady known⟩
      -- If none waited, all curves would be drawn, but some are missing.
      have allDrawn : network.curveIds ⊆ last.drawn := by
        intro curve isCurve
        by_contra notDrawn
        have waits := (sound.waitsFor_ne_zero_iff noneReady isCurve).mpr notDrawn
        exact List.filter_eq_nil_iff.mp none curve isCurve (bne_iff_ne.mpr waits)
      have bound := (List.subperm_of_subset network.nodup_curveIds allDrawn).length_le
      rw [Network.length_curveIds] at bound
      omega
  · cases failed

theorem exists_order_iff (known : network.DependenciesKnown) :
    (∃ order, Schedule.order network = .ok order) ↔
      ∀ curve, ¬TransGen network.DependsOn curve curve := by
  constructor
  · rintro ⟨order, ordered⟩ curve cycle
    obtain ⟨perm, drawn, sound, rfl⟩ := order_eq_ok ordered
    obtain ⟨dependency, dependsOn, -⟩ := TransGen.head'_iff.mp cycle
    have isDrawn := List.mem_reverse.mp (perm.mem_iff.mpr dependsOn.mem_curveIds)
    exact sound.not_dependsOnCycle curve isDrawn ⟨curve, .refl, cycle⟩
  · intro acyclic
    cases ordered : Schedule.order network with
    | ok order => exact ⟨order, rfl⟩
    | error curves =>
        obtain ⟨nonempty, -, stuck⟩ := order_eq_error known ordered
        obtain ⟨curve, member⟩ := List.exists_mem_of_ne_nil curves nonempty
        obtain ⟨looped, -, cycle⟩ := (stuck curve).mp member
        exact absurd cycle (acyclic looped)

end Schedule

end TransitMap
