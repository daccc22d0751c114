import TransitMap.Layout.Basic
import TransitMap.Proofs.Layout.Search

/-!
Layers of lines. A line lies one layer above the longest chain of overlaps under it; there are
layers unless some line lies on a cycle of overlaps, and then such a line is named.
-/

open Relation (ReflTransGen TransGen)

namespace TransitMap.Stacking

variable {overlaps : List Overlap} {lines order : List LineId}

/-- Each line of the list comes behind all lines under it; the marked ones come first. -/
def Ordered (overlaps : List Overlap) : List LineId → List LineId → Prop
  | _, [] => True
  | marked, line :: rest =>
      (∀ lower, Covers overlaps line lower → lower ∈ marked) ∧
      Ordered overlaps (line :: marked) rest

theorem ordered_of_misplaced?_eq_none {marked : List LineId}
    (apart : ∀ line ∈ order, ¬Covers overlaps line line)
    (placed : misplaced? overlaps marked order = none) : Ordered overlaps marked order := by
  induction order generalizing marked with
  | nil => trivial
  | cons line rest ih =>
      rw [misplaced?] at placed
      split at placed
      · cases placed
      · next found =>
          refine ⟨?_, ih (fun other member => apart other (List.mem_cons_of_mem _ member)) placed⟩
          intro lower covers
          have allMarked := List.find?_eq_none.mp found lower (mem_below.mpr covers)
          simp only [Bool.not_eq_true, Bool.not_eq_false', List.contains_iff_mem,
            List.mem_cons] at allMarked
          rcases allMarked with rfl | isMarked
          · exact absurd covers (apart lower List.mem_cons_self)
          · exact isMarked

theorem exists_of_misplaced?_eq_some {marked : List LineId} {lower : LineId}
    (found : misplaced? overlaps marked order = some lower) :
    ∃ before line behind, order = before ++ line :: behind ∧ Covers overlaps line lower ∧
      lower ∉ before ++ line :: marked := by
  induction order generalizing marked with
  | nil => cases found
  | cons line rest ih =>
      rw [misplaced?] at found
      split at found
      · next other first =>
          obtain rfl := Option.some.inj found
          have unmarked := List.find?_some first
          simp only [Bool.not_eq_true', ← Bool.not_eq_true, List.contains_iff_mem] at unmarked
          exact ⟨[], line, rest, rfl, mem_below.mp (List.mem_of_find?_eq_some first), unmarked⟩
      · obtain ⟨before, upper, behind, rfl, covers, absent⟩ := ih found
        refine ⟨line :: before, upper, behind, rfl, covers, ?_⟩
        simp only [List.mem_append, List.mem_cons, not_or, List.cons_append] at absent ⊢
        exact ⟨absent.2.2.1, absent.1, absent.2.1, absent.2.2.2⟩

theorem sound_of_search (among : Among overlaps lines) {search : Search}
    (searched : lines.foldlM (Search.visit overlaps lines.length) .empty = .ok search) :
    Search.Sound overlaps lines search ∧ ∀ line ∈ lines, line ∈ search.finished := by
  obtain ⟨sound, seen, extended⟩ :=
    (Search.visits among lines.length).foldlM Search.sound_empty (fun _ member => member)
      (Nat.le_add_right _ _) (fun _ _ _ isOpen => absurd isOpen.1 List.not_mem_nil) searched
  refine ⟨sound, fun line member => ?_⟩
  by_contra unfinished
  have isOpen : Search.empty.Open line :=
    (extended.stillOpen line).mp ⟨seen line member, unfinished⟩
  exact List.not_mem_nil isOpen.1

theorem order_eq_ok (among : Among overlaps lines) (ordered : Stacking.order overlaps lines = .ok order) :
    order.Nodup ∧ (∀ line, line ∈ order ↔ line ∈ lines) ∧ Ordered overlaps [] order := by
  simp only [Stacking.order, Outcome.bind_eq_ok] at ordered
  obtain ⟨search, searched, ordered⟩ := ordered
  obtain ⟨sound, finished⟩ := sound_of_search among searched
  split at ordered
  · cases ordered
  · next placed =>
      obtain rfl := Except.ok.inj ordered
      exact ⟨sound.finished_nodup,
        fun line => ⟨fun member => sound.seen_known line (sound.seen_of_finished line member),
          finished line⟩,
        ordered_of_misplaced?_eq_none sound.finished_apart placed⟩

/-- A line that is named instead of an order lies on a cycle. -/
theorem cycle_of_order_eq_error (among : Among overlaps lines) {line : LineId}
    (failed : Stacking.order overlaps lines = .error line) :
    line ∈ lines ∧ TransGen (Covers overlaps) line line := by
  simp only [Stacking.order, Outcome.bind_eq_error] at failed
  rcases failed with failed | ⟨search, searched, failed⟩
  · have covers := Search.covers_of_foldlM_eq_error failed
    exact ⟨among.upper covers, .single covers⟩
  · obtain ⟨sound, finished⟩ := sound_of_search among searched
    split at failed
    · next lower found =>
        obtain rfl := Except.error.inj failed
        obtain ⟨before, upper, behind, split, covers, absent⟩ :=
          exists_of_misplaced?_eq_some found
        have known := among.lower covers
        have placed := finished lower known
        rw [split] at placed
        -- The search was done with `lower` before `upper`, but `upper` lies above it.
        have later : lower ∈ behind := by
          simp only [List.mem_append, List.mem_cons, not_or] at absent placed
          exact (placed.resolve_left absent.1).resolve_left absent.2.1
        obtain ⟨middle, last, rfl⟩ := List.append_of_mem later
        have nodup := sound.finished_nodup
        have backed := sound.backed
        rw [split] at nodup backed
        have upperAbsent : upper ∉ last := by
          intro member
          have tail := (List.nodup_append.mp nodup).2.1
          exact (List.nodup_cons.mp tail).1
            (List.mem_append_right _ (List.mem_cons_of_mem _ member))
        rw [List.append_cons, ← List.append_assoc] at backed
        have reached := (backed.append_right.1 upper covers).resolve_left upperAbsent
        exact ⟨known, .tail' reached covers⟩
    · cases failed

def layerIn (layers : List Nat) (line : LineId) : Nat := layers.getD line.index 0

private theorem foldl_highest (value : LineId → Nat) (lowers : List LineId) (start : Nat) :
    let highest := lowers.foldl (fun highest lower => max highest (value lower + 1)) start
    start ≤ highest ∧ (∀ lower ∈ lowers, value lower < highest) ∧
      (highest = start ∨ ∃ lower ∈ lowers, highest = value lower + 1) := by
  induction lowers generalizing start with
  | nil => simp
  | cons lower rest ih =>
      obtain ⟨bound, above, reached⟩ := ih (max start (value lower + 1))
      simp only [List.foldl_cons, List.mem_cons, forall_eq_or_imp, exists_eq_or_imp]
      refine ⟨by omega, ⟨by omega, above⟩, ?_⟩
      rcases reached with reached | reached
      · rw [reached]
        omega
      · exact .inr (.inr reached)

structure Fits (overlaps : List Overlap) (value : LineId → Nat) (line : LineId) : Prop where
  pos : 1 ≤ value line
  above : ∀ lower, Covers overlaps line lower → value lower < value line
  tight : value line = 1 ∨ ∃ lower, Covers overlaps line lower ∧ value line = value lower + 1

theorem fits_layer {layers : List Nat} {line : LineId}
    (equation : layerIn layers line = layer overlaps layers line) :
    Fits overlaps (layerIn layers) line := by
  obtain ⟨bound, above, reached⟩ := foldl_highest (layerIn layers) (below overlaps line) 1
  have highest : layerIn layers line = (below overlaps line).foldl
      (fun highest lower => max highest (layerIn layers lower + 1)) 1 := equation
  rw [← highest] at bound above reached
  exact ⟨bound, fun lower covers => above lower (mem_below.mpr covers), by simpa using reached⟩

private theorem layer_congr {first second : List Nat} {line : LineId}
    (same : ∀ lower, Covers overlaps line lower → layerIn first lower = layerIn second lower) :
    layer overlaps first line = layer overlaps second line := by
  apply List.foldl_ext
  intro highest lower member
  exact congrArg (fun value => max highest (value + 1)) (same lower (mem_below.mp member))

private theorem layerIn_set_ne {layers : List Nat} {line other : LineId} (apart : other ≠ line)
    (value : Nat) : layerIn (layers.set line.index value) other = layerIn layers other := by
  have apart : line.index ≠ other.index := fun same => apart (by cases line; cases other; simp_all)
  simp [layerIn, List.getD_eq_getElem?_getD, List.getElem?_set_ne apart]

theorem length_stackUp (layers : List Nat) :
    (stackUp overlaps order layers).length = layers.length := by
  induction order generalizing layers with
  | nil => rfl
  | cons line rest ih => exact (ih _).trans (List.length_set ..)

theorem layerIn_stackUp_of_notMem {layers : List Nat} {line : LineId} (absent : line ∉ order) :
    layerIn (stackUp overlaps order layers) line = layerIn layers line := by
  induction order generalizing layers with
  | nil => rfl
  | cons first rest ih =>
      rw [List.mem_cons, not_or] at absent
      exact (ih absent.2).trans (layerIn_set_ne absent.1 _)

/-- Once a line and all lines under it have their layers, these stay as they are. -/
theorem layerIn_stackUp {marked : List LineId} {layers : List Nat} (nodup : order.Nodup)
    (disjoint : ∀ line ∈ marked, line ∉ order) (ordered : Ordered overlaps marked order)
    (placed : ∀ line ∈ order, line.index < layers.length) {line : LineId} (member : line ∈ order) :
    layerIn (stackUp overlaps order layers) line =
      layer overlaps (stackUp overlaps order layers) line := by
  induction order generalizing marked layers with
  | nil => cases member
  | cons first rest ih =>
      obtain ⟨absent, nodup⟩ := List.nodup_cons.mp nodup
      rcases List.mem_cons.mp member with rfl | later
      · calc layerIn (stackUp overlaps (line :: rest) layers) line
            = layerIn (layers.set line.index (layer overlaps layers line)) line :=
              layerIn_stackUp_of_notMem absent
          _ = layer overlaps layers line := by
              simp [layerIn, List.getD_eq_getElem?_getD, placed line List.mem_cons_self]
          _ = layer overlaps (stackUp overlaps (line :: rest) layers) line :=
              layer_congr fun lower covers =>
                (layerIn_stackUp_of_notMem (disjoint lower (ordered.1 lower covers))).symm
      · refine ih nodup ?_ ordered.2 ?_ later
        · intro other marked isRest
          rcases List.mem_cons.mp marked with rfl | older
          · exact absent isRest
          · exact disjoint other older (List.mem_cons_of_mem _ isRest)
        · intro other isRest
          rw [List.length_set]
          exact placed other (List.mem_cons_of_mem _ isRest)

theorem layers_eq_ok (among : Among overlaps lines) {layers : List Nat}
    (bounded : ∀ line ∈ lines, line.index < lines.length)
    (stacked : Stacking.layers overlaps lines = .ok layers) :
    layers.length = lines.length ∧ ∀ line ∈ lines, Fits overlaps (layerIn layers) line := by
  simp only [Stacking.layers, Outcome.bind_eq_ok, Except.ok.injEq] at stacked
  obtain ⟨order, ordered, rfl⟩ := stacked
  obtain ⟨nodup, mem, ordered⟩ := order_eq_ok among ordered
  refine ⟨(length_stackUp _).trans List.length_replicate, fun line member => fits_layer ?_⟩
  apply layerIn_stackUp nodup (by simp) ordered ?_ ((mem line).mpr member)
  intro other isOrdered
  rw [List.length_replicate]
  exact bounded other ((mem other).mp isOrdered)

theorem cycle_of_layers_eq_error (among : Among overlaps lines) {line : LineId}
    (failed : Stacking.layers overlaps lines = .error line) :
    line ∈ lines ∧ TransGen (Covers overlaps) line line := by
  simp only [Stacking.layers, Outcome.bind_eq_error, reduceCtorEq, and_false, exists_false,
    or_false] at failed
  exact cycle_of_order_eq_error among failed

/-- The longest chain of overlaps under a line has this many of them. -/
structure LongestChain (overlaps : List Overlap) (line : LineId) (length : Nat) : Prop where
  exists_chain : ∃ lowers, List.IsChain (Covers overlaps) (line :: lowers) ∧ lowers.length = length
  length_le : ∀ lowers, List.IsChain (Covers overlaps) (line :: lowers) → lowers.length ≤ length

theorem LongestChain.unique {line : LineId} {first second : Nat}
    (left : LongestChain overlaps line first) (right : LongestChain overlaps line second) :
    first = second := by
  obtain ⟨lowers, chain, rfl⟩ := left.exists_chain
  obtain ⟨others, chain', rfl⟩ := right.exists_chain
  exact Nat.le_antisymm (right.length_le lowers chain) (left.length_le others chain')

theorem length_lt_of_isChain (among : Among overlaps lines) {value : LineId → Nat}
    (pos : ∀ line ∈ lines, 1 ≤ value line)
    (grows : ∀ upper lower, Covers overlaps upper lower → value lower < value upper)
    {line : LineId} {lowers : List LineId} (member : line ∈ lines)
    (chain : List.IsChain (Covers overlaps) (line :: lowers)) : lowers.length < value line := by
  induction lowers generalizing line with
  | nil => exact pos line member
  | cons lower rest ih =>
      obtain ⟨covers, chain⟩ := List.isChain_cons_cons.mp chain
      exact Nat.lt_of_le_of_lt (ih (among.lower covers) chain) (grows line lower covers)

/-- Under a line there is a chain as long as its layer allows. -/
theorem exists_isChain (among : Among overlaps lines) {value : LineId → Nat}
    (fits : ∀ line ∈ lines, Fits overlaps value line) {line : LineId} (member : line ∈ lines) :
    ∃ lowers, List.IsChain (Covers overlaps) (line :: lowers) ∧ lowers.length + 1 = value line := by
  induction height : value line using Nat.strongRecOn generalizing line with
  | _ height ih =>
      subst height
      rcases (fits line member).tight with lowest | ⟨lower, covers, next⟩
      · exact ⟨[], List.IsChain.singleton _, lowest.symm⟩
      · obtain ⟨lowers, chain, length⟩ :=
          ih (value lower) (by omega) (among.lower covers) rfl
        exact ⟨lower :: lowers, List.isChain_cons_cons.mpr ⟨covers, chain⟩, by
          rw [List.length_cons, length, next]⟩

theorem longestChain_of_fits (among : Among overlaps lines) {value : LineId → Nat}
    (fits : ∀ line ∈ lines, Fits overlaps value line) {line : LineId} (member : line ∈ lines) :
    LongestChain overlaps line (value line - 1) := by
  obtain ⟨lowers, chain, length⟩ := exists_isChain among fits member
  refine ⟨⟨lowers, chain, by omega⟩, fun others otherChain => ?_⟩
  have grows : ∀ upper lower, Covers overlaps upper lower → value lower < value upper :=
    fun upper lower covers => (fits upper (among.upper covers)).above lower covers
  have bound := length_lt_of_isChain among (fun line member => (fits line member).pos) grows
    member otherChain
  omega

theorem not_transGen_of_fits (among : Among overlaps lines) {value : LineId → Nat}
    (fits : ∀ line ∈ lines, Fits overlaps value line) (line : LineId) :
    ¬TransGen (Covers overlaps) line line := by
  intro cycle
  have falls : ∀ {upper lower}, TransGen (Covers overlaps) upper lower →
      value lower < value upper := by
    intro upper lower reached
    induction reached with
    | single covers => exact (fits upper (among.upper covers)).above _ covers
    | tail _ covers ih =>
        exact Nat.lt_trans ((fits _ (among.upper covers)).above _ covers) ih
  exact Nat.lt_irrefl _ (falls cycle)

end TransitMap.Stacking

namespace TransitMap

open Stacking

variable {K : Type}

@[simp] theorem Network.mem_lineIds {network : Network K} {line : LineId} :
    line ∈ network.lineIds ↔ line.index < network.lines.length := by
  obtain ⟨index⟩ := line
  simp [lineIds]

@[simp] theorem Network.length_lineIds (network : Network K) :
    network.lineIds.length = network.lines.length := by
  simp [lineIds]

namespace Layout

variable {network : Network K} {layers : List Nat}

theorem layers_of_stack_eq_ok (among : Among network.overlaps network.lineIds)
    (stacked : stack network = .ok layers) :
    layers.length = network.lines.length ∧
      ∀ line ∈ network.lineIds, Fits network.overlaps (layerIn layers) line := by
  rw [stack, Outcome.mapError_eq_ok] at stacked
  simpa using layers_eq_ok among (by simp) stacked

theorem cycle_of_stack_eq_error (among : Among network.overlaps network.lineIds)
    {fault : LayoutFault K} (failed : stack network = .error fault) :
    ∃ line ∈ network.lineIds, fault = .cyclicOverlap (network.lineName line) ∧
      TransGen (Covers network.overlaps) line line := by
  rw [stack, Outcome.mapError_eq_error] at failed
  obtain ⟨line, failed, rfl⟩ := failed
  obtain ⟨known, cycle⟩ := cycle_of_layers_eq_error among failed
  exact ⟨line, known, rfl, cycle⟩

theorem stack_eq_ok_iff (among : Among network.overlaps network.lineIds) :
    (∃ layers, stack network = .ok layers) ↔
      ∀ line, ¬TransGen (Covers network.overlaps) line line := by
  constructor
  · rintro ⟨layers, stacked⟩ line
    exact not_transGen_of_fits among (layers_of_stack_eq_ok among stacked).2 line
  · intro acyclic
    cases stacked : stack network with
    | ok layers => exact ⟨layers, rfl⟩
    | error fault =>
        obtain ⟨line, -, -, cycle⟩ := cycle_of_stack_eq_error among stacked
        exact absurd cycle (acyclic line)

/-- The layers of a network are one more than the longest chains of overlaps under its lines. -/
theorem longestChain_of_stack_eq_ok (among : Among network.overlaps network.lineIds)
    (stacked : stack network = .ok layers) {line : LineId} {layer : Nat}
    (found : layers[line.index]? = some layer) :
    line ∈ network.lineIds ∧ layerIn layers line = layer ∧ 1 ≤ layer ∧
      LongestChain network.overlaps line (layer - 1) := by
  obtain ⟨length, fits⟩ := layers_of_stack_eq_ok among stacked
  have known : line ∈ network.lineIds := by
    rw [Network.mem_lineIds, ← length]
    exact (List.getElem?_eq_some_iff.mp found).1
  have value : layerIn layers line = layer := by
    rw [layerIn, List.getD_eq_getElem?_getD, found, Option.getD_some]
  have longest := longestChain_of_fits among fits known
  rw [value] at longest
  exact ⟨known, value, value ▸ (fits line known).pos, longest⟩

/-- Networks with as many lines and the same overlaps, in whatever order and number, have the same
layers. -/
theorem stack_congr {other : Network K} (among : Among network.overlaps network.lineIds)
    (size : other.lines.length = network.lines.length)
    (same : ∀ upper lower, Covers other.overlaps upper lower ↔ Covers network.overlaps upper lower)
    (stacked : stack network = .ok layers) : stack other = .ok layers := by
  have sameRelation : Covers other.overlaps = Covers network.overlaps :=
    funext fun upper => funext fun lower => propext (same upper lower)
  have otherAmong : Among other.overlaps other.lineIds := by
    intro overlap member
    have covers : Covers network.overlaps overlap.above overlap.below :=
      (same _ _).mp ⟨overlap, member, rfl, rfl⟩
    have known := And.intro (among.upper covers) (among.lower covers)
    simpa [size] using known
  have acyclic := (stack_eq_ok_iff among).mp ⟨layers, stacked⟩
  rw [← sameRelation] at acyclic
  obtain ⟨otherLayers, otherStacked⟩ := (stack_eq_ok_iff otherAmong).mpr acyclic
  have length := (layers_of_stack_eq_ok among stacked).1
  have otherLength := (layers_of_stack_eq_ok otherAmong otherStacked).1
  have equal : otherLayers = layers := by
    apply List.ext_getElem (by omega)
    intro index inOther inLayers
    have found : layers[(⟨index⟩ : LineId).index]? = some layers[index] :=
      List.getElem?_eq_getElem inLayers
    have otherFound : otherLayers[(⟨index⟩ : LineId).index]? = some otherLayers[index] :=
      List.getElem?_eq_getElem inOther
    obtain ⟨-, -, pos, longest⟩ := longestChain_of_stack_eq_ok among stacked found
    obtain ⟨-, -, otherPos, otherLongest⟩ :=
      longestChain_of_stack_eq_ok otherAmong otherStacked otherFound
    obtain ⟨⟨lowers, chain, size⟩, bound⟩ := otherLongest
    rw [sameRelation] at chain bound
    have heights := LongestChain.unique ⟨⟨lowers, chain, size⟩, bound⟩ longest
    omega
  rw [otherStacked, equal]

/-- Stacking succeeds unless a line has to be drawn on top of itself, and then each line lies as low
as the lines under it allow: one layer above the longest chain of overlaps. Otherwise a line of a
cycle is named. -/
theorem stack_is_least (network : Network K) (among : Among network.overlaps network.lineIds) :
    ((∃ layers, stack network = .ok layers) ↔
      ∀ line, ¬TransGen (Covers network.overlaps) line line) ∧
    (∀ layers, stack network = .ok layers →
      layers.length = network.lines.length ∧
      (∀ (line : LineId) (layer : Nat), layers[line.index]? = some layer →
        (∃ height, LongestChain network.overlaps line height ∧ layer = height + 1) ∧
        1 ≤ layer ∧
        (∀ (lower : LineId) (lowerLayer : Nat), Covers network.overlaps line lower →
          layers[lower.index]? = some lowerLayer → lowerLayer < layer) ∧
        ∀ value : LineId → Nat, (∀ line, 1 ≤ value line) →
          (∀ upper lower, Covers network.overlaps upper lower → value lower < value upper) →
          layer ≤ value line) ∧
      ∀ other : Network K, other.lines.length = network.lines.length →
        (∀ upper lower,
          Covers other.overlaps upper lower ↔ Covers network.overlaps upper lower) →
        stack other = .ok layers) ∧
    (∀ fault, stack network = .error fault →
      ∃ line ∈ network.lineIds, fault = .cyclicOverlap (network.lineName line) ∧
        TransGen (Covers network.overlaps) line line) := by
  refine ⟨stack_eq_ok_iff among, fun layers stacked => ⟨?_, ?_, ?_⟩,
    fun fault => cycle_of_stack_eq_error among⟩
  · exact (layers_of_stack_eq_ok among stacked).1
  · intro line layer found
    obtain ⟨known, value, pos, longest⟩ := longestChain_of_stack_eq_ok among stacked found
    refine ⟨⟨layer - 1, longest, by omega⟩, pos, ?_, ?_⟩
    · intro lower lowerLayer covers lowerFound
      have lowerValue := (longestChain_of_stack_eq_ok among stacked lowerFound).2.1
      rw [← value, ← lowerValue]
      exact ((layers_of_stack_eq_ok among stacked).2 line known).above lower covers
    · intro other otherPos grows
      obtain ⟨lowers, chain, length⟩ := longest.exists_chain
      have bound := length_lt_of_isChain among (fun line _ => otherPos line) grows known chain
      omega
  · exact fun other size same => stack_congr among size same stacked

def threeLines : Network Rat where
  lines := [.empty "low", .empty "middle", .empty "high"]
  lineNames := [("low", ⟨0⟩), ("middle", ⟨1⟩), ("high", ⟨2⟩)]
  stations := []
  curves := []
  alignments := []
  overlaps := [⟨⟨2⟩, ⟨0⟩, 1⟩, ⟨⟨2⟩, ⟨1⟩, 2⟩, ⟨⟨1⟩, ⟨0⟩, 3⟩, ⟨⟨2⟩, ⟨1⟩, 4⟩]

theorem stack_is_least_threeLines :
    Among threeLines.overlaps threeLines.lineIds ∧ stack threeLines = .ok [1, 2, 3] ∧
      LongestChain threeLines.overlaps ⟨2⟩ 2 := by
  have among : Among threeLines.overlaps threeLines.lineIds := by
    unfold Among
    decide
  have stacked : stack threeLines = .ok [1, 2, 3] := rfl
  obtain ⟨height, longest, three⟩ :=
    (((stack_is_least threeLines among).2.1 _ stacked).2.1 ⟨2⟩ 3 rfl).1
  obtain rfl : height = 2 := by omega
  exact ⟨among, stacked, longest⟩

end Layout

end TransitMap
