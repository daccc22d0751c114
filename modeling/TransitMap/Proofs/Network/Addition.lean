import Mathlib.Data.List.Find
import Mathlib.Data.List.Induction
import Mathlib.Data.Sym.Sym2
import TransitMap.Proofs.Network.Declared

namespace TransitMap

private theorem eraseDupsBy_loop_append (alike : α → α → Bool) (items more kept : List α) :
    List.eraseDupsBy.loop alike (items ++ more) kept =
      List.eraseDupsBy.loop alike more (List.eraseDupsBy.loop alike items kept).reverse := by
  induction items generalizing kept with
  | nil => rw [List.eraseDupsBy.loop, List.reverse_reverse, List.nil_append]
  | cons item rest ih =>
      rw [List.cons_append, List.eraseDupsBy.loop, List.eraseDupsBy.loop]
      split
      · exact ih kept
      · exact ih (item :: kept)

theorem eraseDupsBy_concat (alike : α → α → Bool) (items : List α) (item : α) :
    (items ++ [item]).eraseDupsBy alike =
      if (items.eraseDupsBy alike).any (alike item) then items.eraseDupsBy alike
      else items.eraseDupsBy alike ++ [item] := by
  unfold List.eraseDupsBy
  rw [eraseDupsBy_loop_append, List.eraseDupsBy.loop, List.any_reverse]
  split <;> simp_all [List.eraseDupsBy.loop]

theorem filterMap_concat (f : α → Option β) (items : List α) (item : α) :
    (items ++ [item]).filterMap f = items.filterMap f ++ (f item).toList := by
  cases found : f item <;> simp [found]

section FirstPerKey

variable {α κ : Type} [DecidableEq κ] (key : α → κ) (items : List α)

/-- The items that have another key than all items before them. -/
def firstPerKey : List α :=
  items.eraseDupsBy fun later earlier => decide (key earlier = key later)

theorem firstPerKey_concat (item : α) :
    firstPerKey key (items ++ [item]) =
      if key item ∈ (firstPerKey key items).map key then firstPerKey key items
      else firstPerKey key items ++ [item] := by
  have known : ((firstPerKey key items).any fun earlier => decide (key earlier = key item)) = true ↔
      key item ∈ (firstPerKey key items).map key := by
    simp only [List.any_eq_true, decide_eq_true_eq, List.mem_map]
  rw [firstPerKey, eraseDupsBy_concat]
  exact if_congr known rfl rfl

theorem mem_map_firstPerKey {value : κ} :
    value ∈ (firstPerKey key items).map key ↔ value ∈ items.map key := by
  induction items using List.reverseRecOn with
  | nil => rfl
  | append_singleton items item ih =>
      rw [firstPerKey_concat, List.map_append, List.mem_append, ← ih]
      split
      · next known =>
          constructor
          · exact .inl
          · rintro (earlier | same)
            · exact earlier
            · obtain rfl := List.mem_singleton.mp same
              exact known
      · rw [List.map_append, List.mem_append]

theorem nodup_map_firstPerKey : ((firstPerKey key items).map key).Nodup := by
  induction items using List.reverseRecOn with
  | nil => exact List.nodup_nil
  | append_singleton items item ih =>
      rw [firstPerKey_concat]
      split
      · exact ih
      · next new =>
          rw [List.map_append, List.map_singleton, ← List.concat_eq_append]
          exact ih.concat new

end FirstPerKey

/-- The first number of an item with both properties, looked for among those with one of them. -/
theorem find?_findIdxs (items : List α) (first second : α → Bool) :
    (items.findIdxs first).find? (fun index => items[index]?.any second) =
      items.findIdx? fun item => first item && second item := by
  induction items using List.reverseRecOn with
  | nil => rfl
  | append_singleton items item ih =>
      have before : ∀ index ∈ items.findIdxs first,
          (items ++ [item])[index]?.any second = items[index]?.any second := by
        intro index member
        have bound := List.lt_add_of_mem_findIdxs index member
        rw [List.getElem?_append_left (by simpa using bound)]
      rw [List.findIdxs_append, List.find?_append, List.findIdx?_append, ← ih,
        List.find?_congr before]
      by_cases isFirst : first item = true <;> by_cases isSecond : second item = true <;>
        simp [isFirst, isSecond]

namespace Edge

def pair (edge : Edge) : Sym2 StationId := s(edge.start, edge.stop)

theorem connects_iff (edge : Edge) (first second : StationId) :
    edge.connects first second = true ↔ edge.pair = s(first, second) := by
  simp only [connects, pair, Sym2.eq_iff, Bool.or_eq_true, Bool.and_eq_true, beq_iff_eq]

end Edge

theorem Line.hasEdge_iff (line : Line) (first second : StationId) :
    line.hasEdge first second = true ↔ s(first, second) ∈ line.edges.map Edge.pair := by
  simp only [hasEdge, List.any_eq_true, Edge.connects_iff, List.mem_map]

theorem Curve.joins_comm (curve : Curve) (first second : StationId) :
    curve.joins first second = curve.joins second first :=
  Bool.or_comm _ _

/-- What is added to a network at once. -/
inductive Addition (K : Type) where
  | line (name : String)
  | station (station : Station K)
  | edge (line : LineId) (start stop : StationId)
  | curve (curve : Curve)
  | endpoint (line : LineId) (endpoint : Endpoint)
  | alignment (alignment : Alignment)
  | overlap (overlap : Overlap)

namespace Addition

variable {K : Type} {addition : Addition K}

def apply (network : Network K) : Addition K → Network K
  | .line name => (network.addLine name).2
  | .station new => (network.addStation new).2
  | .edge id start stop => (network.addEdge id start stop).2
  | .curve new => (network.addCurve new).2
  | .endpoint id new => network.addEndpoint id new
  | .alignment new => network.addAlignment new
  | .overlap new => network.addOverlap new

def line? : Addition K → Option LineId
  | .station new => some new.line
  | .edge id _ _ => some id
  | .curve new => some new.line
  | .endpoint id _ => some id
  | .line _ | .alignment _ | .overlap _ => none

@[simp] def name? : Addition K → Option String
  | .line name => some name
  | _ => none

@[simp] def station? : Addition K → Option (Station K)
  | .station new => some new
  | _ => none

@[simp] def curve? : Addition K → Option Curve
  | .curve new => some new
  | _ => none

/-- The edge that is added to a line, unless the line has it. -/
@[simp] def edge? (line : LineId) : Addition K → Option Edge
  | .edge id start stop => if id = line then some ⟨start, stop⟩ else none
  | _ => none

theorem eq_line {name : String} (isLine : addition.name? = some name) :
    addition = .line name := by
  cases addition with
  | line other => exact congrArg line (Option.some.inj isLine)
  | station _ | edge _ _ _ | curve _ | endpoint _ _ | alignment _ | overlap _ => cases isLine

theorem eq_station {new : Station K} (isStation : addition.station? = some new) :
    addition = .station new := by
  cases addition with
  | station other => exact congrArg station (Option.some.inj isStation)
  | line _ | edge _ _ _ | curve _ | endpoint _ _ | alignment _ | overlap _ => cases isStation

theorem eq_curve {new : Curve} (isCurve : addition.curve? = some new) :
    addition = .curve new := by
  cases addition with
  | curve other => exact congrArg curve (Option.some.inj isCurve)
  | line _ | station _ | edge _ _ _ | endpoint _ _ | alignment _ | overlap _ => cases isCurve

theorem line?_of_edge? {id : LineId} {new : Edge} (isEdge : addition.edge? id = some new) :
    addition.line? = some id := by
  cases addition with
  | edge other start stop =>
      by_cases same : other = id
      · exact congrArg some same
      · rw [edge?, if_neg same] at isEdge
        cases isEdge
  | line _ | station _ | curve _ | endpoint _ _ | alignment _ | overlap _ => cases isEdge

end Addition

namespace Network

variable {K : Type}

theorem names_addLine {network : Network K} (indexed : network.Indexed) (name : String) :
    (network.addLine name).2.lines.map Line.name =
      if name ∈ network.lines.map Line.name then network.lines.map Line.name
      else network.lines.map Line.name ++ [name] := by
  unfold addLine
  split
  · next found =>
      obtain ⟨line, atLine, rfl⟩ := (indexed _ _).mp found
      rw [if_pos (List.mem_map_of_mem (List.mem_of_getElem? atLine))]
  · next missing =>
      rw [if_neg (indexed.notMem_of_eq_none missing), List.map_append]
      rfl

theorem length_lines_addLine (network : Network K) (name : String) :
    network.lines.length ≤ (network.addLine name).2.lines.length := by
  unfold addLine
  split
  · exact Nat.le_refl _
  · exact List.length_append ▸ Nat.le_add_right ..

@[simp] theorem curves_addLine (network : Network K) (name : String) :
    (network.addLine name).2.curves = network.curves := by
  unfold addLine
  split <;> rfl

@[simp] theorem curves_addEdge (network : Network K) (line : LineId) (start stop : StationId) :
    (network.addEdge line start stop).2.curves = network.curves := by
  unfold addEdge
  split <;> rfl

theorem line?_addEdge (network : Network K) (line : LineId) (start stop : StationId)
    (id : LineId) :
    (network.addEdge line start stop).2.line? id =
      if line = id then (network.line? id).map fun found =>
        if found.hasEdge start stop then found
        else { found with edges := found.edges ++ [⟨start, stop⟩] }
      else network.line? id := by
  unfold addEdge
  by_cases same : line = id
  · subst same
    rw [if_pos rfl]
    cases found : network.line? line with
    | none => simp [hasEdge, found]
    | some before =>
        have own : network.hasEdge line start stop = before.hasEdge start stop := by
          rw [hasEdge, found]
          rfl
        rw [own]
        by_cases has : before.hasEdge start stop = true <;> simp [found, has]
  · rw [if_neg same]
    split
    · rfl
    · rw [line?_modifyLine, if_neg same]

section Apply

variable (network : Network K) {addition : Addition K}

theorem names_apply_of_none (noLine : addition.name? = none) :
    (addition.apply network).lines.map Line.name = network.lines.map Line.name := by
  cases addition with
  | line name => cases noLine
  | station new => exact names_lines_addStation network new
  | edge id start stop => exact names_addEdge network id start stop
  | curve new => exact names_modifyLine network new.line fun _ => rfl
  | endpoint id new => exact names_modifyLine network id fun _ => rfl
  | alignment _ | overlap _ => rfl

theorem lineNames_apply_of_none (noLine : addition.name? = none) :
    (addition.apply network).lineNames = network.lineNames := by
  cases addition with
  | line name => cases noLine
  | edge id start stop =>
      rw [Addition.apply, addEdge]
      split <;> rfl
  | station _ | curve _ | endpoint _ _ | alignment _ | overlap _ => rfl

theorem stations_apply (addition : Addition K) :
    (addition.apply network).stations = network.stations ++ addition.station?.toList := by
  cases addition with
  | station new => rfl
  | line _ | edge _ _ _ => simp [Addition.apply]
  | curve _ | endpoint _ _ | alignment _ | overlap _ => exact (List.append_nil _).symm

theorem curves_apply (addition : Addition K) :
    (addition.apply network).curves = network.curves ++ addition.curve?.toList := by
  cases addition with
  | curve new => rfl
  | line _ | edge _ _ _ => simp [Addition.apply]
  | station _ | endpoint _ _ | alignment _ | overlap _ => exact (List.append_nil _).symm

theorem length_lines_apply (addition : Addition K) :
    network.lines.length ≤ (addition.apply network).lines.length := by
  cases isLine : addition.name? with
  | none =>
      have same := congrArg List.length (names_apply_of_none network isLine)
      rw [List.length_map, List.length_map] at same
      exact same.ge
  | some name =>
      obtain rfl := Addition.eq_line isLine
      exact length_lines_addLine network name

end Apply

theorem Indexed.apply {network : Network K} (indexed : network.Indexed) (addition : Addition K) :
    (addition.apply network).Indexed := by
  cases isLine : addition.name? with
  | none =>
      exact indexed.congr (lineNames_apply_of_none network isLine)
        (names_apply_of_none network isLine)
  | some name =>
      obtain rfl := Addition.eq_line isLine
      exact indexed.addLine name

def ofAdditions (history : List (Addition K)) : Network K :=
  history.foldl Addition.apply .empty

def Takes (network : Network K) (addition : Addition K) : Prop :=
  ∀ line ∈ addition.line?, line.index < network.lines.length

instance (network : Network K) (addition : Addition K) : Decidable (network.Takes addition) :=
  inferInstanceAs (Decidable (∀ line ∈ addition.line?, line.index < network.lines.length))

theorem Takes.apply {network : Network K} {addition : Addition K} (takes : network.Takes addition)
    (next : Addition K) : (next.apply network).Takes addition :=
  fun line isLine => (takes line isLine).trans_le (length_lines_apply network next)

/-- Whatever is added goes to a line that is there by then. -/
def InRange (history : List (Addition K)) : Prop :=
  ∀ index, (bound : index < history.length) →
    (ofAdditions (history.take index)).Takes history[index]

instance (history : List (Addition K)) : Decidable (InRange history) :=
  inferInstanceAs (Decidable (∀ index, (bound : index < history.length) →
    (ofAdditions (history.take index)).Takes history[index]))

theorem InRange.of_append {before behind : List (Addition K)}
    (inRange : InRange (before ++ behind)) : InRange before := by
  intro index bound
  have takes := inRange index (List.length_append ▸ Nat.lt_add_right _ bound)
  rwa [List.getElem_append_left bound, List.take_append_of_le_length bound.le] at takes

theorem InRange.takes {before behind : List (Addition K)} {addition : Addition K}
    (inRange : InRange (before ++ addition :: behind)) : (ofAdditions before).Takes addition := by
  have takes := inRange before.length (by simp)
  simpa using takes

end Network

end TransitMap
