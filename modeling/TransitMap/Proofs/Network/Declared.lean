import Mathlib.Data.List.Nodup
import TransitMap.Network.Basic

namespace TransitMap

namespace Entries

theorem assign_of_notMem [BEq κ] [LawfulBEq κ] {key : κ} {value : α} {entries : List (κ × α)}
    (absent : key ∉ entries.map Prod.fst) :
    assign key value entries = entries ++ [(key, value)] := by
  induction entries with
  | nil => rfl
  | cons entry rest ih =>
      simp only [List.map_cons, List.mem_cons, not_or] at absent
      rw [assign, if_neg (by simpa using absent.1), ih absent.2, List.cons_append]

theorem mem_of_lookup_eq_some [BEq κ] [LawfulBEq κ] {key : κ} {value : α}
    {entries : List (κ × α)} (found : entries.lookup key = some value) :
    (key, value) ∈ entries := by
  obtain ⟨before, after, rfl, -⟩ := List.lookup_eq_some_iff.mp found
  exact List.mem_append_right _ List.mem_cons_self

theorem notMem_of_lookup_eq_none [BEq κ] [LawfulBEq κ] {key : κ} {entries : List (κ × α)}
    (missing : entries.lookup key = none) : key ∉ entries.map Prod.fst := by
  intro keyed
  obtain ⟨entry, member, rfl⟩ := List.mem_map.mp keyed
  have apart := List.lookup_eq_none_iff.mp missing entry member
  simp at apart

theorem lookup_eq_some_of_mem [BEq κ] [LawfulBEq κ] {key : κ} {value : α}
    {entries : List (κ × α)} (nodup : (entries.map Prod.fst).Nodup)
    (member : (key, value) ∈ entries) : entries.lookup key = some value := by
  obtain ⟨before, after, rfl⟩ := List.append_of_mem member
  refine List.lookup_eq_some_iff.mpr ⟨before, after, rfl, ?_⟩
  intro entry earlier
  rw [List.map_append, List.map_cons, List.nodup_append] at nodup
  exact bne_iff_ne.mpr
    (nodup.2.2 _ (List.mem_map_of_mem earlier) _ List.mem_cons_self).symm

end Entries

/-- The half of an endpoint, if it has only one, is one of the two of its axis. -/
def Endpoint.HalfFits (endpoint : Endpoint) : Prop :=
  ∀ half, endpoint.half = some half → endpoint.axis.acceptsHalf half = true

namespace Network

variable {K : Type} {network : Network K}

@[simp] theorem line?_modifyLine (network : Network K) (line other : LineId)
    (change : Line → Line) :
    (network.modifyLine line change).line? other =
      if line = other then (network.line? other).map change else network.line? other := by
  obtain ⟨index⟩ := line
  obtain ⟨otherIndex⟩ := other
  simp only [line?, modifyLine, List.getElem?_modify, LineId.mk.injEq]
  split <;> simp

@[simp] theorem lines_modifyLine (network : Network K) (line : LineId) (change : Line → Line) :
    (network.modifyLine line change).lines = network.lines.modify line.index change := rfl

@[simp] theorem stations_modifyLine (network : Network K) (line : LineId)
    (change : Line → Line) : (network.modifyLine line change).stations = network.stations := rfl

@[simp] theorem station?_modifyLine (network : Network K) (line : LineId) (change : Line → Line)
    (station : StationId) :
    (network.modifyLine line change).station? station = network.station? station := rfl

private theorem map_modify_of_eq {items : List α} {index : Nat} {f : α → β} {change : α → α}
    (same : ∀ item, f (change item) = f item) : (items.modify index change).map f = items.map f := by
  induction items generalizing index with
  | nil => simp
  | cons item rest ih =>
      cases index with
      | zero => simp [same]
      | succ index => simp [ih]

theorem names_modifyLine (network : Network K) (line : LineId) {change : Line → Line}
    (sameName : ∀ found, (change found).name = found.name) :
    (network.modifyLine line change).lines.map Line.name = network.lines.map Line.name :=
  map_modify_of_eq sameName

theorem names_addEdge (network : Network K) (line : LineId) (start stop : StationId) :
    (network.addEdge line start stop).2.lines.map Line.name = network.lines.map Line.name := by
  rw [addEdge]
  split
  · rfl
  · exact names_modifyLine network line fun _ => rfl

@[simp] theorem stations_addEdge (network : Network K) (line : LineId) (start stop : StationId) :
    (network.addEdge line start stop).2.stations = network.stations := by
  rw [addEdge]
  split <;> rfl

theorem getElem?_concat (items : List α) (added : α) (index : Nat) :
    (items ++ [added])[index]? = if index = items.length then some added else items[index]? := by
  rw [List.getElem?_append]
  split
  · rw [if_neg (by omega)]
  · split
    · next same => simp [same]
    · rw [List.getElem?_eq_none (by simp; omega), List.getElem?_eq_none (by omega)]

theorem station?_append (network : Network K) (added : Station K) (other : StationId) :
    ({ network with stations := network.stations ++ [added] } : Network K).station? other =
      if other.index = network.stations.length then some added else network.station? other :=
  getElem?_concat network.stations added other.index

@[simp] theorem stations_addLine (network : Network K) (name : String) :
    (network.addLine name).2.stations = network.stations := by
  unfold addLine
  split <;> rfl

@[simp] theorem station?_addLine (network : Network K) (name : String) (id : StationId) :
    (network.addLine name).2.station? id = network.station? id := by
  rw [station?, stations_addLine, station?]

theorem line?_addLine_of_none {name : String} (missing : network.lineNamed? name = none)
    (id : LineId) :
    (network.addLine name).2.line? id =
      if id.index = network.lines.length then some (Line.empty name) else network.line? id := by
  rw [addLine, missing]
  exact getElem?_concat network.lines (Line.empty name) id.index

/-- The names of the lines lead to the lines that have them. -/
def Indexed (network : Network K) : Prop :=
  ∀ name id, network.lineNamed? name = some id ↔
    ∃ line, network.line? id = some line ∧ line.name = name

theorem exists_line_iff {id : LineId} {name : String} :
    (∃ line, network.line? id = some line ∧ line.name = name) ↔
      (network.lines.map Line.name)[id.index]? = some name := by
  rw [List.getElem?_map, Option.map_eq_some_iff]
  rfl

theorem indexed_empty : (empty : Network K).Indexed := by
  intro name id
  rw [exists_line_iff]
  simp [empty, lineNamed?]

theorem Indexed.congr {other : Network K} (indexed : network.Indexed)
    (sameIndex : other.lineNames = network.lineNames)
    (sameNames : other.lines.map Line.name = network.lines.map Line.name) : other.Indexed := by
  intro name id
  rw [exists_line_iff, sameNames, ← exists_line_iff, ← indexed, lineNamed?, sameIndex, lineNamed?]

theorem Indexed.lineNamed?_name (indexed : network.Indexed) {id : LineId} {line : Line}
    (found : network.line? id = some line) : network.lineNamed? line.name = some id :=
  (indexed _ id).mpr ⟨line, found, rfl⟩

theorem Indexed.names_nodup (indexed : network.Indexed) :
    (network.lines.map Line.name).Nodup := by
  rw [List.nodup_iff_injective_getElem]
  rintro ⟨first, firstBound⟩ ⟨second, secondBound⟩ same
  have leads (index : Nat) (bound : index < (network.lines.map Line.name).length) :
      network.lineNamed? (network.lines.map Line.name)[index] = some ⟨index⟩ := by
    rw [indexed, exists_line_iff]
    exact List.getElem?_eq_getElem bound
  have sameLine := leads first firstBound
  rw [show (network.lines.map Line.name)[first] = _ from same, leads second secondBound] at sameLine
  exact Fin.ext (LineId.mk.inj (Option.some.inj sameLine)).symm

theorem Indexed.notMem_of_eq_none (indexed : network.Indexed) {name : String}
    (missing : network.lineNamed? name = none) : name ∉ network.lines.map Line.name := by
  intro member
  obtain ⟨index, atIndex⟩ := List.mem_iff_getElem?.mp member
  have found := (indexed name ⟨index⟩).mpr (exists_line_iff.mpr atIndex)
  rw [missing] at found
  cases found

theorem lineNamed?_addLine_of_none {name : String} (missing : network.lineNamed? name = none)
    (other : String) :
    (network.addLine name).2.lineNamed? other =
      if other = name then some ⟨network.lines.length⟩ else network.lineNamed? other := by
  simp only [addLine, missing]
  by_cases same : other = name
  · rw [if_pos same, same]
    exact Entries.lookup_assign_self ..
  · rw [if_neg same]
    exact Entries.lookup_assign_of_ne _ _ _ _ same

/-- The name of a line that is added leads to it, and all others to where they did. -/
theorem Indexed.addLine (indexed : network.Indexed) (name : String) :
    (network.addLine name).2.Indexed := by
  cases known : network.lineNamed? name with
  | some line =>
      rw [Network.addLine, known]
      exact indexed
  | none =>
      have fresh := indexed.notMem_of_eq_none known
      have noLine : network.line? ⟨network.lines.length⟩ = none :=
        List.getElem?_eq_none (Nat.le_refl _)
      rintro other ⟨index⟩
      rw [lineNamed?_addLine_of_none known, line?_addLine_of_none known]
      by_cases isNew : index = network.lines.length
      · subst isNew
        by_cases same : other = name
        · simp [same, Line.empty]
        · simp [same, Line.empty, Ne.symm same, indexed other, noLine]
      · rw [if_neg isNew]
        by_cases same : other = name
        · subst same
          rw [if_pos rfl, exists_line_iff]
          simp only [Option.some.injEq, LineId.mk.injEq, Ne.symm isNew, false_iff]
          exact fun atIndex => fresh (List.mem_of_getElem? atIndex)
        · rw [if_neg same]
          exact indexed other ⟨index⟩

@[simp] theorem mem_curveIds {id : CurveId} :
    id ∈ network.curveIds ↔ id.index < network.curves.length := by
  obtain ⟨index⟩ := id
  simp [curveIds]

@[simp] theorem length_curveIds (network : Network K) :
    network.curveIds.length = network.curves.length := by
  simp [curveIds]

theorem nodup_curveIds (network : Network K) : network.curveIds.Nodup :=
  List.nodup_range.map fun _ _ same => CurveId.mk.inj same

/-- A station of a line has this name there. -/
def Names (network : Network K) (line : LineId) (name : String) (station : StationId) : Prop :=
  ∃ found, network.station? station = some found ∧ found.line = line ∧ found.name = name

def OnLine (network : Network K) (line : LineId) (station : StationId) : Prop :=
  ∃ found, network.station? station = some found ∧ found.line = line

theorem Names.onLine {line : LineId} {name : String} {station : StationId}
    (names : network.Names line name station) : network.OnLine line station := by
  obtain ⟨found, atStation, atLine, -⟩ := names
  exact ⟨found, atStation, atLine⟩

theorem OnLine.lt_length {line : LineId} {station : StationId}
    (onLine : network.OnLine line station) : station.index < network.stations.length := by
  obtain ⟨found, atStation, -⟩ := onLine
  exact (List.getElem?_eq_some_iff.mp atStation).1

/-- What a line lists belongs to it. -/
structure DeclaredLine (network : Network K) (id : LineId) (line : Line) : Prop where
  names_nodup : (line.stations.map Prod.fst).Nodup
  mem_stations : ∀ name station, (name, station) ∈ line.stations ↔ network.Names id name station
  edges : ∀ edge ∈ line.edges, network.OnLine id edge.start ∧ network.OnLine id edge.stop
  endpoints : ∀ endpoint ∈ line.endpoints,
    network.OnLine id endpoint.station ∧ endpoint.HalfFits

structure Declared (network : Network K) : Prop where
  indexed : network.Indexed
  names_nonempty : "" ∉ network.lines.map Line.name
  line_known : ∀ id station, network.station? id = some station →
    station.line.index < network.lines.length
  line : ∀ id line, network.line? id = some line → network.DeclaredLine id line

theorem Declared.names_nodup (declared : network.Declared) :
    (network.lines.map Line.name).Nodup :=
  declared.indexed.names_nodup

theorem declared_empty : (empty : Network K).Declared where
  indexed := indexed_empty
  names_nonempty := by simp [empty]
  line_known := by simp [empty, station?]
  line := by simp [empty, line?]

theorem DeclaredLine.names_of_station? {id : LineId} {line : Line} {name : String}
    {station : StationId} (declared : network.DeclaredLine id line)
    (found : line.station? name = some station) : network.Names id name station :=
  (declared.mem_stations name station).mp (Entries.mem_of_lookup_eq_some found)

theorem Declared.names_of_stationNamed? (declared : network.Declared) {line : LineId}
    {name : String} {station : StationId}
    (found : network.stationNamed? line name = some station) : network.Names line name station := by
  simp only [stationNamed?, Option.bind_eq_bind, Option.bind_eq_some_iff] at found
  obtain ⟨atLine, isLine, found⟩ := found
  exact (declared.line line atLine isLine).names_of_station? found

theorem Declared.stationNamed?_of_names (declared : network.Declared) {line : LineId}
    {name : String} {station : StationId} (names : network.Names line name station) :
    network.stationNamed? line name = some station := by
  obtain ⟨found, atStation, rfl, -⟩ := id names
  have known := declared.line_known station found atStation
  have isLine : network.line? found.line = some network.lines[found.line.index] :=
    List.getElem?_eq_getElem known
  have onLine := declared.line _ _ isLine
  simp only [stationNamed?, isLine, Option.bind_eq_bind, Option.bind_some]
  exact Entries.lookup_eq_some_of_mem onLine.names_nodup ((onLine.mem_stations _ _).mpr names)

theorem DeclaredLine.of_stations {other : Network K} {id : LineId} {line : Line}
    (declared : network.DeclaredLine id line) (same : other.stations = network.stations) :
    other.DeclaredLine id line := by
  have sameNames : other.Names = network.Names := by
    funext line name station
    simp only [Names, station?, same]
  have sameOnLine : other.OnLine = network.OnLine := by
    funext line station
    simp only [OnLine, station?, same]
  exact ⟨declared.names_nodup, fun name station => sameNames ▸ declared.mem_stations name station,
    fun edge member => sameOnLine ▸ declared.edges edge member,
    fun endpoint member => sameOnLine ▸ declared.endpoints endpoint member⟩

/-- A change of one line that keeps its name and what is declared of it. -/
theorem Declared.modifyLine (declared : network.Declared) {id : LineId} {change : Line → Line}
    (sameName : ∀ line, (change line).name = line.name)
    (kept : ∀ line, network.line? id = some line → network.DeclaredLine id (change line)) :
    (network.modifyLine id change).Declared where
  indexed := declared.indexed.congr rfl (names_modifyLine network id sameName)
  names_nonempty := by
    rw [names_modifyLine network id sameName]
    exact declared.names_nonempty
  line_known := by
    intro station found atStation
    simpa using declared.line_known station found atStation
  line := by
    intro other line found
    rw [line?_modifyLine] at found
    split at found
    · next same =>
        subst same
        obtain ⟨before, atBefore, rfl⟩ := Option.map_eq_some_iff.mp found
        exact (kept before atBefore).of_stations rfl
    · exact (declared.line other line found).of_stations rfl

theorem Declared.addLine (declared : network.Declared) {name : String}
    (missing : network.lineNamed? name = none) (nonempty : name ≠ "") :
    (network.addLine name).2.Declared where
  indexed := declared.indexed.addLine name
  names_nonempty := by
    simp only [Network.addLine, missing, List.map_append, List.mem_append, List.map_cons,
      List.map_nil, List.mem_singleton, Line.empty, not_or]
    exact ⟨declared.names_nonempty, nonempty.symm⟩
  line_known := by
    intro station found atStation
    rw [station?_addLine] at atStation
    rw [Network.addLine, missing]
    have known := declared.line_known station found atStation
    simp only [List.length_append, List.length_singleton]
    omega
  line := by
    intro id line found
    rw [line?_addLine_of_none missing] at found
    split at found
    · next new =>
        obtain rfl := Option.some.inj found
        refine ⟨List.nodup_nil, ?_, by simp [Line.empty], by simp [Line.empty]⟩
        intro name station
        simp only [Line.empty, List.not_mem_nil, false_iff]
        rintro ⟨found, atStation, rfl, -⟩
        rw [station?_addLine] at atStation
        have known := declared.line_known station found atStation
        omega
    · exact (declared.line id line found).of_stations (stations_addLine network name)

theorem station?_addStation (network : Network K) (station : Station K) (id : StationId) :
    (network.addStation station).2.station? id =
      if id.index = network.stations.length then some station else network.station? id :=
  station?_append _ station id

theorem line?_addStation (network : Network K) (station : Station K) (id : LineId) :
    (network.addStation station).2.line? id =
      if station.line = id then (network.line? id).map fun line =>
        { line with
          stations := Entries.assign station.name ⟨network.stations.length⟩ line.stations }
      else network.line? id :=
  line?_modifyLine network station.line id _

theorem names_addStation (network : Network K) (station : Station K) {line : LineId}
    {name : String} {id : StationId} :
    (network.addStation station).2.Names line name id ↔
      network.Names line name id ∨
        id = ⟨network.stations.length⟩ ∧ line = station.line ∧ name = station.name := by
  obtain ⟨index⟩ := id
  simp only [Names, station?_addStation, StationId.mk.injEq]
  split
  · next new =>
      subst new
      have absent : network.station? ⟨network.stations.length⟩ = none :=
        List.getElem?_eq_none (Nat.le_refl _)
      simp [absent, eq_comm]
  · next old => simp [old]

theorem OnLine.addStation {line : LineId} {id : StationId} (onLine : network.OnLine line id)
    (station : Station K) : (network.addStation station).2.OnLine line id := by
  obtain ⟨found, atStation, atLine⟩ := onLine
  have names := (names_addStation network station).mpr (.inl ⟨found, atStation, atLine, rfl⟩)
  exact names.onLine

theorem names_lines_addStation (network : Network K) (station : Station K) :
    (network.addStation station).2.lines.map Line.name = network.lines.map Line.name :=
  names_modifyLine network station.line fun _ => rfl

theorem DeclaredLine.edges_addStation {id : LineId} {line : Line}
    (declared : network.DeclaredLine id line) (station : Station K) :
    (∀ edge ∈ line.edges, (network.addStation station).2.OnLine id edge.start ∧
      (network.addStation station).2.OnLine id edge.stop) ∧
    ∀ endpoint ∈ line.endpoints, (network.addStation station).2.OnLine id endpoint.station ∧
      endpoint.HalfFits := by
  constructor
  · intro edge member
    have onLine := declared.edges edge member
    exact ⟨onLine.1.addStation station, onLine.2.addStation station⟩
  · intro endpoint member
    have onLine := declared.endpoints endpoint member
    exact ⟨onLine.1.addStation station, onLine.2⟩

theorem Declared.addStation (declared : network.Declared) {station : Station K}
    (known : station.line.index < network.lines.length)
    (missing : network.stationNamed? station.line station.name = none) :
    (network.addStation station).2.Declared where
  indexed := declared.indexed.congr rfl (names_lines_addStation network station)
  names_nonempty := by
    rw [names_lines_addStation]
    exact declared.names_nonempty
  line_known := by
    intro id found atStation
    have size : (network.addStation station).2.lines.length = network.lines.length :=
      List.length_modify ..
    rw [station?_addStation] at atStation
    rw [size]
    split at atStation
    · obtain rfl := Option.some.inj atStation
      exact known
    · exact declared.line_known id found atStation
  line := by
    intro id line found
    rw [line?_addStation] at found
    split at found
    · next same =>
        subst same
        obtain ⟨before, atBefore, rfl⟩ := Option.map_eq_some_iff.mp found
        have old := declared.line _ before atBefore
        have fresh : station.name ∉ before.stations.map Prod.fst := by
          simp only [stationNamed?, atBefore, Option.bind_eq_bind, Option.bind_some] at missing
          exact Entries.notMem_of_lookup_eq_none missing
        obtain ⟨edges, endpoints⟩ := old.edges_addStation station
        refine ⟨?_, fun name other => ?_, edges, endpoints⟩
        · rw [Entries.assign_of_notMem fresh, List.map_append]
          exact List.nodup_append.mpr ⟨old.names_nodup, List.nodup_singleton _, by
            rintro name member other isNew rfl
            obtain rfl := List.mem_singleton.mp isNew
            exact fresh member⟩
        · rw [Entries.assign_of_notMem fresh, List.mem_append, old.mem_stations, names_addStation,
            List.mem_singleton, Prod.mk.injEq]
          exact or_congr_right ⟨fun new => ⟨new.2, rfl, new.1⟩, fun new => ⟨new.2.2, new.1⟩⟩
    · next apart =>
        have old := declared.line id line found
        obtain ⟨edges, endpoints⟩ := old.edges_addStation station
        refine ⟨old.names_nodup, fun name other => ?_, edges, endpoints⟩
        rw [old.mem_stations, names_addStation]
        constructor
        · exact .inl
        · rintro (names | ⟨-, rfl, -⟩)
          · exact names
          · exact absurd rfl apart

theorem Declared.addEdge (declared : network.Declared) {line : LineId} {start stop : StationId}
    (startOn : network.OnLine line start) (stopOn : network.OnLine line stop) :
    (network.addEdge line start stop).2.Declared := by
  rw [Network.addEdge]
  split
  · exact declared
  · refine declared.modifyLine (fun _ => rfl) fun found atLine => ?_
    have old := declared.line line found atLine
    refine ⟨old.names_nodup, old.mem_stations, ?_, old.endpoints⟩
    intro edge member
    rcases List.mem_append.mp member with earlier | new
    · exact old.edges edge earlier
    · rw [List.mem_singleton.mp new]
      exact ⟨startOn, stopOn⟩

theorem Declared.addEndpoint (declared : network.Declared) {line : LineId} {endpoint : Endpoint}
    (onLine : network.OnLine line endpoint.station) (fits : endpoint.HalfFits) :
    (network.addEndpoint line endpoint).Declared := by
  refine declared.modifyLine (fun _ => rfl) fun found atLine => ?_
  have old := declared.line line found atLine
  refine ⟨old.names_nodup, old.mem_stations, old.edges, ?_⟩
  intro other member
  rcases List.mem_append.mp member with earlier | new
  · exact old.endpoints other earlier
  · rw [List.mem_singleton.mp new]
    exact ⟨onLine, fits⟩

/-- The network without its curves and constraints. -/
def bare (network : Network K) : Network K where
  lines := network.lines.map fun line => { line with curves := [] }
  lineNames := network.lineNames
  stations := network.stations
  curves := []
  alignments := []
  overlaps := []

@[simp] theorem station?_bare (network : Network K) (station : StationId) :
    network.bare.station? station = network.station? station := rfl

@[simp] theorem line?_bare (network : Network K) (line : LineId) :
    network.bare.line? line = (network.line? line).map fun found => { found with curves := [] } := by
  simp [line?, bare]

@[simp] theorem lineNamed?_bare (network : Network K) (name : String) :
    network.bare.lineNamed? name = network.lineNamed? name := rfl

@[simp] theorem lineName_bare (network : Network K) (line : LineId) :
    network.bare.lineName line = network.lineName line := by
  simp [lineName, Function.comp_def]

@[simp] theorem stationNamed?_bare (network : Network K) (line : LineId) (name : String) :
    network.bare.stationNamed? line name = network.stationNamed? line name := by
  simp only [stationNamed?, line?_bare, Option.bind_eq_bind]
  cases network.line? line <;> rfl

@[simp] theorem hasEdge_bare (network : Network K) (line : LineId) (first second : StationId) :
    network.bare.hasEdge line first second = network.hasEdge line first second := by
  simp [hasEdge, Function.comp_def, Line.hasEdge]

@[simp] theorem isAlignmentPoint_bare (network : Network K) (station : StationId) :
    network.bare.isAlignmentPoint station = network.isAlignmentPoint station := rfl

@[simp] theorem bare_addCurve (network : Network K) (curve : Curve) :
    (network.addCurve curve).2.bare = network.bare := by
  have lines : (network.addCurve curve).2.bare.lines = network.bare.lines :=
    map_modify_of_eq fun _ => rfl
  simp only [bare, mk.injEq, and_true]
  exact ⟨lines, rfl, rfl⟩

@[simp] theorem bare_addAlignment (network : Network K) (alignment : Alignment) :
    (network.addAlignment alignment).bare = network.bare := rfl

@[simp] theorem bare_addOverlap (network : Network K) (overlap : Overlap) :
    (network.addOverlap overlap).bare = network.bare := rfl

private theorem names_bare (network : Network K) :
    network.bare.lines.map Line.name = network.lines.map Line.name := by
  simp [bare, Function.comp_def]

private theorem declaredLine_bare_iff {id : LineId} {line : Line} :
    network.bare.DeclaredLine id { line with curves := [] } ↔ network.DeclaredLine id line :=
  ⟨fun declared =>
    ⟨declared.names_nodup, declared.mem_stations, declared.edges, declared.endpoints⟩,
  fun declared =>
    ⟨declared.names_nodup, declared.mem_stations, declared.edges, declared.endpoints⟩⟩

theorem declared_bare_iff : network.bare.Declared ↔ network.Declared := by
  have size : network.bare.lines.length = network.lines.length := List.length_map ..
  constructor
  · intro declared
    refine ⟨declared.indexed.congr rfl (names_bare network).symm,
      names_bare network ▸ declared.names_nonempty,
      fun id station found => size ▸ declared.line_known id station found, fun id line found => ?_⟩
    apply declaredLine_bare_iff.mp
    exact declared.line id _ (by rw [line?_bare, found, Option.map_some])
  · intro declared
    refine ⟨declared.indexed.congr rfl (names_bare network),
      (names_bare network).symm ▸ declared.names_nonempty,
      fun id station found => size.symm ▸ declared.line_known id station found,
      fun id line found => ?_⟩
    rw [line?_bare] at found
    obtain ⟨before, atBefore, rfl⟩ := Option.map_eq_some_iff.mp found
    exact declaredLine_bare_iff.mpr (declared.line id before atBefore)

theorem Declared.of_bare_eq {other : Network K} (declared : network.Declared)
    (same : other.bare = network.bare) : other.Declared :=
  declared_bare_iff.mp (same ▸ declared_bare_iff.mpr declared)

end Network

end TransitMap
