import TransitMap.Proofs.Network.Addition

/-!
What a network tells of the way in which it was made: whatever is added to it, and in whatever
order, its lines list what was added to them, and names and pairs of stations lead to it.
-/

namespace TransitMap

namespace Network

variable {K : Type}

/-- Of the stations, edges and curves that are added, a line lists its own. -/
structure LineRecords (id : LineId) (stations : List (Station K)) (added : List Edge)
    (curves : List Curve) (line : Line) : Prop where
  station? : ∀ name, line.station? name = ((stations.findIdxs fun station =>
    station.line == id && station.name == name).getLast?).map StationId.mk
  edges : line.edges = firstPerKey Edge.pair added
  curves : line.curves = (curves.findIdxs fun curve => curve.line == id).map CurveId.mk

namespace LineRecords

variable {id : LineId} {stations : List (Station K)} {added : List Edge} {curves : List Curve}
  {line : Line}

theorem empty (name : String) (noStations : ∀ station ∈ stations, station.line ≠ id)
    (noCurves : ∀ curve ∈ curves, curve.line ≠ id) :
    LineRecords id stations [] curves (Line.empty name) where
  station? other := by
    have none : (stations.findIdxs fun station => station.line == id && station.name == other) =
        [] := by
      rw [List.findIdxs_eq_nil_iff]
      intro station member
      rw [beq_eq_false_iff_ne.mpr (noStations station member), Bool.false_and]
    rw [none]
    rfl
  edges := rfl
  curves := by
    have none : (curves.findIdxs fun curve => curve.line == id) = [] := by
      rw [List.findIdxs_eq_nil_iff]
      exact fun curve member => beq_eq_false_iff_ne.mpr (noCurves curve member)
    rw [none]
    rfl

section Own

variable (records : LineRecords id stations added curves line)

include records

theorem addStation {station : Station K} (own : station.line = id) :
    LineRecords id (stations ++ [station]) added curves
      { line with
        stations := Entries.assign station.name ⟨stations.length⟩ line.stations } where
  station? name := by
    rw [List.findIdxs_append, List.findIdxs_singleton, List.getLast?_append]
    by_cases same : name = station.name
    · subst same
      rw [Line.station?, Entries.lookup_assign_self]
      simp [own]
    · have apart : (station.name == name) = false := beq_eq_false_iff_ne.mpr (Ne.symm same)
      rw [Line.station?, Entries.lookup_assign_of_ne _ _ _ _ same]
      change line.station? name = _
      simpa [apart] using records.station? name
  edges := records.edges
  curves := records.curves

theorem addEdge (start stop : StationId) :
    LineRecords id stations (added ++ [⟨start, stop⟩]) curves
      (if line.hasEdge start stop then line
      else { line with edges := line.edges ++ [⟨start, stop⟩] }) where
  station? name := by
    split <;> exact records.station? name
  edges := by
    rw [firstPerKey_concat, ← records.edges, apply_ite Line.edges]
    exact if_congr (line.hasEdge_iff start stop) rfl rfl
  curves := by
    split <;> exact records.curves

theorem addCurve {curve : Curve} (own : curve.line = id) :
    LineRecords id stations added (curves ++ [curve])
      { line with curves := line.curves ++ [⟨curves.length⟩] } where
  station? := records.station?
  edges := records.edges
  curves := by
    rw [List.findIdxs_append, List.findIdxs_singleton, records.curves, List.map_append]
    simp [own]

end Own

section Foreign

variable (records : LineRecords id stations added curves line)

include records

theorem addForeignStation {station : Station K} (foreign : station.line ≠ id) :
    LineRecords id (stations ++ [station]) added curves line where
  station? name := by
    rw [List.findIdxs_append, List.findIdxs_singleton, List.getLast?_append]
    simpa [foreign] using records.station? name
  edges := records.edges
  curves := records.curves

theorem addForeignCurve {curve : Curve} (foreign : curve.line ≠ id) :
    LineRecords id stations added (curves ++ [curve]) line where
  station? := records.station?
  edges := records.edges
  curves := by
    rw [List.findIdxs_append, List.findIdxs_singleton]
    simpa [foreign] using records.curves

end Foreign

end LineRecords

structure Records (history : List (Addition K)) (network : Network K) : Prop where
  indexed : network.Indexed
  names : network.lines.map Line.name =
    firstPerKey (fun name => name) (history.filterMap Addition.name?)
  stations : network.stations = history.filterMap Addition.station?
  curves : network.curves = history.filterMap Addition.curve?
  takes : ∀ addition ∈ history, network.Takes addition
  line : ∀ id line, network.line? id = some line →
    LineRecords id network.stations (history.filterMap (Addition.edge? id)) network.curves line

theorem records_empty : Records [] (empty : Network K) where
  indexed := indexed_empty
  names := rfl
  stations := rfl
  curves := rfl
  takes := by simp
  line := by simp [empty, Network.line?]

namespace Records

variable {history : List (Addition K)} {network : Network K}

theorem station_known (records : Records history network) :
    ∀ station ∈ network.stations, station.line.index < network.lines.length := by
  intro station member
  rw [records.stations] at member
  obtain ⟨addition, isAddition, isStation⟩ := List.mem_filterMap.mp member
  obtain rfl := Addition.eq_station isStation
  exact records.takes _ isAddition _ rfl

theorem curve_known (records : Records history network) :
    ∀ curve ∈ network.curves, curve.line.index < network.lines.length := by
  intro curve member
  rw [records.curves] at member
  obtain ⟨addition, isAddition, isCurve⟩ := List.mem_filterMap.mp member
  obtain rfl := Addition.eq_curve isCurve
  exact records.takes _ isAddition _ rfl

theorem edges_eq_nil (records : Records history network) {id : LineId}
    (unknown : network.lines.length ≤ id.index) :
    history.filterMap (Addition.edge? id) = [] := by
  rw [List.eq_nil_iff_forall_not_mem]
  intro edge member
  obtain ⟨addition, isAddition, isEdge⟩ := List.mem_filterMap.mp member
  have known := records.takes addition isAddition id (Addition.line?_of_edge? isEdge)
  omega

section Line

variable {id : LineId} {line : Line}

theorem line_addLine (records : Records history network) {name : String}
    (found : (network.addLine name).2.line? id = some line) :
    LineRecords id network.stations (history.filterMap (Addition.edge? id)) network.curves line := by
  cases known : network.lineNamed? name with
  | some other =>
      rw [addLine, known] at found
      exact records.line id line found
  | none =>
      rw [line?_addLine_of_none known] at found
      split at found
      · next new =>
          obtain rfl := Option.some.inj found
          -- Nothing was added yet to a line of this number.
          rw [records.edges_eq_nil new.ge]
          apply LineRecords.empty
          · rintro station member rfl
            exact (records.station_known station member).ne new
          · rintro curve member rfl
            exact (records.curve_known curve member).ne new
      · exact records.line id line found

theorem line_addStation (records : Records history network) {station : Station K}
    (found : (network.addStation station).2.line? id = some line) :
    LineRecords id (network.stations ++ [station]) (history.filterMap (Addition.edge? id))
      network.curves line := by
  rw [line?_addStation] at found
  split at found
  · next own =>
      obtain ⟨before, atBefore, rfl⟩ := Option.map_eq_some_iff.mp found
      exact (records.line id before atBefore).addStation own
  · next foreign => exact (records.line id line found).addForeignStation foreign

theorem line_addEdge (records : Records history network) {other : LineId} {start stop : StationId}
    (found : (network.addEdge other start stop).2.line? id = some line) :
    LineRecords id network.stations
      (history.filterMap (Addition.edge? id) ++
        (if other = id then some (⟨start, stop⟩ : Edge) else none).toList)
      network.curves line := by
  rw [line?_addEdge] at found
  split at found
  · next own =>
      obtain ⟨before, atBefore, rfl⟩ := Option.map_eq_some_iff.mp found
      rw [if_pos own]
      exact (records.line id before atBefore).addEdge start stop
  · next foreign =>
      rw [if_neg foreign, Option.toList_none, List.append_nil]
      exact records.line id line found

theorem line_addCurve (records : Records history network) {curve : Curve}
    (found : (network.addCurve curve).2.line? id = some line) :
    LineRecords id network.stations (history.filterMap (Addition.edge? id))
      (network.curves ++ [curve]) line := by
  have lines : (network.addCurve curve).2.line? id = _ := line?_modifyLine network curve.line id _
  rw [lines] at found
  split at found
  · next own =>
      obtain ⟨before, atBefore, rfl⟩ := Option.map_eq_some_iff.mp found
      exact (records.line id before atBefore).addCurve own
  · next foreign => exact (records.line id line found).addForeignCurve foreign

theorem line_addEndpoint (records : Records history network) {other : LineId}
    {endpoint : Endpoint} (found : (network.addEndpoint other endpoint).line? id = some line) :
    LineRecords id network.stations (history.filterMap (Addition.edge? id)) network.curves line := by
  rw [addEndpoint, line?_modifyLine] at found
  split at found
  · obtain ⟨before, atBefore, rfl⟩ := Option.map_eq_some_iff.mp found
    obtain ⟨station?, edges, curves⟩ := records.line id before atBefore
    exact ⟨station?, edges, curves⟩
  · exact records.line id line found

end Line

theorem add (records : Records history network) {addition : Addition K}
    (takes : network.Takes addition) :
    Records (history ++ [addition]) (addition.apply network) where
  indexed := records.indexed.apply addition
  names := by
    rw [filterMap_concat]
    cases isLine : addition.name? with
    | none =>
        rw [Option.toList_none, List.append_nil, ← records.names]
        exact names_apply_of_none network isLine
    | some name =>
        obtain rfl := Addition.eq_line isLine
        rw [Option.toList_some, firstPerKey_concat, List.map_id', ← records.names]
        exact names_addLine records.indexed name
  stations := by
    rw [filterMap_concat, ← records.stations]
    exact stations_apply network addition
  curves := by
    rw [filterMap_concat, ← records.curves]
    exact curves_apply network addition
  takes other member := by
    rcases List.mem_append.mp member with earlier | new
    · exact (records.takes other earlier).apply addition
    · obtain rfl := List.mem_singleton.mp new
      exact takes.apply other
  line id line found := by
    rw [filterMap_concat, stations_apply, curves_apply]
    cases addition with
    | line name => simpa using records.line_addLine found
    | station new => simpa using records.line_addStation found
    | edge other start stop => simpa using records.line_addEdge found
    | curve new => simpa using records.line_addCurve found
    | endpoint other new => simpa using records.line_addEndpoint found
    | alignment _ | overlap _ => simpa using records.line id line found

end Records

theorem records_ofAdditions {history : List (Addition K)} (inRange : InRange history) :
    Records history (ofAdditions history) := by
  induction history using List.reverseRecOn with
  | nil => exact records_empty
  | append_singleton history addition ih =>
      rw [ofAdditions, List.foldl_append]
      exact (ih inRange.of_append).add inRange.takes

namespace Records

variable {history : List (Addition K)} {network : Network K} {id : LineId} {line : Line}

theorem names_nodup (records : Records history network) :
    (network.lines.map Line.name).Nodup := by
  rw [records.names]
  simpa using nodup_map_firstPerKey (fun name : String => name) (history.filterMap Addition.name?)

theorem hasEdge_iff (records : Records history network) (found : network.line? id = some line)
    {first second : StationId} :
    network.hasEdge id first second = true ↔
      s(first, second) ∈ (history.filterMap (Addition.edge? id)).map Edge.pair := by
  rw [hasEdge, found, Option.map_some, Option.getD_some, line.hasEdge_iff,
    (records.line id line found).edges, mem_map_firstPerKey]

theorem addEdge_iff (records : Records history network) {start stop : StationId}
    (takes : network.Takes (.edge id start stop)) :
    (network.addEdge id start stop).1 = true ↔
      s(start, stop) ∉ (history.filterMap (Addition.edge? id)).map Edge.pair := by
  have bound : id.index < network.lines.length := takes id rfl
  have found : network.line? id = some network.lines[id.index] := List.getElem?_eq_getElem bound
  rw [← records.hasEdge_iff found, addEdge]
  split
  · next has => simp [has]
  · next has => simp [has]

theorem curveBetween?_eq (records : Records history network)
    (found : network.line? id = some line) (first second : StationId) :
    network.curveBetween? id first second = (network.curves.findIdx? fun curve =>
      curve.line == id && curve.joins first second).map CurveId.mk := by
  rw [← find?_findIdxs, curveBetween?, found, Option.bind_eq_bind, Option.bind_some,
    (records.line id line found).curves, List.find?_map]
  congr 2
  funext index
  simp only [Function.comp_apply, curve?]
  cases network.curves[index]? <;> rfl

theorem stationNamed?_eq (records : Records history network)
    (found : network.line? id = some line) (name : String) :
    network.stationNamed? id name = ((network.stations.findIdxs fun station =>
      station.line == id && station.name == name).getLast?).map StationId.mk := by
  rw [stationNamed?, found]
  exact (records.line id line found).station? name

theorem hasEdge_comm (records : Records history network) (found : network.line? id = some line)
    (first second : StationId) :
    network.hasEdge id first second = network.hasEdge id second first := by
  rw [Bool.eq_iff_iff, records.hasEdge_iff found, records.hasEdge_iff found, Sym2.eq_swap]

end Records

/-- A network leads from names and pairs of stations to what was added under them, whatever else was
added before, in between and afterwards. -/
theorem lookups_of_additions {history : List (Addition K)} (inRange : InRange history)
    {network : Network K} (made : ofAdditions history = network) :
    network.lines.map Line.name =
      firstPerKey (fun name => name) (history.filterMap Addition.name?) ∧
    (network.lines.map Line.name).Nodup ∧
    (∀ name id, network.lineNamed? name = some id ↔
      ∃ line, network.line? id = some line ∧ line.name = name) ∧
    network.stations = history.filterMap Addition.station? ∧
    network.curves = history.filterMap Addition.curve? ∧
    ∀ id line, network.line? id = some line →
      (∀ name, network.stationNamed? id name = ((network.stations.findIdxs fun station =>
        station.line == id && station.name == name).getLast?).map StationId.mk) ∧
      line.edges = firstPerKey Edge.pair (history.filterMap (Addition.edge? id)) ∧
      (line.edges.map Edge.pair).Nodup ∧
      (∀ first second, network.hasEdge id first second = network.hasEdge id second first ∧
        (network.hasEdge id first second = true ↔
          s(first, second) ∈ (history.filterMap (Addition.edge? id)).map Edge.pair)) ∧
      (∀ before start stop behind, history = before ++ .edge id start stop :: behind →
        (((ofAdditions before).addEdge id start stop).1 = true ↔
          s(start, stop) ∉ (before.filterMap (Addition.edge? id)).map Edge.pair)) ∧
      line.curves = (network.curves.findIdxs fun curve => curve.line == id).map CurveId.mk ∧
      (line.curves.map CurveId.index).Pairwise (· < ·) ∧
      ∀ first second,
        network.curveBetween? id first second = network.curveBetween? id second first ∧
        network.curveBetween? id first second = (network.curves.findIdx? fun curve =>
          curve.line == id && curve.joins first second).map CurveId.mk := by
  subst made
  have records := records_ofAdditions inRange
  refine ⟨records.names, records.names_nodup, records.indexed,
    records.stations, records.curves, fun id line found => ?_⟩
  have lists := records.line id line found
  refine ⟨records.stationNamed?_eq found, lists.edges, ?_, ?_, ?_, lists.curves, ?_, ?_⟩
  · rw [lists.edges]
    exact nodup_map_firstPerKey _ _
  · exact fun first second => ⟨records.hasEdge_comm found first second, records.hasEdge_iff found⟩
  · intro before start stop behind split
    subst split
    exact (records_ofAdditions inRange.of_append).addEdge_iff inRange.takes
  · rw [lists.curves, List.map_map]
    exact List.pairwise_map.mpr List.pairwise_findIdxs
  · intro first second
    refine ⟨?_, records.curveBetween?_eq found first second⟩
    rw [records.curveBetween?_eq found, records.curveBetween?_eq found]
    simp only [Curve.joins_comm _ first second]

def detour : List (Addition Rat) :=
  [.line "red", .station ⟨"A", ⟨0⟩, .station, "A", ⟨0, 0⟩⟩, .line "blue",
    .station ⟨"B", ⟨0⟩, .station, "B", ⟨9, 9⟩⟩, .edge ⟨0⟩ ⟨1⟩ ⟨0⟩, .line "red",
    .station ⟨"A", ⟨0⟩, .station, "A'", ⟨5, 5⟩⟩, .curve ⟨⟨1⟩, ⟨0⟩, ⟨1⟩, .sharp ⟨.right, .down⟩, 7⟩,
    .edge ⟨0⟩ ⟨2⟩ ⟨2⟩, .edge ⟨0⟩ ⟨0⟩ ⟨1⟩, .curve ⟨⟨0⟩, ⟨1⟩, ⟨0⟩, .sharp ⟨.up, .left⟩, 9⟩,
    .curve ⟨⟨0⟩, ⟨0⟩, ⟨1⟩, .wide ⟨.right, .down⟩, 10⟩, .overlap ⟨⟨1⟩, ⟨0⟩, 11⟩]

theorem lookups_of_additions_detour :
    InRange detour ∧ ∃ line, (ofAdditions detour).line? ⟨0⟩ = some line ∧
      (ofAdditions detour).lineNamed? "blue" = some ⟨1⟩ ∧
      (ofAdditions detour).stationNamed? ⟨0⟩ "A" = some ⟨2⟩ ∧
      line.edges = [⟨⟨1⟩, ⟨0⟩⟩, ⟨⟨2⟩, ⟨2⟩⟩] ∧ line.curves = [⟨1⟩, ⟨2⟩] ∧
      (ofAdditions detour).curveBetween? ⟨0⟩ ⟨0⟩ ⟨1⟩ = some ⟨1⟩ := by
  have inRange : InRange detour := by decide
  have found : ∃ line, (ofAdditions detour).line? ⟨0⟩ = some line := ⟨_, rfl⟩
  obtain ⟨line, found⟩ := found
  obtain ⟨-, -, named, -, -, lists⟩ := lookups_of_additions inRange rfl
  obtain ⟨station, edges, -, -, -, curves, -, joining⟩ := lists ⟨0⟩ line found
  refine ⟨inRange, line, found, (named "blue" ⟨1⟩).mpr ⟨_, rfl, rfl⟩, (station "A").trans ?_,
    edges.trans ?_, curves.trans ?_, (joining ⟨0⟩ ⟨1⟩).2.trans ?_⟩
  all_goals decide

end Network

end TransitMap
