import TransitMap.Proofs.Source.Reading

/-!
What it means for a station to be connected. The complaint about stations that no edge touches lets
an edge from a station to itself pass, which joins it to no other station.
-/

namespace TransitMap

namespace Network

section Edges

variable {K : Type} {network : Network K} {origins : SourceMap} {id : StationId}
  {station : Station K} {line : Line}

/-- An edge of some line leads from the station to another one. -/
def IsJoined (network : Network K) (station : StationId) : Prop :=
  ∃ other, other ≠ station ∧ ∃ line, network.hasEdge line station other = true

theorem hasEdge_eq_true {id : LineId} {start stop : StationId} :
    network.hasEdge id start stop = true ↔ ∃ line, network.line? id = some line ∧
      ∃ edge ∈ line.edges, edge.connects start stop = true := by
  cases found : network.line? id <;> simp [hasEdge, found, Line.hasEdge]

theorem mem_stationIds : id ∈ network.stationIds ↔ id.index < network.stations.length := by
  obtain ⟨index⟩ := id
  simp [stationIds]

theorem exists_hasEdge_of_findings (sound : network.findings origins = [])
    (found : network.station? id = some station) (drawn : station.isAlignmentPoint = false) :
    ∃ line other, network.hasEdge line id other = true := by
  have fine := (List.append_eq_nil_iff.mp sound).1
  rw [List.filterMap_eq_nil_iff] at fine
  have fine := fine id (mem_stationIds.mpr (List.getElem?_eq_some_iff.mp found).1)
  have connected : id ∈ network.connected := by simpa [orphan?, found, drawn] using fine
  obtain ⟨line, isLine, connected⟩ := List.mem_flatMap.mp connected
  obtain ⟨edge, member, touches⟩ := List.mem_flatMap.mp connected
  obtain ⟨index, atIndex⟩ := List.mem_iff_getElem?.mp isLine
  simp only [List.mem_cons, List.not_mem_nil, or_false] at touches
  rcases touches with rfl | rfl
  · refine ⟨⟨index⟩, edge.stop, hasEdge_eq_true.mpr ⟨line, atIndex, edge, member, ?_⟩⟩
    simp [Edge.connects]
  · refine ⟨⟨index⟩, edge.start, hasEdge_eq_true.mpr ⟨line, atIndex, edge, member, ?_⟩⟩
    simp [Edge.connects]

namespace Declared

variable (declared : network.Declared)

include declared

theorem onLine_of_hasEdge {id : LineId} {start stop : StationId}
    (edge : network.hasEdge id start stop = true) :
    network.OnLine id start ∧ network.OnLine id stop := by
  obtain ⟨line, atLine, edge, member, connects⟩ := hasEdge_eq_true.mp edge
  obtain ⟨startOn, stopOn⟩ := (declared.line id line atLine).edges edge member
  simp only [Edge.connects, Bool.or_eq_true, Bool.and_eq_true, beq_iff_eq] at connects
  rcases connects with ⟨rfl, rfl⟩ | ⟨rfl, rfl⟩
  · exact ⟨startOn, stopOn⟩
  · exact ⟨stopOn, startOn⟩

variable (found : network.station? id = some station)
  (atLine : network.line? station.line = some line)

include found atLine

theorem names_of_hasEdge {lineId : LineId} {other : StationId}
    (edge : network.hasEdge lineId id other = true) :
    network.Names station.line (network.stationName other) other ∧
      s(station.name, network.stationName other) ∈ line.edges.map network.connection := by
  obtain ⟨⟨_, atStart, rfl⟩, otherOn⟩ := declared.onLine_of_hasEdge edge
  obtain rfl := Option.some.inj (found.symm.trans atStart)
  have own : network.Names station.line station.name id := ⟨station, found, rfl, rfl⟩
  exact ⟨otherOn.names, (hasEdge_iff declared atLine own otherOn.names).mp edge⟩

theorem exists_hasEdge_of_connection {name : String}
    (connected : s(station.name, name) ∈ line.edges.map network.connection) :
    ∃ other, network.Names station.line name other ∧
      network.hasEdge station.line id other = true := by
  have own : network.Names station.line station.name id := ⟨station, found, rfl, rfl⟩
  obtain ⟨edge, member, same⟩ := List.mem_map.mp connected
  obtain ⟨startOn, stopOn⟩ := (declared.line station.line line atLine).edges edge member
  -- The name is that of an end of the edge, whichever of them the station is.
  have isEnd : name ∈ network.connection edge := same ▸ Sym2.mem_mk_right _ _
  have names : ∃ other, network.Names station.line name other := by
    rcases Sym2.mem_iff.mp isEnd with rfl | rfl
    · exact ⟨edge.start, startOn.names⟩
    · exact ⟨edge.stop, stopOn.names⟩
  obtain ⟨other, names⟩ := names
  exact ⟨other, names, (hasEdge_iff declared atLine own names).mpr connected⟩

theorem isJoined_iff :
    network.IsJoined id ↔ ∃ name, name ≠ station.name ∧
      s(station.name, name) ∈ line.edges.map network.connection := by
  have own : network.Names station.line station.name id := ⟨station, found, rfl, rfl⟩
  constructor
  · rintro ⟨other, apart, lineId, edge⟩
    obtain ⟨names, connected⟩ := declared.names_of_hasEdge found atLine edge
    exact ⟨_, mt (names.injective declared own).mpr apart, connected⟩
  · rintro ⟨name, apart, connected⟩
    obtain ⟨other, names, edge⟩ := declared.exists_hasEdge_of_connection found atLine connected
    exact ⟨other, mt (names.injective declared own).mp apart, station.line, edge⟩

end Declared

end Edges

variable {K : Type} [Scalar K] {network : Network K} {resolver : Resolver} {source : List Char}

/-- An `edges` statement names each station that is drawn next to some station of its line. It is
joined to another station just if a name next to it is not its own. -/
theorem isJoined_iff_of_ofSource (read : ofSource resolver source = .ok network) :
    ∃ declarations, Declarations.ofSource source = .ok declarations ∧
      ∀ id station, network.station? id = some station → station.isAlignmentPoint = false →
        (∃ name, s(station.name, name) ∈
            declarations.connections (network.lineName station.line)) ∧
          (network.IsJoined id ↔ ∃ name, name ≠ station.name ∧
            s(station.name, name) ∈ declarations.connections (network.lineName station.line)) := by
  obtain ⟨declared, -, declarations, said, holds⟩ := holds_of_ofSource read
  obtain ⟨-, -, origins, -, -, sound⟩ := describes_of_ofSource read
  refine ⟨declarations, said, fun id station found drawn => ?_⟩
  obtain ⟨line, atLine, -⟩ := declared.line_of_station found
  have edges : line.edges.map network.connection = (declarations.connections line.name).eraseDups :=
    (holds.line_of_bare atLine).edges
  obtain ⟨lineId, other, edge⟩ := exists_hasEdge_of_findings sound found drawn
  obtain ⟨-, connected⟩ := declared.names_of_hasEdge found atLine edge
  have joined := declared.isJoined_iff found atLine
  simp only [edges, List.mem_eraseDups] at connected joined
  rw [lineName_of_line? atLine]
  exact ⟨⟨_, connected⟩, joined⟩

def islandSource : List Char :=
  ("line red:\nstation \"A\" 0 0\nstation \"B\" 9 9\nstation \"C\" 5 0\n" ++
    "edges \"A, B\"\nedges \"C, C\"\n").toList

def island : Network Rat where
  lines := [⟨"red", [("A", ⟨0⟩), ("B", ⟨1⟩), ("C", ⟨2⟩)], [⟨⟨0⟩, ⟨1⟩⟩, ⟨⟨2⟩, ⟨2⟩⟩], [], []⟩]
  lineNames := [("red", ⟨0⟩)]
  stations := [⟨"A", ⟨0⟩, .station, "A", ⟨0, 0⟩⟩, ⟨"B", ⟨0⟩, .station, "B", ⟨9, 9⟩⟩,
    ⟨"C", ⟨0⟩, .station, "C", ⟨5, 0⟩⟩]
  curves := []
  alignments := []
  overlaps := []

theorem ofSource_island : ofSource (fun _ name => some name) islandSource = .ok island := by
  cbv

theorem isJoined_island : island.IsJoined ⟨0⟩ ∧ ¬ island.IsJoined ⟨2⟩ := by
  obtain ⟨declarations, said, stations⟩ := isJoined_iff_of_ofSource ofSource_island
  have pairs : (Declarations.ofSource islandSource).map (fun said => said.connections "red") =
      .ok [s("A", "B"), s("C", "C")] := by cbv
  rw [said] at pairs
  have pairs : declarations.connections "red" = [s("A", "B"), s("C", "C")] := Except.ok.inj pairs
  obtain ⟨-, joined⟩ := stations ⟨0⟩ ⟨"A", ⟨0⟩, .station, "A", ⟨0, 0⟩⟩ rfl rfl
  obtain ⟨-, alone⟩ := stations ⟨2⟩ ⟨"C", ⟨0⟩, .station, "C", ⟨5, 0⟩⟩ rfl rfl
  have isRed : island.lineName ⟨0⟩ = "red" := rfl
  rw [joined, alone, isRed, pairs]
  simp

/-- A station that is drawn and that no edge joins to another one. -/
theorem not_isJoined_island :
    ofSource (fun _ name => some name) islandSource = .ok island ∧
      ∃ id station, island.station? id = some station ∧ station.isAlignmentPoint = false ∧
        ¬ island.IsJoined id := by
  refine ⟨ofSource_island, ⟨2⟩, ⟨"C", ⟨0⟩, .station, "C", ⟨5, 0⟩⟩, rfl, rfl, ?_⟩
  rintro ⟨other, apart, line, joined⟩
  obtain ⟨red, atLine, edge, member, connects⟩ := hasEdge_eq_true.mp joined
  obtain ⟨bound, rfl⟩ := List.getElem?_eq_some_iff.mp atLine
  obtain ⟨_ | index⟩ := line
  · have isEdge : edge = ⟨⟨0⟩, ⟨1⟩⟩ ∨ edge = ⟨⟨2⟩, ⟨2⟩⟩ := by simpa [island] using member
    rcases isEdge with rfl | rfl
    · simp [Edge.connects] at connects
    · have same : (⟨2⟩ : StationId) = other := by simpa [Edge.connects] using connects
      exact apart same.symm
  · simp [island] at bound

end Network

end TransitMap
