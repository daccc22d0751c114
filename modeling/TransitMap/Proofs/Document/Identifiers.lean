import TransitMap.Proofs.Document.Assembly

/-!
Which stations the edges of a document lead to: those that are listed with their line, and every
alignment point that is connected.
-/

namespace TransitMap

namespace LineEntry

def Lists (entry : LineEntry) (identifier : String) : Prop :=
  identifier ∈ entry.stations.map StationEntry.identifier

def ListsEnds (entry : LineEntry) : Prop :=
  ∀ edge ∈ entry.edges, entry.Lists edge.first ∧ entry.Lists edge.second

end LineEntry

namespace Network

variable {K : Type} [Scalar K] {resolver : Resolver} {network : Network K} {id : LineId}

theorem HoldsLine.connected_iff {declarations : Declarations} {line : Line}
    (held : HoldsLine resolver network declarations id line) {name : String} :
    (∃ pair ∈ declarations.connections line.name, name ∈ pair) ↔ ∃ edge ∈ line.edges,
      name = network.stationName edge.start ∨ name = network.stationName edge.stop := by
  simp only [← List.mem_eraseDups (l := declarations.connections line.name), ← held.edges,
    List.mem_map, exists_exists_and_eq_and, Network.connection, Sym2.mem_iff]

end Network

namespace Assembly

variable {K : Type} [Scalar K] {resolver : Resolver} {assembly : Assembly K} {palette : Palette}
  {id : LineId} {line : Line} {entry : LineEntry} {stations : List StationDeclaration}

section Stations

variable (are : List.Forall₂ (Network.IsStation resolver assembly.network id line.name) stations
  line.stations)

include are

theorem exists_station (declared : assembly.network.Declared)
    (found : assembly.network.line? id = some line) {station : StationId}
    (onLine : assembly.network.OnLine id station) :
    ∃ written ∈ stations, written.name = assembly.network.stationName station := by
  have listed := ((declared.line id line found).mem_stations _ _).mpr onLine.names
  obtain ⟨index, atIndex⟩ := List.mem_iff_getElem?.mp listed
  obtain ⟨written, atWritten, isStation⟩ := Outcome.exists_left_of_forall₂ are atIndex
  exact ⟨written, List.mem_of_getElem? atWritten, isStation.names.stationName.symm⟩

theorem hasIdentifier_of_mem (declared : assembly.network.Declared) {written : StationDeclaration}
    (member : written ∈ stations) {station : StationId}
    (names : assembly.network.Names id written.name station) :
    written.HasIdentifier resolver line.name (assembly.identifier station) := by
  obtain ⟨index, atIndex⟩ := List.mem_iff_getElem?.mp member
  obtain ⟨item, -, isStation⟩ := Outcome.exists_right_of_forall₂ are atIndex
  obtain rfl := declared.names_unique isStation.names names
  obtain ⟨-, identifier, identified, found⟩ := isStation
  simpa [Assembly.identifier, found] using identified

variable (listed : entry.stations = line.stations.filterMap fun item => assembly.station? item.2)

include listed

theorem identifiers_of_stations :
    entry.stations.map (fun station => some station.identifier) =
      (stations.filter fun station => station.kind = .station).map
        fun station => resolver line.name station.name := by
  have related := entries_of_stations are
  rw [← List.forall₂_eq_eq_eq, List.forall₂_map_left_iff, List.forall₂_map_right_iff, listed]
  exact related.flip.imp fun _ _ ⟨_, _, identified, _⟩ => identified.symm

theorem lists_iff (identifier : String) :
    entry.Lists identifier ↔ ∃ station ∈ stations,
      station.kind = .station ∧ resolver line.name station.name = some identifier := by
  have isSome : entry.Lists identifier ↔
      some identifier ∈ entry.stations.map fun station => some station.identifier := by
    simp [LineEntry.Lists]
  rw [isSome, identifiers_of_stations are listed]
  simp [and_assoc]

/-- A connected station is listed unless it is an alignment point whose identifier no other station
has. -/
theorem lists_identifier_iff (declared : assembly.network.Declared)
    (found : assembly.network.line? id = some line) {station : StationId}
    (onLine : assembly.network.OnLine id station) :
    entry.Lists (assembly.identifier station) ↔
      ∀ point ∈ stations, point.kind = .alignmentPoint →
        point.name = assembly.network.stationName station →
          ∃ other ∈ stations, other.kind = .station ∧
            resolver line.name other.name = some (line.name ++ ":" ++ point.name) := by
  have identified {written : StationDeclaration} (member : written ∈ stations)
      (same : written.name = assembly.network.stationName station) :=
    hasIdentifier_of_mem are declared member (same ▸ onLine.names)
  rw [lists_iff are listed]
  constructor
  · -- The station is the point, so that another station has the identifier of the point.
    rintro exists_other point member isPoint same
    have isIdentifier := identified member same
    rw [StationDeclaration.HasIdentifier, isPoint] at isIdentifier
    exact isIdentifier ▸ exists_other
  · intro shared
    obtain ⟨written, member, same⟩ := exists_station are declared found onLine
    have isIdentifier := identified member same
    cases kind : written.kind with
    | station =>
        rw [StationDeclaration.HasIdentifier, kind] at isIdentifier
        exact ⟨written, member, kind, isIdentifier⟩
    | alignmentPoint =>
        rw [StationDeclaration.HasIdentifier, kind] at isIdentifier
        exact isIdentifier ▸ shared written member kind same

end Stations

theorem ends_of_edge (lists : assembly.network.ListsCurves)
    (found : assembly.network.line? id = some line) {edge : Edge} {edgeEntry : EdgeEntry}
    (made : assembly.edge id line edge = .ok edgeEntry) :
    s(edgeEntry.first, edgeEntry.second) =
      s(assembly.identifier edge.start, assembly.identifier edge.stop) := by
  unfold Assembly.edge at made
  split at made
  · next curve path onCurve =>
      obtain ⟨-, -, -, joins, -⟩ := curveOf?_eq_some lists found onCurve
      obtain rfl := Except.ok.inj made
      rcases Curve.joins_iff.mp joins with ⟨same, sameStop⟩ | ⟨same, sameStop⟩
      · rw [Assembly.edgeEntry, same, sameStop]
      · rw [Assembly.edgeEntry, same, sameStop, Sym2.eq_swap]
  · dsimp only at made
    split at made
    · obtain rfl := Except.ok.inj made
      rfl
    · cases made

theorem listsEnds_iff_edges (lists : assembly.network.ListsCurves)
    (found : assembly.network.line? id = some line)
    (edges : List.Forall₂ (fun edge entry => assembly.edge id line edge = .ok entry) line.edges
      entry.edges) :
    entry.ListsEnds ↔ ∀ edge ∈ line.edges,
      entry.Lists (assembly.identifier edge.start) ∧ entry.Lists (assembly.identifier edge.stop) := by
  refine (Outcome.forall_mem_iff_of_forall₂ edges fun edge edgeEntry made => ?_).symm
  have same := ends_of_edge lists found made
  rw [← Sym2.ball (p := entry.Lists), ← Sym2.ball (p := entry.Lists), same]

/-- The document of a source lists the stations of a line that are no alignment points. Every edge of
the line leads from one of them to another just if no alignment point is connected, or none but
those whose identifiers are also given to stations. -/
theorem listsEnds_iff {source : List Char} {network : Network K}
    (read : Network.ofSource resolver source = .ok network) {layout : Layout K}
    {paths : List (Path K)} {settings : Settings K} {document : MapDocument}
    (assembled : Assembly.document ⟨network, layout, paths, settings⟩ palette = .ok document) :
    ∃ declarations, Declarations.ofSource source = .ok declarations ∧
      List.Forall₂ (fun name entry =>
          entry.stations.map (fun station => some station.identifier) =
            ((declarations.stations name).filter fun station => station.kind = .station).map
              (fun station => resolver name station.name) ∧
          (entry.ListsEnds ↔
            ∀ point ∈ declarations.stations name, point.kind = .alignmentPoint →
              (∃ pair ∈ declarations.connections name, point.name ∈ pair) →
                ∃ other ∈ declarations.stations name, other.kind = .station ∧
                  resolver name other.name = some (name ++ ":" ++ point.name)))
        declarations.lineNames document.lines := by
  obtain ⟨declared, lists, declarations, said, holds⟩ := Network.holds_of_ofSource read
  refine ⟨declarations, said, ?_⟩
  rw [← holds.names_of_bare, List.forall₂_map_left_iff]
  refine (lines_of_document assembled).imp fun line entry ⟨id, found, made⟩ => ?_
  obtain ⟨-, listed, edges⟩ := of_line_eq_ok made
  have held := holds.line_of_bare found
  refine ⟨identifiers_of_stations held.stations listed, ?_⟩
  rw [listsEnds_iff_edges lists found edges]
  have listsIdentifier {station : StationId} (onLine : network.OnLine id station) :=
    lists_identifier_iff held.stations listed declared found onLine
  constructor
  · intro ends point member isPoint isConnected
    obtain ⟨edge, isEdge, same | same⟩ := held.connected_iff.mp isConnected
    · obtain ⟨startOn, -⟩ := (declared.line id line found).edges edge isEdge
      exact (listsIdentifier startOn).mp (ends edge isEdge).1 point member isPoint same
    · obtain ⟨-, stopOn⟩ := (declared.line id line found).edges edge isEdge
      exact (listsIdentifier stopOn).mp (ends edge isEdge).2 point member isPoint same
  · intro shared edge isEdge
    obtain ⟨startOn, stopOn⟩ := (declared.line id line found).edges edge isEdge
    constructor
    · refine (listsIdentifier startOn).mpr fun point member isPoint same => ?_
      exact shared point member isPoint (held.connected_iff.mpr ⟨edge, isEdge, .inl same⟩)
    · refine (listsIdentifier stopOn).mpr fun point member isPoint same => ?_
      exact shared point member isPoint (held.connected_iff.mpr ⟨edge, isEdge, .inr same⟩)

def spurSource : List Char :=
  ("line red:\nstation \"A\" 0 0\nstation \"B\" 10 0\nalignment-point \"p\" 20 0\n" ++
    "edges \"A, B, p\"\n").toList

def spur : Network Rat where
  lines := [⟨"red", [("A", ⟨0⟩), ("B", ⟨1⟩), ("p", ⟨2⟩)], [⟨⟨0⟩, ⟨1⟩⟩, ⟨⟨1⟩, ⟨2⟩⟩], [], []⟩]
  lineNames := [("red", ⟨0⟩)]
  stations := [⟨"A", ⟨0⟩, .station, "A", ⟨0, 0⟩⟩, ⟨"B", ⟨0⟩, .station, "B", ⟨10, 0⟩⟩,
    ⟨"p", ⟨0⟩, .alignmentPoint, "red:p", ⟨20, 0⟩⟩]
  curves := []
  alignments := []
  overlaps := []

def spurEntry : LineEntry where
  name := "red"
  color := "#f00"
  layer := 1
  stations := [⟨"A", "A", ⟨0, 0⟩⟩, ⟨"B", "B", ⟨10, 0⟩⟩]
  edges := [⟨"A", "B", [.straight ⟨0, 0⟩ ⟨10, 0⟩]⟩, ⟨"B", "red:p", [.straight ⟨10, 0⟩ ⟨20, 0⟩]⟩]
  endpoints := []

def spurLayout : Layout Rat := ⟨[⟨0, 0⟩, ⟨10, 0⟩, ⟨20, 0⟩], [1]⟩

theorem ofSource_spur : Network.ofSource (fun _ name => some name) spurSource = .ok spur := by
  cbv

theorem document_spur : Assembly.document ⟨spur, spurLayout, [], .default⟩ ⟨[("red", "#f00")]⟩ =
    .ok ⟨50, 70, 50, [spurEntry]⟩ := by
  cbv

theorem spurEntry_misses_end : ¬spurEntry.ListsEnds := by
  intro ends
  have listed := (ends _ (List.mem_cons_of_mem _ List.mem_cons_self)).2
  simp [LineEntry.Lists, spurEntry] at listed

theorem listsEnds_iff_spur :
    ∃ declarations, Declarations.ofSource spurSource = .ok declarations ∧
      ∃ point ∈ declarations.stations "red", point.kind = .alignmentPoint ∧
        (∃ pair ∈ declarations.connections "red", point.name ∈ pair) ∧
        ∀ other ∈ declarations.stations "red", other.kind = .station →
          other.name ≠ "red" ++ ":" ++ point.name := by
  obtain ⟨declarations, said, entries⟩ := listsEnds_iff ofSource_spur document_spur
  refine ⟨declarations, said, ?_⟩
  have names : declarations.lineNames = ["red"] := by
    obtain ⟨-, -, others, saidToo, holds⟩ := Network.holds_of_ofSource ofSource_spur
    obtain rfl := Except.ok.inj (said.symm.trans saidToo)
    exact holds.names_of_bare.symm
  rw [names] at entries
  obtain _ | ⟨⟨-, listsEnds⟩, -⟩ := entries
  have shared := mt listsEnds.mpr spurEntry_misses_end
  push Not at shared
  obtain ⟨point, member, isPoint, isConnected, alone⟩ := shared
  exact ⟨point, member, isPoint, isConnected, fun other isOther isStation same =>
    alone other isOther isStation (congrArg some same)⟩

/-- All stages succeed, and the end of the second edge is not listed. -/
theorem not_listsEnds_spur :
    Network.ofSource (fun _ name => some name) spurSource = .ok spur ∧
      Layout.ofNetwork Placement.solve spur .default = .ok spurLayout ∧
      Synthesis.paths Synthesis.unitPen spur spurLayout = .ok [] ∧
      Assembly.document ⟨spur, spurLayout, [], .default⟩ ⟨[("red", "#f00")]⟩ =
        .ok ⟨50, 70, 50, [spurEntry]⟩ ∧
      ¬spurEntry.ListsEnds := by
  have rounded : Layout.wholeValues Placement.solve spur .default = .ok [0, 0, 10, 0, 20, 0] := by
    cbv
  have laidOut : Layout.ofNetwork Placement.solve spur .default = .ok spurLayout := by
    rw [Layout.ofNetwork, Layout.place, rounded]
    cbv
  exact ⟨ofSource_spur, laidOut, by cbv, document_spur, spurEntry_misses_end⟩

end Assembly

end TransitMap
