import TransitMap.Document.Assembly
import TransitMap.Proofs.Drawing.Synthesis
import TransitMap.Proofs.Layout.Position
import TransitMap.Proofs.Source.Reading

namespace TransitMap

open scoped ExactScalar

def Point.InGrid (point : Point Rat) : Prop :=
  (Scalar.leastGrid ≤ point.x ∧ point.x ≤ Scalar.greatestGrid) ∧
    Scalar.leastGrid ≤ point.y ∧ point.y ≤ Scalar.greatestGrid

theorem Scalar.toGrid_intCast {value : Int} (least : (leastGrid : Rat) ≤ value)
    (greatest : (value : Rat) ≤ greatestGrid) : toGrid (value : Rat) = value := by
  rw [Int.cast_le] at least greatest
  simp only [toGrid, nearest_intCast]
  rw [min_eq_right greatest, max_eq_right least]

theorem Point.ofGrid_toGrid {point : Point Rat} (whole : point.IsWhole) (inGrid : point.InGrid) :
    Point.ofGrid point.toGrid.x point.toGrid.y = point := by
  obtain ⟨x, y⟩ := point
  obtain ⟨⟨x, rfl⟩, ⟨y, rfl⟩⟩ := whole
  obtain ⟨⟨leastX, greatestX⟩, leastY, greatestY⟩ := inGrid
  simp only [toGrid, ofGrid, Scalar.toGrid_intCast leastX greatestX,
    Scalar.toGrid_intCast leastY greatestY, Scalar.ofInt_eq]

def Layout.At (layout : Layout Rat) (station : StationId) (point : Point Int) : Prop :=
  layout.position station = .ofGrid point.x point.y

theorem Layout.at_toGrid {layout : Layout Rat}
    (whole : ∀ position ∈ layout.positions, position.IsWhole)
    (inGrid : ∀ position ∈ layout.positions, position.InGrid) (station : StationId) :
    layout.At station (layout.position station).toGrid := by
  have inside : (layout.position station).InGrid := by
    unfold Layout.position
    rw [List.getD_eq_getElem?_getD]
    cases found : layout.positions[station.index]? with
    | none =>
        have zero : ((default : Point Rat).x = 0) ∧ ((default : Point Rat).y = 0) := ⟨rfl, rfl⟩
        simp [Point.InGrid, zero, Scalar.leastGrid, Scalar.greatestGrid]
    | some position => exact inGrid position (List.mem_of_getElem? found)
  exact (Point.ofGrid_toGrid (isWhole_position whole station) inside).symm

theorem Assembly.isAligned_iff {layout : Layout Rat} {start stop : StationId} {first last : Point Int}
    (atStart : layout.At start first) (atStop : layout.At stop last) :
    isAligned (layout.position start) (layout.position stop) = true ↔
      first.x = last.x ∨ first.y = last.y ∨ |last.x - first.x| = |last.y - first.y| := by
  rw [atStart, atStop]
  simp only [isAligned, Point.sub_x, Point.sub_y, Point.ofGrid, Scalar.ofInt_eq, ExactScalar.abs_eq,
    Scalar.literal_eq, Nat.cast_zero, Bool.or_eq_true, beq_iff_eq, sub_eq_zero, or_assoc]
  norm_cast
  rw [eq_comm, eq_comm (a := last.y)]

namespace Assembly

variable {K : Type} [Scalar K] {assembly : Assembly K} {palette : Palette} {document : MapDocument}
  {id : LineId} {line : Line}

theorem lines_of_document (assembled : assembly.document palette = .ok document) :
    List.Forall₂ (fun line entry => ∃ id, assembly.network.line? id = some line ∧
      assembly.line palette id line = .ok entry) assembly.network.lines document.lines := by
  unfold Assembly.document at assembled
  dsimp only at assembled
  split at assembled
  · cases assembled
  · simp only [Outcome.bind_eq_ok, Except.ok.injEq] at assembled
    obtain ⟨entries, made, rfl⟩ := assembled
    have lines : (assembly.network.lineIds.zip assembly.network.lines).map Prod.snd =
        assembly.network.lines := List.map_snd_zip (by simp [Network.lineIds])
    rw [← lines, List.forall₂_map_left_iff]
    have related := Outcome.mapM_eq_ok.mp made
    refine ((List.forall₂_and_left _ _).mpr ⟨fun _ member => member, related⟩).imp ?_
    rintro ⟨id, line⟩ entry ⟨member, made⟩
    refine ⟨id, ?_, made⟩
    obtain ⟨index, atIndex⟩ := List.mem_iff_getElem?.mp member
    obtain ⟨atId, atLine⟩ := List.getElem?_zip_eq_some.mp atIndex
    have isIndex : id = ⟨index⟩ := by
      rw [Network.lineIds, List.getElem?_map, Option.map_eq_some_iff] at atId
      obtain ⟨other, atOther, rfl⟩ := atId
      rw [(List.getElem?_eq_some_iff.mp atOther).2.symm, List.getElem_range]
    exact isIndex ▸ atLine

theorem of_line_eq_ok {entry : LineEntry} (made : assembly.line palette id line = .ok entry) :
    entry.name = line.name ∧
      entry.stations = line.stations.filterMap (fun item => assembly.station? item.2) ∧
      List.Forall₂ (fun edge entry => assembly.edge id line edge = .ok entry) line.edges
        entry.edges := by
  unfold Assembly.line at made
  split at made
  · simp only [Outcome.bind_eq_ok, Except.ok.injEq] at made
    obtain ⟨edges, made, rfl⟩ := made
    exact ⟨rfl, rfl, Outcome.mapM_eq_ok.mp made⟩
  · cases made

theorem entries_of_stations {resolver : Resolver} {lineName : String}
    {stations : List StationDeclaration} {items : List (String × StationId)}
    (are : List.Forall₂ (Network.IsStation resolver assembly.network id lineName) stations items) :
    List.Forall₂ (fun declared entry => ∃ station,
        assembly.network.Names id declared.name station ∧
        resolver lineName declared.name = some entry.identifier ∧
        entry = ⟨assembly.identifier station, declared.name,
          (assembly.layout.position station).toGrid⟩)
      (stations.filter fun declared => declared.kind = .station)
      (items.filterMap fun item => assembly.station? item.2) := by
  induction are with
  | nil => exact .nil
  | @cons station item stations items isStation _ ih =>
      obtain ⟨itemName, id⟩ := item
      obtain ⟨rfl, identifier, identified, found⟩ := isStation
      obtain ⟨kind, name, x, y⟩ := station
      cases kind with
      | alignmentPoint =>
          have noEntry : assembly.station? id = none := by
            simp [Assembly.station?, found, Station.isAlignmentPoint]
          simpa [noEntry] using ih
      | station =>
          have isEntry : assembly.station? id =
              some ⟨identifier, name, (assembly.layout.position id).toGrid⟩ := by
            simp [Assembly.station?, found, Station.isAlignmentPoint]
          simp only [List.filter_cons, List.filterMap_cons, isEntry, decide_true, if_true]
          refine .cons ⟨id, ⟨_, found, rfl, rfl⟩, identified, ?_⟩ ih
          simp [Assembly.identifier, found]

omit [Scalar K] in
theorem curveOf?_eq_some (lists : assembly.network.ListsCurves)
    (found : assembly.network.line? id = some line) {edge : Edge} {curve : Curve} {path : Path K}
    (onCurve : assembly.curveOf? id edge = some (curve, path)) :
    ∃ curveId, assembly.network.curve? curveId = some curve ∧ curve.line = id ∧
      curve.joins edge.start edge.stop = true ∧ path = assembly.paths.getD curveId.index [] := by
  simp only [curveOf?, Network.curveBetween?, found, Option.bind_eq_bind, Option.bind_some,
    Option.bind_eq_some_iff, Option.some.injEq, Prod.mk.injEq] at onCurve
  obtain ⟨curveId, between, curve, atCurve, rfl, rfl⟩ := onCurve
  obtain ⟨listed, atListed, onLine⟩ := (lists id line found curveId).mp
    (List.mem_of_find?_eq_some between)
  obtain rfl := Option.some.inj (atListed.symm.trans atCurve)
  have joins := List.find?_some between
  rw [atCurve, Option.map_some, Option.getD_some] at joins
  exact ⟨curveId, atCurve, onLine, joins, rfl⟩

omit [Scalar K] in
theorem curveOf?_eq_none (lists : assembly.network.ListsCurves)
    (found : assembly.network.line? id = some line) {edge : Edge}
    (noCurve : assembly.curveOf? id edge = none) {curveId : CurveId} {curve : Curve}
    (atCurve : assembly.network.curve? curveId = some curve) (onLine : curve.line = id) :
    curve.joins edge.start edge.stop = false := by
  by_contra joins
  have listed := (lists id line found curveId).mpr ⟨curve, atCurve, onLine⟩
  have between : assembly.network.curveBetween? id edge.start edge.stop ≠ none := by
    simp only [Network.curveBetween?, found, Option.bind_eq_bind, Option.bind_some, ne_eq,
      List.find?_eq_none, not_forall]
    exact ⟨curveId, listed, by simpa [atCurve] using joins⟩
  obtain ⟨other, between⟩ := Option.ne_none_iff_exists'.mp between
  obtain ⟨listed, atListed, -⟩ := (lists id line found other).mp (by
    simp only [Network.curveBetween?, found, Option.bind_eq_bind, Option.bind_some] at between
    exact List.mem_of_find?_eq_some between)
  simp [curveOf?, between, atListed] at noCurve

end Assembly

theorem Curve.joins_iff {curve : Curve} {first second : StationId} :
    curve.joins first second = true ↔
      curve.start = first ∧ curve.stop = second ∨ curve.start = second ∧ curve.stop = first := by
  simp [Curve.joins]

namespace Assembly

structure ShowsStation (resolver : Resolver) (assembly : Assembly Rat) (id : LineId) (line : String)
    (declared : StationDeclaration) (entry : StationEntry) : Prop where
  name : entry.name = declared.name
  identifier : resolver line declared.name = some entry.identifier
  station : ∃ station, assembly.network.stationNamed? id declared.name = some station ∧
    assembly.identifier station = entry.identifier ∧ assembly.layout.At station entry.position

/-- The entry of an edge leads from one station to the other, along the curve between them or
straight. -/
structure ShowsEdge (assembly : Assembly Rat) (id : LineId) (start stop : StationId)
    (entry : EdgeEntry) : Prop where
  onLine : assembly.network.OnLine id start ∧ assembly.network.OnLine id stop
  first : entry.first = assembly.identifier start
  second : entry.second = assembly.identifier stop
  starts : ∃ segment, entry.path.head? = some segment ∧ assembly.layout.At start segment.start
  stops : ∃ segment, entry.path.getLast? = some segment ∧ assembly.layout.At stop segment.stop
  joined : entry.path.IsChain fun before after => before.stop = after.start
  curve : ∀ curveId curve, assembly.network.curve? curveId = some curve → curve.line = id →
    curve.joins start stop = true →
      curve.start = start ∧ curve.stop = stop ∧ ∃ path, assembly.paths[curveId.index]? = some path ∧
        entry.path = path.map (Segment.map Point.toGrid)
  straight : (∀ curve ∈ assembly.network.curves, curve.line = id → curve.joins start stop = false) →
    ∃ first last, entry.path = [.straight first last] ∧
      (first.x = last.x ∨ first.y = last.y ∨ |last.x - first.x| = |last.y - first.y|)

/-- The entry of a line has the stations and the edges that are declared under its name. -/
structure ShowsLine (resolver : Resolver) (assembly : Assembly Rat) (declarations : Declarations)
    (id : LineId) (name : String) (entry : LineEntry) : Prop where
  named : assembly.network.lineNamed? name = some id
  entry_name : entry.name = name
  stations : List.Forall₂ (ShowsStation resolver assembly id name)
    ((declarations.stations name).filter fun declared => declared.kind = .station) entry.stations
  edges : List.Forall₂ (fun pair entry => ∃ start stop,
      s(assembly.network.stationName start, assembly.network.stationName stop) = pair ∧
        ShowsEdge assembly id start stop entry)
    (declarations.connections name).eraseDups entry.edges

section Entries

variable {resolver : Resolver} {assembly : Assembly Rat} {id : LineId} {line : Line}
  (whole : ∀ position ∈ assembly.layout.positions, position.IsWhole)
  (inGrid : ∀ position ∈ assembly.layout.positions, position.InGrid)

include whole inGrid

theorem showsStations (declared : assembly.network.Declared) {lineName : String}
    {stations : List StationDeclaration} {items : List (String × StationId)}
    (are : List.Forall₂ (Network.IsStation resolver assembly.network id lineName) stations items) :
    List.Forall₂ (ShowsStation resolver assembly id lineName)
      (stations.filter fun declared => declared.kind = .station)
      (items.filterMap fun item => assembly.station? item.2) := by
  refine (entries_of_stations are).imp ?_
  rintro station entry ⟨stationId, names, identified, rfl⟩
  exact ⟨rfl, identified, stationId, declared.stationNamed?_of_names names, rfl,
    Layout.at_toGrid whole inGrid stationId⟩

theorem showsEdge_straight {edge : Edge} {entry : EdgeEntry}
    (lists : assembly.network.ListsCurves) (found : assembly.network.line? id = some line)
    (onLine : assembly.network.OnLine id edge.start ∧ assembly.network.OnLine id edge.stop)
    (noCurve : assembly.curveOf? id edge = none)
    (made : assembly.edge id line edge = .ok entry) :
    ShowsEdge assembly id edge.start edge.stop entry := by
  have atStart := Layout.at_toGrid whole inGrid edge.start
  have atStop := Layout.at_toGrid whole inGrid edge.stop
  simp only [Assembly.edge, noCurve] at made
  split at made
  · next aligned =>
      obtain rfl := Except.ok.inj made
      refine ⟨onLine, rfl, rfl, ⟨_, rfl, atStart⟩, ⟨_, rfl, atStop⟩, .singleton _, ?_, fun _ => ?_⟩
      · intro curveId curve atCurve isOwn joins
        rw [curveOf?_eq_none lists found noCurve atCurve isOwn] at joins
        cases joins
      · exact ⟨_, _, rfl, (isAligned_iff atStart atStop).mp aligned⟩
  · cases made

theorem showsEdge_curve {pen : Pen Rat} {edge : Edge} {entry : EdgeEntry}
    (wellFormed : assembly.network.WellFormed) (lists : assembly.network.ListsCurves)
    (onGrid : pen.outlines.IsWhole)
    (drawn : Synthesis.paths pen assembly.network assembly.layout = .ok assembly.paths)
    (found : assembly.network.line? id = some line) {curve : Curve} {path : Path Rat}
    (onCurve : assembly.curveOf? id edge = some (curve, path))
    (made : assembly.edge id line edge = .ok entry) :
    curve.joins edge.start edge.stop = true ∧
      ShowsEdge assembly id curve.start curve.stop entry := by
  obtain ⟨curveId, atCurve, rfl, joins, isPath⟩ := curveOf?_eq_some lists found onCurve
  obtain ⟨drawnPath, atPath, connects⟩ :=
    Synthesis.connects_of_paths onGrid whole wellFormed drawn atCurve
  obtain rfl : path = drawnPath := by rw [isPath, List.getD_eq_getElem?_getD, atPath]; rfl
  simp only [Assembly.edge, onCurve] at made
  obtain rfl := Except.ok.inj made
  have runs := connects.runs.map Point.toGrid
  have nonempty : path.map (Segment.map Point.toGrid) ≠ [] := by simpa using connects.nonempty
  have atStart := Layout.at_toGrid whole inGrid curve.start
  have atStop := Layout.at_toGrid whole inGrid curve.stop
  obtain ⟨first, isFirst, starts⟩ := Option.map_eq_some_iff.mp (runs.head?_start nonempty)
  obtain ⟨last, isLast, stops⟩ := Option.map_eq_some_iff.mp (runs.getLast?_stop nonempty)
  rw [← starts] at atStart
  rw [← stops] at atStop
  refine ⟨joins, wellFormed.curve_ends curveId curve atCurve, rfl, rfl, ⟨first, isFirst, atStart⟩,
    ⟨last, isLast, atStop⟩, runs.isChain, ?_, fun noCurve => ?_⟩
  · -- No other curve of the line joins these stations.
    intro otherId other atOther sameLine sameEnds
    obtain rfl := wellFormed.curve_apart otherId curveId other curve atOther atCurve sameLine sameEnds
    obtain rfl := Option.some.inj (atCurve.symm.trans atOther)
    exact ⟨rfl, rfl, path, atPath, rfl⟩
  · have none := noCurve curve (List.mem_of_getElem? atCurve) rfl
    rw [Curve.joins_iff.mpr (.inl ⟨rfl, rfl⟩)] at none
    cases none

theorem showsEdge {pen : Pen Rat} {edge : Edge} {entry : EdgeEntry}
    (wellFormed : assembly.network.WellFormed) (lists : assembly.network.ListsCurves)
    (onGrid : pen.outlines.IsWhole)
    (drawn : Synthesis.paths pen assembly.network assembly.layout = .ok assembly.paths)
    (found : assembly.network.line? id = some line) (member : edge ∈ line.edges)
    (made : assembly.edge id line edge = .ok entry) :
    ∃ start stop, s(assembly.network.stationName start, assembly.network.stationName stop) =
      assembly.network.connection edge ∧ ShowsEdge assembly id start stop entry := by
  cases onCurve : assembly.curveOf? id edge with
  | none =>
      have onLine := wellFormed.edges id line found edge member
      exact ⟨edge.start, edge.stop, rfl,
        showsEdge_straight whole inGrid lists found onLine onCurve made⟩
  | some drawnCurve =>
      obtain ⟨curve, path⟩ := drawnCurve
      obtain ⟨joins, shows⟩ :=
        showsEdge_curve whole inGrid wellFormed lists onGrid drawn found onCurve made
      -- The entry runs as the curve does, which may be declared against the edge.
      refine ⟨curve.start, curve.stop, ?_, shows⟩
      rcases Curve.joins_iff.mp joins with ⟨same, sameStop⟩ | ⟨same, sameStop⟩
      · rw [same, sameStop, Network.connection]
      · rw [same, sameStop, Network.connection, Sym2.eq_swap]

end Entries

/-- The document of a source has an entry for each line, in order of declaration. It shows the
stations of the line that are drawn, where the layout has them, and each pair of connected stations
once: along the path of the curve between them, or straight along an axis or a diagonal if there is
none. -/
theorem document_shows_declarations {resolver : Resolver} {source : List Char}
    {network : Network Rat} (read : Network.ofSource resolver source = .ok network)
    {placer : Placer Rat} {settings : Settings Rat} {layout : Layout Rat}
    (laidOut : Layout.ofNetwork placer network settings = .ok layout)
    (inGrid : ∀ position ∈ layout.positions, position.InGrid)
    {templates : Templates Rat} {nearest : Cubic Rat → Point Rat → Rat}
    {distance : Point Rat → Point Rat → Rat} {fitter : OffsetFitter Rat} {paths : List (Path Rat)}
    (drawn : Synthesis.paths (.ofSettings settings templates nearest distance fitter) network
      layout = .ok paths)
    {palette : Palette} {document : MapDocument}
    (assembled : Assembly.document ⟨network, layout, paths, settings⟩ palette = .ok document) :
    ∃ declarations, Declarations.ofSource source = .ok declarations ∧
      declarations.lineNames.Nodup ∧
      List.Forall₂ (fun name entry => ∃ id,
          ShowsLine resolver ⟨network, layout, paths, settings⟩ declarations id name entry)
        declarations.lineNames document.lines := by
  have whole := Layout.isWhole_of_ofNetwork laidOut
  obtain ⟨declared, lists, declarations, said, holds⟩ := Network.holds_of_ofSource read
  obtain ⟨draft, places, origins, isSound, describes, noFindings⟩ :=
    Network.describes_of_ofSource read
  have wellFormed := describes.wellFormed isSound noFindings
  refine ⟨declarations, said, holds.names_of_bare ▸ wellFormed.lineNames_nodup, ?_⟩
  rw [← holds.names_of_bare, List.forall₂_map_left_iff]
  refine (lines_of_document assembled).imp fun line entry ⟨id, found, made⟩ => ⟨id, ?_⟩
  obtain ⟨sameName, stations, edges⟩ := of_line_eq_ok made
  have held := holds.line_of_bare found
  refine ⟨declared.indexed.lineNamed?_name found, sameName,
    stations ▸ showsStations whole inGrid declared held.stations, ?_⟩
  rw [← held.edges, List.forall₂_map_left_iff]
  refine ((List.forall₂_and_left _ _).mpr ⟨fun _ member => member, edges⟩).imp ?_
  rintro edge edgeEntry ⟨member, made⟩
  exact showsEdge whole inGrid wellFormed lists (templates.isWhole_outlines _) drawn found member made

def hookSource : List Char :=
  ("line red:\nstation \"A\" 0 0\nstation \"B\" 9 9\nalignment-point \"p\" 4 2\nstation \"C\" 0 9\n" ++
    "edges \"A, B, A, C\"\ncurve \"B, A\" up,left\n").toList

def hook : Network Rat where
  lines := [⟨"red", [("A", ⟨0⟩), ("B", ⟨1⟩), ("p", ⟨2⟩), ("C", ⟨3⟩)],
    [⟨⟨0⟩, ⟨1⟩⟩, ⟨⟨0⟩, ⟨3⟩⟩], [⟨0⟩], []⟩]
  lineNames := [("red", ⟨0⟩)]
  stations := [⟨"A", ⟨0⟩, .station, "A", ⟨0, 0⟩⟩, ⟨"B", ⟨0⟩, .station, "B", ⟨9, 9⟩⟩,
    ⟨"p", ⟨0⟩, .alignmentPoint, "red:p", ⟨4, 2⟩⟩, ⟨"C", ⟨0⟩, .station, "C", ⟨0, 9⟩⟩]
  curves := [⟨⟨0⟩, ⟨1⟩, ⟨0⟩, .sharp ⟨.up, .left⟩, 7⟩]
  alignments := []
  overlaps := []

def hookLayout : Layout Rat := ⟨[⟨0, 0⟩, ⟨9, 9⟩, ⟨4, 2⟩, ⟨0, 9⟩], [1]⟩

def hookPath : Path Rat :=
  [.straight ⟨9, 9⟩ ⟨9, 5⟩, .curved ⟨⟨9, 5⟩, ⟨9, 0⟩, ⟨9, 0⟩, ⟨4, 0⟩⟩, .straight ⟨4, 0⟩ ⟨0, 0⟩]

def hookEntry : LineEntry where
  name := "red"
  color := "#f00"
  layer := 1
  stations := [⟨"A", "A", ⟨0, 0⟩⟩, ⟨"B", "B", ⟨9, 9⟩⟩, ⟨"C", "C", ⟨0, 9⟩⟩]
  edges := [⟨"B", "A", [.straight ⟨9, 9⟩ ⟨9, 5⟩, .curved ⟨⟨9, 5⟩, ⟨9, 0⟩, ⟨9, 0⟩, ⟨4, 0⟩⟩,
    .straight ⟨4, 0⟩ ⟨0, 0⟩]⟩, ⟨"A", "C", [.straight ⟨0, 0⟩ ⟨0, 9⟩]⟩]
  endpoints := []

theorem document_shows_declarations_hook :
    Assembly.document ⟨hook, hookLayout, [hookPath], .default⟩ ⟨[("red", "#f00")]⟩ =
        .ok ⟨50, 59, 59, [hookEntry]⟩ ∧
      ∃ declarations, Declarations.ofSource hookSource = .ok declarations ∧ ∃ id,
        ShowsLine (fun _ name => some name) ⟨hook, hookLayout, [hookPath], .default⟩ declarations id
          "red" hookEntry := by
  have read : Network.ofSource (fun _ name => some name) hookSource = .ok hook := by cbv
  have rounded : Layout.wholeValues Placement.solve hook .default = .ok [0, 0, 9, 9, 4, 2, 0, 9] := by
    cbv
  have laidOut : Layout.ofNetwork Placement.solve hook .default = .ok hookLayout := by
    rw [Layout.ofNetwork, Layout.place, rounded]
    cbv
  have inGrid : ∀ position ∈ hookLayout.positions, position.InGrid := by
    intro position member
    simp only [hookLayout, List.mem_cons, List.not_mem_nil, or_false] at member
    rcases member with rfl | rfl | rfl | rfl <;>
      norm_num [Point.InGrid, Scalar.leastGrid, Scalar.greatestGrid]
  have drawn : Synthesis.paths Synthesis.unitPen hook hookLayout = .ok [hookPath] := by cbv
  have assembled : Assembly.document ⟨hook, hookLayout, [hookPath], .default⟩ ⟨[("red", "#f00")]⟩ =
      .ok ⟨50, 59, 59, [hookEntry]⟩ := by cbv
  obtain ⟨declarations, said, -, shows⟩ :=
    document_shows_declarations read laidOut inGrid drawn assembled
  refine ⟨assembled, declarations, said, ?_⟩
  generalize declarations.lineNames = names at shows
  obtain _ | ⟨⟨id, line⟩, -⟩ := shows
  obtain rfl := line.entry_name
  exact ⟨id, line⟩

end Assembly

end TransitMap
