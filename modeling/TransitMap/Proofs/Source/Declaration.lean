import Mathlib.Data.Sym.Sym2
import TransitMap.Proofs.Source.Draft

/-!
What a source declares, read off its statements alone, and the network that holds just that: lines
and stations in the order of their statements, and an edge for each pair of stations that is
connected, where it is connected first.
-/

namespace TransitMap

structure StationDeclaration where
  kind : StationKind
  name : String
  x : Int
  y : Int
  deriving DecidableEq, Repr

/-- Alignment points are named after their line, other stations by the resolver. -/
def StationDeclaration.HasIdentifier (resolver : Resolver) (line : String)
    (declared : StationDeclaration) (identifier : String) : Prop :=
  match declared.kind with
  | .alignmentPoint => identifier = line ++ ":" ++ declared.name
  | .station => resolver line declared.name = some identifier

def neighbours : List String → List (Sym2 String)
  | first :: second :: rest => s(first, second) :: neighbours (second :: rest)
  | _ => []

namespace Command

/-- The name of the line that the statements behind this one stand under. -/
def scope (current : Option String) : Command → Option String
  | line name => some name.value
  | multiLine => none
  | station .. | edges .. | curve .. | endpoint .. | alignment .. | overlap .. => current

def lineName? : Command → Option String
  | line name => some name.value
  | multiLine | station .. | edges .. | curve .. | endpoint .. | alignment .. | overlap .. => none

def station? : Command → Option StationDeclaration
  | station kind name x y => some ⟨kind, name.value, x, y⟩
  | line _ | multiLine | edges .. | curve .. | endpoint .. | alignment .. | overlap .. => none

def connections : Command → List (Sym2 String)
  | edges names => neighbours (names.map Located.value)
  | line _ | multiLine | station .. | curve .. | endpoint .. | alignment .. | overlap .. => []

/-- The command declares nothing: it ends a line or waits for the whole source, or no line is there
that it would add to. -/
def Waits : Option LineId → Command → Prop
  | _, multiLine | _, curve .. | _, alignment _ | _, overlap .. => True
  | none, station .. | none, edges _ | none, endpoint .. => True
  | _, _ => False

end Command

/-- What statements say, each with the name of the line that it stands under. -/
abbrev Declarations := List (Option String × Command)

namespace Declarations

def ofStatements : Option String → List Statement → Except Diagnostic Declarations
  | _, [] => .ok []
  | scope, statement :: rest => do
      let command ← statement.command scope.isSome
      let others ← ofStatements (command.scope scope) rest
      .ok ((scope, command) :: others)

def ofSource (source : List Char) : Except (List Diagnostic) Declarations := do
  let tokens ← tokenize source
  (ofStatements none (Statement.ofTokens tokens)).mapError fun diagnostic => [diagnostic]

def lineNames (declarations : Declarations) : List String :=
  declarations.filterMap fun entry => entry.2.lineName?

def under (declarations : Declarations) (line : String) : List Command :=
  (declarations.filter fun entry => entry.1 == some line).map Prod.snd

def stations (declarations : Declarations) (line : String) : List StationDeclaration :=
  (declarations.under line).filterMap Command.station?

def connections (declarations : Declarations) (line : String) : List (Sym2 String) :=
  (declarations.under line).flatMap Command.connections

@[simp] theorem lineNames_concat (declarations : Declarations) (scope : Option String)
    (command : Command) :
    lineNames (declarations ++ [(scope, command)]) =
      declarations.lineNames ++ command.lineName?.toList := by
  cases named : command.lineName? <;> simp [lineNames, named]

@[simp] theorem stations_concat (declarations : Declarations) (scope : Option String)
    (command : Command) (line : String) :
    stations (declarations ++ [(scope, command)]) line =
      declarations.stations line ++ if scope = some line then command.station?.toList else [] := by
  by_cases isUnder : scope = some line
  · cases declared : command.station? <;> simp [stations, under, isUnder, declared]
  · simp [stations, under, isUnder]

@[simp] theorem connections_concat (declarations : Declarations) (scope : Option String)
    (command : Command) (line : String) :
    connections (declarations ++ [(scope, command)]) line =
      declarations.connections line ++ if scope = some line then command.connections else [] := by
  by_cases isUnder : scope = some line <;> simp [connections, under, isUnder]

end Declarations

private theorem eraseDups_concat [BEq α] [LawfulBEq α] (items : List α) (item : α)
    [Decidable (item ∈ items)] :
    (items ++ [item]).eraseDups =
      if item ∈ items then items.eraseDups else items.eraseDups ++ [item] := by
  rw [List.eraseDups_append]
  split
  · next present => simp [List.removeAll, present]
  · next absent => simp [List.removeAll, absent, List.eraseDups_cons]

namespace Network

variable {K : Type} {network other : Network K} {resolver : Resolver}
  {declarations : Declarations} {id : LineId} {line : Line}

def connection (network : Network K) (edge : Edge) : Sym2 String :=
  s(network.stationName edge.start, network.stationName edge.stop)

theorem Names.stationName {name : String} {station : StationId}
    (names : network.Names id name station) : network.stationName station = name := by
  obtain ⟨found, atStation, -, rfl⟩ := names
  simp [Network.stationName, atStation]

theorem Names.injective (declared : network.Declared) {first second : StationId}
    {name otherName : String} (names : network.Names id name first)
    (otherNames : network.Names id otherName second) : first = second ↔ name = otherName := by
  constructor
  · rintro rfl
    exact names.stationName.symm.trans otherNames.stationName
  · rintro rfl
    have found := declared.stationNamed?_of_names names
    exact Option.some.inj (found.symm.trans (declared.stationNamed?_of_names otherNames))

theorem OnLine.names {station : StationId} (onLine : network.OnLine id station) :
    network.Names id (network.stationName station) station := by
  obtain ⟨found, atStation, isLine⟩ := onLine
  exact ⟨found, atStation, isLine, by simp [Network.stationName, atStation]⟩

theorem lineName_of_line? (found : network.line? id = some line) :
    network.lineName id = line.name := by
  simp [lineName, found]

theorem lineName_congr (same : other.lines.map Line.name = network.lines.map Line.name)
    (id : LineId) : other.lineName id = network.lineName id := by
  simp only [lineName, line?, ← List.getElem?_map, same]

def IsStation [Scalar K] (resolver : Resolver) (network : Network K) (id : LineId)
    (lineName : String) (declared : StationDeclaration) (entry : String × StationId) : Prop :=
  entry.1 = declared.name ∧ ∃ identifier, declared.HasIdentifier resolver lineName identifier ∧
    network.station? entry.2 =
      some ⟨declared.name, id, declared.kind, identifier, .ofGrid declared.x declared.y⟩

theorem IsStation.names [Scalar K] {lineName : String} {declared : StationDeclaration}
    {item : String × StationId} (isStation : IsStation resolver network id lineName declared item) :
    network.Names id declared.name item.2 := by
  obtain ⟨-, identifier, -, found⟩ := isStation
  exact ⟨_, found, rfl, rfl⟩

/-- A line holds what is declared under its name. -/
structure HoldsLine [Scalar K] (resolver : Resolver) (network : Network K)
    (declarations : Declarations) (id : LineId) (line : Line) : Prop where
  stations : List.Forall₂ (IsStation resolver network id line.name)
    (declarations.stations line.name) line.stations
  edges : line.edges.map network.connection = (declarations.connections line.name).eraseDups
  no_curves : line.curves = []

structure Holds [Scalar K] (resolver : Resolver) (network : Network K)
    (declarations : Declarations) : Prop where
  lineNames : network.lines.map Line.name = declarations.lineNames
  line : ∀ id line, network.line? id = some line →
    HoldsLine resolver network declarations id line
  undeclared : ∀ name ∉ declarations.lineNames,
    declarations.stations name = [] ∧ declarations.connections name = []

variable [Scalar K]

theorem holds_empty (resolver : Resolver) : Holds resolver (empty : Network K) [] where
  lineNames := rfl
  line := by simp [empty, line?]
  undeclared _ _ := ⟨rfl, rfl⟩

theorem HoldsLine.mono {more : Declarations} (holds : HoldsLine resolver network declarations id line)
    (declared : network.DeclaredLine id line)
    (kept : ∀ station found, network.station? station = some found →
      other.station? station = some found)
    (stations : more.stations line.name = declarations.stations line.name)
    (connections : more.connections line.name = declarations.connections line.name) :
    HoldsLine resolver other more id line where
  stations := by
    rw [stations]
    refine holds.stations.imp fun station entry ⟨sameName, identifier, identified, found⟩ => ?_
    exact ⟨sameName, identifier, identified, kept _ _ found⟩
  edges := by
    rw [connections]
    have sameName : ∀ {station}, network.OnLine id station →
        other.stationName station = network.stationName station := by
      rintro station ⟨found, atStation, -⟩
      simp [stationName, atStation, kept station found atStation]
    refine Eq.trans (List.map_congr_left fun edge member => ?_) holds.edges
    obtain ⟨startOn, stopOn⟩ := declared.edges edge member
    rw [connection, connection, sameName startOn, sameName stopOn]
  no_curves := holds.no_curves

theorem Holds.concat (holds : Holds resolver network declarations) (declared : network.Declared)
    {scope : Option LineId} {command : Command} (known : Draft.UnderLine network scope)
    (noHeader : command.lineName? = none)
    (names : other.lines.map Line.name = network.lines.map Line.name)
    (kept : ∀ station found, network.station? station = some found →
      other.station? station = some found)
    (others : ∀ id, scope ≠ some id → other.line? id = network.line? id)
    (own : ∀ id before after, scope = some id → network.line? id = some before →
      other.line? id = some after →
      HoldsLine resolver other (declarations ++ [(some before.name, command)]) id after) :
    Holds resolver other (declarations ++ [(scope.map network.lineName, command)]) := by
  have found : ∀ id, scope = some id → ∃ line, network.line? id = some line := fun id isScope =>
    ⟨_, List.getElem?_eq_getElem (known id isScope)⟩
  refine ⟨by simp [noHeader, names, holds.lineNames], fun id line atLine => ?_, ?_⟩
  · by_cases isScope : scope = some id
    · obtain ⟨before, atBefore⟩ := found id isScope
      rw [isScope, Option.map_some, lineName_of_line? atBefore]
      exact own id before line isScope atBefore atLine
    · rw [others id isScope] at atLine
      have apart : scope.map network.lineName ≠ some line.name := by
        intro same
        obtain ⟨under, rfl, sameName⟩ := Option.map_eq_some_iff.mp same
        obtain ⟨before, atBefore⟩ := found under rfl
        rw [lineName_of_line? atBefore] at sameName
        have atUnder := declared.indexed.lineNamed?_name atBefore
        rw [sameName, declared.indexed.lineNamed?_name atLine] at atUnder
        exact isScope atUnder.symm
      exact (holds.line id line atLine).mono (declared.line id line atLine) kept (by simp [apart])
        (by simp [apart])
  · intro name unnamed
    simp only [Declarations.lineNames_concat, noHeader, Option.toList_none,
      List.append_nil] at unnamed
    have apart : scope.map network.lineName ≠ some name := by
      intro isScope
      obtain ⟨id, rfl, rfl⟩ := Option.map_eq_some_iff.mp isScope
      obtain ⟨line, atLine⟩ := found id rfl
      rw [lineName_of_line? atLine, ← holds.lineNames] at unnamed
      exact unnamed (List.mem_map_of_mem (List.mem_of_getElem? atLine))
    simpa [apart] using holds.undeclared name unnamed

theorem Holds.wait (holds : Holds resolver network declarations) (declared : network.Declared)
    {scope : Option LineId} {command : Command} (known : Draft.UnderLine network scope)
    (waits : command.Waits scope) :
    Holds resolver network (declarations ++ [(scope.map network.lineName, command)]) := by
  have noHeader : command.lineName? = none := by
    cases command <;> first | rfl | cases waits
  refine holds.concat declared known noHeader rfl (fun _ _ same => same) (fun _ _ => rfl) ?_
  rintro id before after rfl atBefore atAfter
  obtain rfl := Option.some.inj (atBefore.symm.trans atAfter)
  have nothing : command.station? = none ∧ command.connections = [] := by
    cases command <;> first | exact ⟨rfl, rfl⟩ | cases waits
  exact (holds.line id before atBefore).mono (declared.line id before atBefore)
    (fun _ _ same => same) (by simp [nothing.1]) (by simp [nothing.2])

theorem Holds.addLine (holds : Holds resolver network declarations) (declared : network.Declared)
    (scope : Option String) {name : Located String}
    (missing : network.lineNamed? name.value = none) :
    Holds resolver (network.addLine name.value).2 (declarations ++ [(scope, .line name)]) := by
  have fresh := declared.indexed.notMem_of_eq_none missing
  rw [holds.lineNames] at fresh
  refine ⟨by simp [Network.addLine, missing, holds.lineNames, Line.empty, Command.lineName?],
    fun id line found => ?_, ?_⟩
  · rw [line?_addLine_of_none missing] at found
    split at found
    · obtain rfl := Option.some.inj found
      obtain ⟨noStations, noConnections⟩ := holds.undeclared _ fresh
      exact ⟨by simp [Line.empty, Command.station?, noStations],
        by simp [Line.empty, Command.connections, noConnections], rfl⟩
    · exact (holds.line id line found).mono (declared.line id line found)
        (fun _ _ same => (station?_addLine network name.value _).trans same)
        (by simp [Command.station?]) (by simp [Command.connections])
  · intro other unnamed
    simp only [Declarations.lineNames_concat, List.mem_append, not_or] at unnamed
    simpa [Command.station?, Command.connections] using holds.undeclared other unnamed.1

theorem Holds.addEndpoint (holds : Holds resolver network declarations)
    (declared : network.Declared) (known : Draft.UnderLine network (some id))
    (station kind : Located String) (endpoint : Endpoint) :
    Holds resolver (network.addEndpoint id endpoint)
      (declarations ++ [(some (network.lineName id), .endpoint station kind)]) := by
  refine holds.concat declared known rfl
    (names_modifyLine network id fun _ => rfl) (fun _ _ same => same) ?_ ?_
  · intro other apart
    rw [Network.addEndpoint, line?_modifyLine, if_neg (by rintro rfl; exact apart rfl)]
  · rintro _ before after ⟨⟩ atBefore atAfter
    rw [Network.addEndpoint, line?_modifyLine, if_pos rfl, atBefore, Option.map_some,
      Option.some.injEq] at atAfter
    subst atAfter
    have old : HoldsLine resolver (network.addEndpoint id endpoint)
        (declarations ++ [(some before.name, .endpoint station kind)]) id before :=
      (holds.line id before atBefore).mono (declared.line id before atBefore)
        (fun _ _ same => same) (by simp [Command.station?]) (by simp [Command.connections])
    exact ⟨old.stations, old.edges, old.no_curves⟩

theorem Holds.addStation (holds : Holds resolver network declarations)
    (declared : network.Declared) (known : Draft.UnderLine network (some id)) {kind : StationKind}
    {name : Located String} {x y : Int} {identifier : String}
    (missing : network.stationNamed? id name.value = none)
    (identified : StationDeclaration.HasIdentifier resolver (network.lineName id)
      ⟨kind, name.value, x, y⟩ identifier) :
    Holds resolver (network.addStation ⟨name.value, id, kind, identifier, .ofGrid x y⟩).2
      (declarations ++ [(some (network.lineName id), .station kind name x y)]) := by
  have kept : ∀ station found, network.station? station = some found →
      (network.addStation ⟨name.value, id, kind, identifier, .ofGrid x y⟩).2.station? station =
        some found := by
    intro station found atStation
    rw [station?_addStation, if_neg, atStation]
    exact Nat.ne_of_lt (List.getElem?_eq_some_iff.mp atStation).1
  refine holds.concat declared known rfl (names_lines_addStation network _) kept
    ?_ ?_
  · intro other apart
    rw [line?_addStation, if_neg (by rintro rfl; exact apart rfl)]
  · rintro _ before after ⟨⟩ atBefore atAfter
    rw [line?_addStation, if_pos rfl, atBefore, Option.map_some, Option.some.injEq] at atAfter
    subst atAfter
    have fresh : name.value ∉ before.stations.map Prod.fst := by
      simp only [stationNamed?, atBefore, Option.bind_eq_bind, Option.bind_some] at missing
      exact Entries.notMem_of_lookup_eq_none missing
    have old := (holds.line id before atBefore).mono (declared.line id before atBefore) kept rfl rfl
    refine ⟨?_, by simpa [Command.connections] using old.edges, old.no_curves⟩
    rw [lineName_of_line? atBefore] at identified
    rw [Entries.assign_of_notMem fresh, Declarations.stations_concat, if_pos rfl]
    refine List.rel_append old.stations (.cons ⟨rfl, identifier, identified, ?_⟩ .nil)
    rw [station?_addStation, if_pos rfl]

omit [Scalar K] in
theorem hasEdge_iff (declared : network.Declared) (found : network.line? id = some line)
    {start stop : StationId} {startName stopName : String}
    (isStart : network.Names id startName start) (isStop : network.Names id stopName stop) :
    network.hasEdge id start stop = true ↔
      s(startName, stopName) ∈ line.edges.map network.connection := by
  simp only [hasEdge, found, Option.map_some, Option.getD_some, Line.hasEdge, List.any_eq_true,
    List.mem_map]
  refine exists_congr fun edge => and_congr_right fun member => ?_
  obtain ⟨startOn, stopOn⟩ := (declared.line id line found).edges edge member
  simp only [Edge.connects, Bool.or_eq_true, Bool.and_eq_true, beq_iff_eq, connection, Sym2.eq_iff,
    startOn.names.injective declared isStart, startOn.names.injective declared isStop,
    stopOn.names.injective declared isStart, stopOn.names.injective declared isStop]

omit [Scalar K] in
theorem connection_congr (same : other.stations = network.stations) :
    other.connection = network.connection := by
  funext edge
  simp only [connection, stationName, station?, same]

omit [Scalar K] in
theorem line?_addEdge_of_ne {otherId : LineId} (apart : id ≠ otherId) (start stop : StationId) :
    (network.addEdge id start stop).2.line? otherId = network.line? otherId := by
  rw [Network.addEdge]
  split
  · rfl
  · rw [line?_modifyLine, if_neg apart]

omit [Scalar K] in
theorem edges_addEdge (declared : network.Declared) (found : network.line? id = some line)
    {start stop : StationId} {startName stopName : String}
    (isStart : network.Names id startName start) (isStop : network.Names id stopName stop)
    {pairs : List (Sym2 String)} (edges : line.edges.map network.connection = pairs.eraseDups) :
    ∃ edges, (network.addEdge id start stop).2.line? id = some { line with edges } ∧
      edges.map network.connection = (pairs ++ [s(startName, stopName)]).eraseDups := by
  have known := hasEdge_iff declared found isStart isStop
  rw [edges, List.mem_eraseDups] at known
  rw [Network.addEdge, eraseDups_concat]
  by_cases present : s(startName, stopName) ∈ pairs
  · rw [if_pos (known.mpr present), if_pos present]
    exact ⟨line.edges, found, edges⟩
  · rw [if_neg (mt known.mp present), if_neg present]
    refine ⟨line.edges ++ [⟨start, stop⟩], by rw [line?_modifyLine, if_pos rfl, found]; rfl, ?_⟩
    rw [List.map_append, edges, List.map_singleton, connection, isStart.stationName,
      isStop.stationName]

omit [Scalar K] in
theorem names_connect (network : Network K) (id : LineId) (stations : List StationId) :
    (Draft.connect network id stations).lines.map Line.name = network.lines.map Line.name := by
  fun_induction Draft.connect network id stations with
  | case1 network first second rest ih => exact ih.trans (names_addEdge network id first second)
  | case2 => rfl

omit [Scalar K] in
theorem line?_connect_of_ne {otherId : LineId} (apart : id ≠ otherId) (network : Network K)
    (stations : List StationId) :
    (Draft.connect network id stations).line? otherId = network.line? otherId := by
  fun_induction Draft.connect network id stations with
  | case1 network first second rest ih => exact ih.trans (line?_addEdge_of_ne apart first second)
  | case2 => rfl

omit [Scalar K] in
theorem edges_connect {names : List String} {stations : List StationId}
    {pairs : List (Sym2 String)} (declared : network.Declared)
    (found : network.line? id = some line)
    (named : List.Forall₂ (network.Names id) names stations)
    (edges : line.edges.map network.connection = pairs.eraseDups) :
    ∃ edges, (Draft.connect network id stations).line? id = some { line with edges } ∧
      edges.map network.connection = (pairs ++ neighbours names).eraseDups := by
  fun_induction Draft.connect network id stations generalizing line pairs names with
  | case1 network first second rest ih =>
      obtain _ | ⟨isFirst, _ | ⟨isSecond, others⟩⟩ := named
      obtain ⟨added, atLine, connections⟩ := edges_addEdge declared found isFirst isSecond edges
      have stillDeclared := declared.addEdge isFirst.onLine isSecond.onLine
      have same := stations_addEdge network id first second
      have sameNames : (network.addEdge id first second).2.Names = network.Names := by
        funext line name station
        simp only [Names, station?, same]
      rw [← connection_congr same] at connections ⊢
      rw [← sameNames] at isSecond others
      obtain ⟨all, atLine, connections⟩ := ih stillDeclared atLine
        (.cons isSecond others) connections
      exact ⟨all, atLine, by simpa [neighbours] using connections⟩
  | case2 network stations short =>
      have none : neighbours names = [] := by
        obtain _ | ⟨-, _ | ⟨-, -⟩⟩ := named
        · rfl
        · rfl
        · exact (short _ _ _ rfl).elim
      exact ⟨line.edges, found, by rw [none, List.append_nil, edges]⟩

theorem Holds.connect (holds : Holds resolver network declarations) (declared : network.Declared)
    (known : Draft.UnderLine network (some id)) {names : List (Located String)}
    {stations : List StationId}
    (named : List.Forall₂ (fun name station => network.Names id name.value station) names stations) :
    Holds resolver (Draft.connect network id stations)
      (declarations ++ [(some (network.lineName id), .edges names)]) := by
  have named : List.Forall₂ (network.Names id) (names.map Located.value) stations :=
    List.forall₂_map_left_iff.mpr named
  have onLine : ∀ station ∈ stations, network.OnLine id station := by
    intro station member
    obtain ⟨index, atIndex⟩ := List.mem_iff_getElem?.mp member
    obtain ⟨name, -, names⟩ := Outcome.exists_left_of_forall₂ named atIndex
    exact names.onLine
  have same := (Draft.connected_connect declared onLine).stations
  refine holds.concat declared known rfl (names_connect network id stations)
    (fun _ _ atStation => by rwa [station?, same]) ?_ ?_
  · intro other apart
    exact line?_connect_of_ne (by rintro rfl; exact apart rfl) network stations
  · rintro _ before after ⟨⟩ atBefore atAfter
    have old := holds.line id before atBefore
    obtain ⟨edges, atLine, connections⟩ := edges_connect declared atBefore named old.edges
    obtain rfl := Option.some.inj (atLine.symm.trans atAfter)
    have stillHolds : HoldsLine resolver (Draft.connect network id stations) declarations id before :=
      old.mono (declared.line id before atBefore) (fun _ _ atStation => by rwa [station?, same])
        rfl rfl
    refine ⟨by simpa [Command.station?] using stillHolds.stations, ?_, old.no_curves⟩
    rw [connection_congr same, Declarations.connections_concat, if_pos rfl]
    exact connections

end Network

end TransitMap
