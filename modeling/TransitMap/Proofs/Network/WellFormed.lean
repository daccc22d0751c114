import TransitMap.Proofs.Network.Declared

namespace TransitMap

def LegsRun : StationId → StationId → List Leg → Prop
  | start, stop, [] => start = stop
  | start, stop, leg :: rest => leg.start = start ∧ LegsRun leg.stop stop rest

def AlignmentRule.stations : AlignmentRule → List StationId
  | axis _ stations | diagonal _ stations => stations
  | sameStation _ pairs => pairs.flatMap fun pair => [pair.1, pair.2]
  | equal left right => (left ++ right).map Term.station

namespace Network

variable {K : Type} {network : Network K}

def PartsRun (network : Network K) : StationId → StationId → List CurveId → Prop
  | start, stop, [] => start = stop
  | start, stop, part :: rest =>
      ∃ curve, network.curve? part = some curve ∧ curve.start = start ∧
        PartsRun network curve.stop stop rest

/-- The shape of a curve can be drawn as far as the network tells. -/
def ShapeFits (network : Network K) (id : CurveId) (curve : Curve) : Prop :=
  match curve.shape with
  | .sharp bend => bend.kind? = some .sharp
  | .wide bend => bend.kind? = some .wide ∨ bend.kind? = some .straight
  | .parallel target bend =>
      target ≠ id ∧ ∃ followed, network.curve? target = some followed ∧
        ∀ targetBend, followed.shape.bend? = some targetBend → targetBend = bend
  | .sequence legs =>
      legs ≠ [] ∧ LegsRun curve.start curve.stop legs ∧
        ∀ leg ∈ legs, leg.bend.kind?.isSome = true ∧
          network.OnLine curve.line leg.start ∧ network.OnLine curve.line leg.stop
  | .join parts => parts ≠ [] ∧ id ∉ parts ∧ network.PartsRun curve.start curve.stop parts

structure WellFormed (network : Network K) : Prop where
  lineNames_nodup : (network.lines.map Line.name).Nodup
  lineNames_nonempty : "" ∉ network.lines.map Line.name
  lineNamed?_eq_some_iff : ∀ name id, network.lineNamed? name = some id ↔
    ∃ line, network.line? id = some line ∧ line.name = name
  stationNames_distinct : ∀ id other station otherStation,
    network.station? id = some station → network.station? other = some otherStation →
    station.line = otherStation.line → station.name = otherStation.name → id = other
  station_listed : ∀ id station, network.station? id = some station →
    (∃ line, network.line? station.line = some line ∧ (station.name, id) ∈ line.stations) ∧
    ∀ lineId line, network.line? lineId = some line →
      (line.stations.map Prod.snd).count id = if lineId = station.line then 1 else 0
  edges : ∀ id line, network.line? id = some line → ∀ edge ∈ line.edges,
    network.OnLine id edge.start ∧ network.OnLine id edge.stop
  endpoints : ∀ id line, network.line? id = some line → ∀ endpoint ∈ line.endpoints,
    network.OnLine id endpoint.station ∧ endpoint.HalfFits
  curve_ends : ∀ id curve, network.curve? id = some curve →
    network.OnLine curve.line curve.start ∧ network.OnLine curve.line curve.stop
  curve_apart : ∀ id other curve otherCurve,
    network.curve? id = some curve → network.curve? other = some otherCurve →
    curve.line = otherCurve.line → curve.joins otherCurve.start otherCurve.stop = true → id = other
  curve_edge : ∀ id curve, network.curve? id = some curve →
    network.hasEdge curve.line curve.start curve.stop = true ∨
      network.isAlignmentPoint curve.start = true ∨ network.isAlignmentPoint curve.stop = true
  curve_shape : ∀ id curve, network.curve? id = some curve → network.ShapeFits id curve
  alignment_known : ∀ alignment ∈ network.alignments,
    (∀ station ∈ alignment.rule.stations, station.index < network.stations.length) ∧
    ∀ line, alignment.line = some line → line.index < network.lines.length
  overlap_known : ∀ overlap ∈ network.overlaps,
    overlap.above.index < network.lines.length ∧ overlap.below.index < network.lines.length

theorem Declared.names_unique (declared : network.Declared) {line : LineId} {name : String}
    {first second : StationId} (left : network.Names line name first)
    (right : network.Names line name second) : first = second := by
  have found := declared.stationNamed?_of_names left
  rw [declared.stationNamed?_of_names right] at found
  exact (Option.some.inj found).symm

theorem Declared.line_of_station (declared : network.Declared) {id : StationId}
    {station : Station K} (found : network.station? id = some station) :
    ∃ line, network.line? station.line = some line ∧ (station.name, id) ∈ line.stations := by
  have known := declared.line_known id station found
  have atLine : network.line? station.line = some network.lines[station.line.index] :=
    List.getElem?_eq_getElem known
  refine ⟨_, atLine, ?_⟩
  exact ((declared.line _ _ atLine).mem_stations _ _).mpr ⟨station, found, rfl, rfl⟩

private theorem count_snd_eq_one {name : String} {id : StationId}
    {entries : List (String × StationId)} (nodup : (entries.map Prod.fst).Nodup)
    (only : ∀ other, (other, id) ∈ entries ↔ other = name) :
    (entries.map Prod.snd).count id = 1 := by
  obtain ⟨before, after, rfl⟩ := List.append_of_mem ((only name).mpr rfl)
  rw [List.map_append, List.map_cons, List.nodup_append] at nodup
  have absentBefore : id ∉ before.map Prod.snd := by
    intro listed
    obtain ⟨⟨other, _⟩, member, rfl⟩ := List.mem_map.mp listed
    obtain rfl := (only other).mp (List.mem_append_left _ member)
    exact nodup.2.2 _ (List.mem_map_of_mem member) _ List.mem_cons_self rfl
  have absentAfter : id ∉ after.map Prod.snd := by
    intro listed
    obtain ⟨⟨other, _⟩, member, rfl⟩ := List.mem_map.mp listed
    obtain rfl := (only other).mp (List.mem_append_right _ (List.mem_cons_of_mem _ member))
    exact (List.nodup_cons.mp nodup.2.1).1 (List.mem_map_of_mem (f := Prod.fst) member)
  simp [List.count_eq_zero.mpr absentBefore, List.count_eq_zero.mpr absentAfter]

/-- Each station is listed once, on its own line. -/
theorem Declared.count_listed (declared : network.Declared) {id : StationId} {station : Station K}
    (found : network.station? id = some station) {lineId : LineId} {line : Line}
    (atLine : network.line? lineId = some line) :
    (line.stations.map Prod.snd).count id = if lineId = station.line then 1 else 0 := by
  have onLine := declared.line lineId line atLine
  have listed : ∀ name, (name, id) ∈ line.stations ↔ station.line = lineId ∧ name = station.name := by
    intro name
    rw [onLine.mem_stations]
    constructor
    · rintro ⟨other, otherFound, rfl, rfl⟩
      obtain rfl := Option.some.inj (otherFound.symm.trans found)
      exact ⟨rfl, rfl⟩
    · rintro ⟨rfl, rfl⟩
      exact ⟨station, found, rfl, rfl⟩
  split
  · next own =>
      have named : ∀ name, (name, id) ∈ line.stations ↔ name = station.name := by
        intro name
        rw [listed, and_iff_right own.symm]
      exact count_snd_eq_one onLine.names_nodup named
  · next foreign =>
      refine List.count_eq_zero.mpr fun counted => foreign ?_
      obtain ⟨⟨name, _⟩, member, rfl⟩ := List.mem_map.mp counted
      exact ((listed name).mp member).1.symm

end Network

end TransitMap
