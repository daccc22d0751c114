import TransitMap.Proofs.Outcome
import TransitMap.Source.Command

namespace TransitMap

def ShapeRef.Fits (start stop : String) : ShapeRef → Prop
  | .bend turn | .parallel turn _ => turn.kind?.isSome = true
  | .sequence stations bends =>
      bends ≠ [] ∧ stations.length = bends.length + 1 ∧
        stations.head?.map Located.value = some start ∧
        stations.getLast?.map Located.value = some stop ∧
        ∀ bend ∈ bends, bend.kind?.isSome = true
  | .join parts => parts ≠ []

def Command.Fits : Command → Prop
  | line name => name.value ≠ ""
  | curve start stop shape => shape.Fits start.value stop.value
  | _ => True

namespace Statement

variable {statement : Statement}

theorem isSome_kind?_of_bendOf {text : List Char} {bend : Bend}
    (read : bendOf text = .ok bend) : bend.kind?.isSome = true := by
  unfold bendOf at read
  split at read
  · simp only [Outcome.bind_eq_ok] at read
    obtain ⟨departure, -, arrival, -, read⟩ := read
    split at read
    · next drawable =>
        obtain rfl := Except.ok.inj read
        exact drawable
    · cases read
  · cases read

theorem isSome_kind?_of_readBend {text : List Char} {span : Span} {bend : Bend}
    (read : readBend statement text span = .ok bend) : bend.kind?.isSome = true := by
  unfold readBend at read
  split at read
  · next bendRead =>
      obtain rfl := Except.ok.inj read
      exact isSome_kind?_of_bendOf bendRead
  · cases read

theorem fits_of_header {command : Command} (read : header statement = .ok command) :
    command.Fits := by
  unfold header at read
  split at read
  · simp only [Outcome.bind_eq_ok] at read
    obtain ⟨name, -, read⟩ := read
    generalize (if name.text.getLast? = some ':' then name.text.dropLast else name.text) = text
      at read
    split at read
    · cases read
    · next nonempty =>
        obtain rfl := Except.ok.inj read
        rw [List.isEmpty_iff] at nonempty
        simpa [Command.Fits] using nonempty
  · cases read

theorem le_length_of_names {argument : Argument} {least : Nat} {usage : Usage}
    {items : List (Located (List Char))}
    (read : statement.names argument least usage = .ok items) : least ≤ items.length := by
  simp only [names, Outcome.bind_eq_ok] at read
  obtain ⟨quoted, -, read⟩ := read
  split at read
  · cases read
  · split at read
    · cases read
    · next enough =>
        obtain rfl := Except.ok.inj read
        exact Nat.le_of_not_lt enough

/-- A bend for each two successive names, the first and the last of them as given. -/
theorem fits_of_sequenceShape {start stop : Located String} {stations shapes : Argument}
    {shape : ShapeRef} (read : sequenceShape statement start stop stations shapes = .ok shape) :
    shape.Fits start.value stop.value := by
  simp only [sequenceShape, Outcome.bind_eq_ok] at read
  obtain ⟨names, namesRead, quoted, -, bends, bendsRead, read⟩ := read
  split at read
  · cases read
  · next sameLength =>
      split at read
      · cases read
      · next sameEnds =>
          obtain rfl := Except.ok.inj read
          rw [not_or, not_not, not_not] at sameEnds
          rw [not_not] at sameLength
          have enough := le_length_of_names namesRead
          refine ⟨?_, by rw [List.length_map, sameLength], ?_, ?_, ?_⟩
          · rintro rfl
            rw [sameLength] at enough
            exact absurd enough (by decide)
          · rw [List.head?_map, Option.map_map]
            exact sameEnds.1
          · rw [List.getLast?_map, Option.map_map]
            exact sameEnds.2
          · intro bend member
            obtain ⟨item, -, bendRead⟩ :=
              Outcome.exists_of_mem_mapM bendsRead member
            exact isSome_kind?_of_readBend bendRead

theorem fits_of_sequenceOf {start stop : Located String} {operands : List Argument}
    {shape : ShapeRef} (read : sequenceOf statement start stop operands = .ok shape) :
    shape.Fits start.value stop.value := by
  unfold sequenceOf at read
  split at read
  · exact fits_of_sequenceShape read
  · cases read

theorem fits_of_joinOf {start stop : String} {parts : List Argument} {shape : ShapeRef}
    (read : joinOf statement parts = .ok shape) : shape.Fits start stop := by
  unfold joinOf at read
  split at read
  · cases read
  · next nonempty =>
      obtain ⟨curves, partsRead, rfl⟩ := Outcome.map_eq_ok.mp read
      rintro rfl
      rw [List.isEmpty_iff] at nonempty
      exact nonempty (List.length_eq_zero_iff.mp (Outcome.length_eq_of_mapM partsRead))

theorem fits_of_specialShape {start stop : Located String} {operands : List Argument}
    {shape : ShapeRef} (read : specialShape statement start stop operands = .ok shape) :
    shape.Fits start.value stop.value := by
  unfold specialShape at read
  split at read
  · exact fits_of_sequenceOf read
  · split at read
    · exact fits_of_joinOf read
    · split at read
      · cases read
      · exact fits_of_sequenceOf read

theorem fits_of_curveOf {command : Command} (read : curveOf statement = .ok command) :
    command.Fits := by
  unfold curveOf at read
  split at read
  · simp only [Outcome.bind_eq_ok] at read
    obtain ⟨⟨start, stop⟩, -, keyword, -, read⟩ := read
    split at read
    · simp only [Outcome.bind_eq_ok, Except.ok.injEq] at read
      obtain ⟨shape, shapeRead, rfl⟩ := read
      exact fits_of_specialShape shapeRead
    · simp only [Outcome.bind_eq_ok] at read
      obtain ⟨bend, bendRead, read⟩ := read
      split at read
      · obtain rfl := Except.ok.inj read
        exact isSome_kind?_of_readBend bendRead
      · simp only [Outcome.bind_eq_ok, Except.ok.injEq] at read
        obtain ⟨target, -, rfl⟩ := read
        exact isSome_kind?_of_readBend bendRead
  · cases read

theorem eq_station_of_stationOf {kind : StationKind} {command : Command}
    (read : stationOf statement kind = .ok command) :
    ∃ name x y, command = .station kind name x y := by
  unfold stationOf at read
  split at read
  · simp only [Outcome.bind_eq_ok] at read
    obtain ⟨name, -, x, -, y, -, read⟩ := read
    split at read
    · cases read
    · exact ⟨name.located, x, y, (Except.ok.inj read).symm⟩
  · cases read

theorem eq_edges_of_edgesOf {command : Command} (read : edgesOf statement = .ok command) :
    ∃ names, command = .edges names := by
  unfold edgesOf at read
  split at read
  · simp only [Outcome.bind_eq_ok, Except.ok.injEq] at read
    obtain ⟨items, -, rfl⟩ := read
    exact ⟨_, rfl⟩
  · cases read

theorem eq_endpoint_of_endpointOf {command : Command} (read : endpointOf statement = .ok command) :
    ∃ station kind, command = .endpoint station kind := by
  unfold endpointOf at read
  split at read
  · simp only [Outcome.bind_eq_ok, Except.ok.injEq] at read
    obtain ⟨station, -, kind, -, rfl⟩ := read
    exact ⟨_, _, rfl⟩
  · cases read

theorem name_of_splitTerm? {text name : List Char} {component : Component}
    (split : splitTerm? text = some (name, component)) :
    ∃ dot, Text.openDot? text = some dot ∧ Text.trimStop (text.take dot) = name ∧ name ≠ [] := by
  obtain ⟨dot, isDot, split⟩ := Option.bind_eq_some_iff.mp split
  refine ⟨dot, isDot, ?_⟩
  split at split
  all_goals
    simp only [Option.bind_eq_bind, Option.bind_some, Option.bind_none,
      Option.ite_none_left_eq_some, Option.some.injEq, Prod.mk.injEq, reduceCtorEq,
      List.isEmpty_iff] at split
  · obtain ⟨nonempty, rfl, -⟩ := split
    exact ⟨rfl, nonempty⟩
  · obtain ⟨nonempty, rfl, -⟩ := split
    exact ⟨rfl, nonempty⟩

theorem eq_alignment_of_listAlignment {inside : Bool} {rule : List StationRef → AlignmentRef}
    {command : Command} (read : listAlignment inside statement rule = .ok command) :
    ∃ rule, command = .alignment rule := by
  unfold listAlignment at read
  split at read
  · simp only [Outcome.bind_eq_ok, Except.ok.injEq] at read
    obtain ⟨items, -, stations, -, rfl⟩ := read
    exact ⟨_, rfl⟩
  · cases read

theorem eq_alignment_of_sameStationOf {command : Command}
    (read : sameStationOf statement = .ok command) : ∃ rule, command = .alignment rule := by
  unfold sameStationOf at read
  split at read
  · simp only [Outcome.bind_eq_ok, Except.ok.injEq] at read
    obtain ⟨_, -, relation, -, _, -, first, -, second, -, rfl⟩ := read
    exact ⟨_, rfl⟩
  · simp only [Outcome.bind_eq_ok, Except.ok.injEq] at read
    obtain ⟨first, -, relation, -, second, -, items, -, rfl⟩ := read
    exact ⟨_, rfl⟩
  · cases read

theorem eq_overlap_of_overlapOf {command : Command} (read : overlapOf statement = .ok command) :
    ∃ above below, command = .overlap above below := by
  unfold overlapOf at read
  split at read
  · simp only [Outcome.bind_eq_ok] at read
    obtain ⟨first, -, relation, -, second, -, read⟩ := read
    split at read
    · exact ⟨_, _, (Except.ok.inj read).symm⟩
    · exact ⟨_, _, (Except.ok.inj read).symm⟩
    · cases read
  · cases read

theorem of_underLine {inside : Bool} {read : Except Diagnostic Command} {command : Command}
    (isRead : underLine inside statement read = .ok command) :
    inside = true ∧ read = .ok command := by
  unfold underLine at isRead
  split at isRead
  · next isInside => exact ⟨isInside, isRead⟩
  · cases isRead

theorem fits_of_command {inside : Bool} {command : Command}
    (read : statement.command inside = .ok command) : command.Fits := by
  have fits_of_station : ∀ kind,
      underLine inside statement (stationOf statement kind) = .ok command → command.Fits := by
    intro kind read
    obtain ⟨name, x, y, rfl⟩ := eq_station_of_stationOf (of_underLine read).2
    trivial
  have fits_of_list : ∀ rule,
      listAlignment inside statement rule = .ok command → command.Fits := by
    intro rule read
    obtain ⟨rule, rfl⟩ := eq_alignment_of_listAlignment read
    trivial
  have fits_of_multiLine : (if statement.operands.isEmpty = true then .ok .multiLine
      else .error (statement.wrongCount 0 .multiLine)) = Except.ok command → command.Fits := by
    intro read
    split at read
    · obtain rfl := Except.ok.inj read
      trivial
    · cases read
  unfold Statement.command at read
  split at read
  · exact fits_of_header read
  · exact fits_of_multiLine read
  · exact fits_of_multiLine read
  · exact fits_of_station _ read
  · exact fits_of_station _ read
  · obtain ⟨names, rfl⟩ := eq_edges_of_edgesOf (of_underLine read).2
    trivial
  · exact fits_of_curveOf (of_underLine read).2
  · obtain ⟨station, kind, rfl⟩ := eq_endpoint_of_endpointOf (of_underLine read).2
    trivial
  · exact fits_of_list _ read
  · exact fits_of_list _ read
  · exact fits_of_list _ read
  · exact fits_of_list _ read
  · exact fits_of_list _ read
  · exact fits_of_list _ read
  · obtain ⟨rule, rfl⟩ := eq_alignment_of_sameStationOf read
    trivial
  · split at read
    · simp only [Outcome.bind_eq_ok, Except.ok.injEq] at read
      obtain ⟨left, -, right, -, rfl⟩ := read
      trivial
    · cases read
  · obtain ⟨above, below, rfl⟩ := eq_overlap_of_overlapOf read
    trivial
  · cases read

end Statement

end TransitMap
