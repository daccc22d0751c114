import TransitMap.Proofs.Source.Scope

/-!
The curves that the statements of a source name: by their line and their stations, in either order and
wherever in the source they are declared.
-/

namespace TransitMap

namespace Text

def items (separator : Char) (text : List Char) : List (List Char) := (pieces separator text).map trim

def names (text : List Char) : List String := (items ',' text).map String.ofList

end Text

def Statement.ends? (statement : Statement) : Option (String × String) :=
  match statement.operands with
  | [] => none
  | stations :: _ =>
      match Text.names stations.text with
      | [start, stop] => some (start, stop)
      | _ => none

/-- A curve statement stands under the line and joins the two stations, in either order. -/
def ScopedStatement.Joins (entry : ScopedStatement) (line first second : String) : Prop :=
  entry.scope = some line ∧
    entry.statement.ends?.map (fun ends => s(ends.1, ends.2)) = some s(first, second)

/-- Among the curve statements of a source, the one of this number and no other joins the two stations
on the line. -/
def IsOnly (curves : List ScopedStatement) (line first second : String) (id : CurveId) : Prop :=
  ∀ index, (∃ entry, curves[index]? = some entry ∧ entry.Joins line first second) ↔ index = id.index

/-- The line and the stations of the curve to follow, as the operands behind the bend of a curve name
them. With a line alone, its stations have the names of those of the curve itself. -/
inductive IsTarget (start stop : String) : List Argument → String → String → String → Prop
  | line {keyword line : Argument} (isKeyword : keyword.string = "parallelto") :
      IsTarget start stop [keyword, line] line.string start stop
  | curve {keyword word reference : Argument} {line stations : List Char} {first second : String}
      (isKeyword : keyword.string = "parallelto") (isWord : word.string = "curve")
      (isSplit : Text.splitOnce? ':' reference.text = some (line, stations))
      (areNames : Text.names stations = [first, second]) :
      IsTarget start stop [keyword, word, reference] (String.ofList (Text.trim line)) first second

namespace Network

variable {K : Type} {network : Network K}

def StationOf (network : Network K) (line name : String) (station : StationId) : Prop :=
  ∃ id, network.lineNamed? line = some id ∧ network.Names id name station

/-- The shape that operands describe for a curve between two stations of a line. -/
inductive IsShape (network : Network K) (curves : List ScopedStatement) (line start stop : String) :
    List Argument → Shape → Prop
  | bend {argument : Argument} {bend : Bend} {shape : Shape}
      (isBend : Statement.bendOf argument.text = .ok bend)
      (isShape : Shape.ofBend? bend = some shape) : IsShape network curves line start stop [argument] shape
  | parallel {argument : Argument} {rest : List Argument} {bend : Bend} {other first second : String}
      {target : CurveId} (isBend : Statement.bendOf argument.text = .ok bend)
      (isTarget : IsTarget start stop rest other first second)
      (isOnly : IsOnly curves other first second target) :
      IsShape network curves line start stop (argument :: rest) (.parallel target bend)
  | sequence {special stations shapes : Argument} {ids : List StationId} {bends : List Bend}
      (isSpecial : special.string = "special") (isQuoted : stations.kind = .quoted)
      (areStations : List.Forall₂ (network.StationOf line) (Text.names stations.text) ids)
      (areBends : List.Forall₂ (fun text bend => Statement.bendOf text = .ok bend)
        (Text.items ':' shapes.text) bends) :
      IsShape network curves line start stop [special, stations, shapes]
        (.sequence (Draft.legs ids bends))
  | join {special keyword : Argument} {parts : List Argument} {ids : List CurveId}
      (isSpecial : special.string = "special") (isWord : keyword.kind = .word)
      (isKeyword : keyword.string = "of")
      (areParts : List.Forall₂ (fun part id => ∃ first second,
        Text.names part.text = [first, second] ∧ IsOnly curves line first second id) parts ids) :
      IsShape network curves line start stop (special :: keyword :: parts) (.join ids)

structure IsPlaceOf (network : Network K) (entry : ScopedStatement) (line start stop : String)
    (place : CurvePlace) : Prop where
  scope : entry.scope = some line
  ends : entry.statement.ends? = some (start, stop)
  line : network.lineNamed? line = some place.line
  start : network.Names place.line start place.start
  stop : network.Names place.line stop place.stop

/-- The curve is what its statement says, among all curve statements of the source. -/
def IsCurveOf (network : Network K) (curves : List ScopedStatement) (entry : ScopedStatement)
    (curve : Curve) : Prop :=
  ∃ line start stop, network.IsPlaceOf entry line start stop ⟨curve.line, curve.start, curve.stop⟩ ∧
    network.IsShape curves line start stop entry.statement.operands.tail curve.shape ∧
    curve.sourceLine = entry.statement.line

end Network

namespace CurvePlace

variable {places : List CurvePlace} {line : LineId} {first second : StationId} {id : CurveId}

theorem joins_of_joins {place other : CurvePlace} (joins : place.joins line first second = true)
    (otherJoins : other.joins line first second = true) :
    place.joins other.line other.start other.stop = true := by
  simp only [CurvePlace.joins, Bool.and_eq_true, Bool.or_eq_true, beq_iff_eq] at *
  grind

/-- Of curves that lie apart, at most one joins two stations. -/
theorem find?_eq_some_iff (apart : places.Pairwise Draft.Apart) :
    find? places line first second = some id ↔
      ∃ place, places[id.index]? = some place ∧ place.joins line first second = true := by
  obtain ⟨index⟩ := id
  rw [find?, Option.map_eq_some_iff]
  constructor
  · rintro ⟨_, found, ⟨⟩⟩
    obtain ⟨bound, joins, -⟩ := List.findIdx?_eq_some_iff_getElem.mp found
    exact ⟨_, List.getElem?_eq_getElem bound, joins⟩
  · rintro ⟨place, found, joins⟩
    obtain ⟨bound, rfl⟩ := List.getElem?_eq_some_iff.mp found
    refine ⟨index, List.findIdx?_eq_some_iff_getElem.mpr ⟨bound, joins, ?_⟩, rfl⟩
    intro earlier before earlierJoins
    have isApart := List.pairwise_iff_getElem.mp apart earlier index (before.trans bound) bound before
    rw [Draft.Apart, joins_of_joins earlierJoins joins] at isApart
    cases isApart

end CurvePlace

namespace Network

variable {K : Type} {network : Network K}

theorem Indexed.eq_of_lineNamed? (indexed : network.Indexed) {name other : String} {line : LineId}
    (found : network.lineNamed? name = some line) (otherFound : network.lineNamed? other = some line) :
    name = other := by
  obtain ⟨atLine, isLine, rfl⟩ := (indexed name line).mp found
  obtain ⟨otherLine, isOther, rfl⟩ := (indexed other line).mp otherFound
  rw [Option.some.inj (isLine.symm.trans isOther)]

theorem Declared.lineNamed?_lineName (declared : network.Declared) {line : LineId}
    (known : line.index < network.lines.length) :
    network.lineNamed? (network.lineName line) = some line := by
  have found : network.line? line = some network.lines[line.index] := List.getElem?_eq_getElem known
  rw [lineName_of_line? found]
  exact declared.indexed.lineNamed?_name found

theorem IsPlaceOf.joins_iff (declared : network.Declared) {entry : ScopedStatement}
    {line start stop : String} {place : CurvePlace}
    (isPlace : network.IsPlaceOf entry line start stop place) {name first second : String}
    {id : LineId} {firstId secondId : StationId} (isLine : network.lineNamed? name = some id)
    (isFirst : network.Names id first firstId) (isSecond : network.Names id second secondId) :
    entry.Joins name first second ↔ place.joins id firstId secondId = true := by
  rw [ScopedStatement.Joins, isPlace.scope, isPlace.ends, CurvePlace.joins]
  -- On one line names and stations correspond, and on different lines neither side holds.
  by_cases same : line = name
  · subst same
    obtain rfl := Option.some.inj (isPlace.line.symm.trans isLine)
    simp only [Option.map_some, Option.some.injEq, true_and, Sym2.eq_iff, Bool.and_eq_true,
      Bool.or_eq_true, beq_iff_eq, isPlace.start.injective declared isFirst,
      isPlace.start.injective declared isSecond, isPlace.stop.injective declared isFirst,
      isPlace.stop.injective declared isSecond]
  · have apart : place.line ≠ id := by
      rintro rfl
      exact same (declared.indexed.eq_of_lineNamed? isPlace.line isLine)
    simp [same, apart]

/-- The curves of a source have the places that their statements name, each another one. -/
structure Places (network : Network K) (curves : List ScopedStatement) (places : List CurvePlace) :
    Prop where
  declared : network.Declared
  each : List.Forall₂ (fun entry place =>
    ∃ line start stop, network.IsPlaceOf entry line start stop place) curves places
  apart : places.Pairwise Draft.Apart

variable {curves : List ScopedStatement} {places : List CurvePlace}

theorem Places.isOnly_of_find? (located : network.Places curves places) {line first second : String}
    {lineId : LineId} {firstId secondId : StationId} {id : CurveId}
    (isLine : network.lineNamed? line = some lineId) (isFirst : network.Names lineId first firstId)
    (isSecond : network.Names lineId second secondId)
    (found : CurvePlace.find? places lineId firstId secondId = some id) :
    IsOnly curves line first second id := by
  intro index
  -- Places lie apart, so that a number whose place joins the stations is the one that is found.
  have one : CurvePlace.find? places lineId firstId secondId = some ⟨index⟩ ↔ index = id.index := by
    rw [found, Option.some.injEq, ← CurveId.mk.injEq]
    exact eq_comm
  rw [← one, CurvePlace.find?_eq_some_iff located.apart]
  constructor
  · rintro ⟨entry, atIndex, joins⟩
    obtain ⟨place, atPlace, _, _, _, isPlace⟩ := Outcome.exists_right_of_forall₂ located.each atIndex
    exact ⟨place, atPlace, (isPlace.joins_iff located.declared isLine isFirst isSecond).mp joins⟩
  · rintro ⟨place, atPlace, joins⟩
    obtain ⟨entry, atIndex, _, _, _, isPlace⟩ := Outcome.exists_left_of_forall₂ located.each atPlace
    exact ⟨entry, atIndex, (isPlace.joins_iff located.declared isLine isFirst isSecond).mpr joins⟩

theorem Places.isOnly_of_resolveCurve (located : network.Places curves places) {own : String}
    {ownLine : LineId} {reference : CurveRef} {origin : Origin} {id : CurveId}
    (isOwn : network.lineNamed? own = some ownLine)
    (resolved : Draft.resolveCurve network places ownLine reference origin = .ok id) :
    IsOnly curves ((reference.line.map Located.value).getD own) reference.start.value
      reference.stop.value id := by
  simp only [Draft.resolveCurve, Outcome.bind_eq_ok] at resolved
  obtain ⟨line, isLine, start, isStart, stop, isStop, resolved⟩ := resolved
  have named : network.lineNamed? ((reference.line.map Located.value).getD own) = some line := by
    unfold Draft.curveLine at isLine
    split at isLine
    · next name isNamed =>
        rw [isNamed]
        exact Draft.lineNamed?_of_lineCalled isLine
    · next isNamed => rwa [isNamed, ← Except.ok.inj isLine]
  split at resolved
  · next found =>
      obtain rfl := Except.ok.inj resolved
      exact located.isOnly_of_find? named (Draft.names_of_stationOn located.declared isStart)
        (Draft.names_of_stationOn located.declared isStop) found
  · cases resolved

end Network

theorem values_itemsAt (separator : Char) (start : Nat) (texts : List (List Char)) :
    (itemsAt separator start texts).map Located.value = texts.map Text.trim := by
  induction texts generalizing start with
  | nil => rfl
  | cons text rest ih =>
      rw [itemsAt, List.map_cons, List.map_cons, ih]
      rfl

theorem names_itemsAt (start : Nat) (text : List Char) :
    (itemsAt ',' start (Text.pieces ',' text)).map (fun item => item.string.value) =
      Text.names text := by
  rw [Text.names, Text.items, ← values_itemsAt ',' start, List.map_map]
  rfl

theorem Argument.values_items (argument : Argument) (separator : Char) :
    (argument.items separator).map Located.value = Text.items separator argument.text :=
  values_itemsAt separator argument.textStart (Text.pieces separator argument.text)

namespace Statement

variable {statement : Statement}

theorem items_of_names {argument : Argument} {least : Nat} {usage : Usage}
    {items : List (Located (List Char))} (read : statement.names argument least usage = .ok items) :
    argument.kind = .quoted ∧ items = argument.items ',' := by
  simp only [names, Outcome.bind_eq_ok] at read
  obtain ⟨other, isQuoted, read⟩ := read
  obtain ⟨kind, rfl⟩ := eq_of_quoted isQuoted
  split at read
  · cases read
  · split at read
    · cases read
    · exact ⟨kind, (Except.ok.inj read).symm⟩

theorem names_of_pair {argument : Argument} {usage : Usage} {first second : Located (List Char)}
    (read : statement.pair argument usage = .ok (first, second)) :
    Text.names argument.text = [first.string.value, second.string.value] := by
  simp only [pair, Outcome.bind_eq_ok] at read
  obtain ⟨items, areNames, read⟩ := read
  obtain ⟨-, rfl⟩ := items_of_names areNames
  rw [← names_itemsAt argument.textStart]
  split at read
  · next areItems =>
      rw [Argument.items] at areItems
      rw [areItems]
      obtain ⟨rfl, rfl⟩ := Prod.mk.inj (Except.ok.inj read)
      rfl
  · cases read

theorem bendOf_of_readBend {text : List Char} {span : Span} {bend : Bend}
    (read : statement.readBend text span = .ok bend) : bendOf text = .ok bend := by
  unfold readBend at read
  split at read
  · next isBend => rw [isBend, Except.ok.inj read]
  · cases read

theorem isTarget_of_namedCurve {keyword word reference : Argument} {target : CurveRef}
    {start stop : String} (isKeyword : keyword.string = "parallelto") (isWord : word.string = "curve")
    (read : namedCurve statement reference = .ok target) :
    ∃ line, target.line = some line ∧ IsTarget start stop [keyword, word, reference] line.value
      target.start.value target.stop.value := by
  unfold namedCurve at read
  dsimp only at read
  split at read
  · cases read
  · next line stations isSplit =>
      split at read
      · next first second areItems =>
          split at read
          · cases read
          · obtain rfl := Except.ok.inj read
            refine ⟨_, rfl, .curve isKeyword isWord isSplit ?_⟩
            rw [← names_itemsAt, areItems]
            rfl
      · cases read

theorem isTarget_of_parallelTarget {start stop : Located String} {keyword : Argument}
    {operands : List Argument} {target : CurveRef}
    (read : parallelTarget statement start stop keyword operands = .ok target) :
    ∃ line, target.line = some line ∧ IsTarget start.value stop.value (keyword :: operands) line.value
      target.start.value target.stop.value := by
  simp only [parallelTarget, Outcome.bind_eq_ok] at read
  obtain ⟨keyword, isKeyword, read⟩ := read
  obtain ⟨-, rfl⟩ := eq_of_word isKeyword
  split at read
  · cases read
  · next isParallel =>
      have isParallel : keyword.string = "parallelto" := by simpa using isParallel
      split at read
      · simp only [Outcome.bind_eq_ok, Except.ok.injEq] at read
        obtain ⟨line, isLine, rfl⟩ := read
        obtain ⟨-, rfl⟩ := eq_of_word isLine
        exact ⟨_, rfl, .line isParallel⟩
      · simp only [Outcome.bind_eq_ok] at read
        obtain ⟨word, isWord, read⟩ := read
        obtain ⟨-, rfl⟩ := eq_of_word isWord
        split at read
        · cases read
        · next isCurve =>
            simp only [Outcome.bind_eq_ok] at read
            obtain ⟨reference, isQuoted, read⟩ := read
            obtain ⟨-, rfl⟩ := eq_of_quoted isQuoted
            exact isTarget_of_namedCurve isParallel (by simpa using isCurve) read
      · cases read

theorem of_sequenceShape {start stop : Located String} {stations shapes : Argument} {shape : ShapeRef}
    (read : sequenceShape statement start stop stations shapes = .ok shape) :
    ∃ names bends, shape = .sequence names bends ∧ stations.kind = .quoted ∧
      names.map Located.value = Text.names stations.text ∧
      List.Forall₂ (fun text bend => bendOf text = .ok bend) (Text.items ':' shapes.text) bends := by
  simp only [sequenceShape, Outcome.bind_eq_ok] at read
  obtain ⟨names, areNames, _, isQuoted, bends, areBends, read⟩ := read
  obtain ⟨kind, rfl⟩ := items_of_names areNames
  obtain ⟨-, rfl⟩ := eq_of_quoted isQuoted
  split at read
  · cases read
  · split at read
    · cases read
    · obtain rfl := Except.ok.inj read
      refine ⟨_, _, rfl, kind, ?_, ?_⟩
      · rw [List.map_map]
        exact names_itemsAt ..
      · rw [← Argument.values_items, List.forall₂_map_left_iff]
        exact (Outcome.mapM_eq_ok.mp areBends).imp fun _ _ => bendOf_of_readBend

theorem of_joinOf {parts : List Argument} {shape : ShapeRef}
    (read : joinOf statement parts = .ok shape) :
    ∃ references, shape = .join references ∧ List.Forall₂ (fun part reference =>
      reference.line = none ∧
        Text.names part.text = [reference.start.value, reference.stop.value]) parts references := by
  unfold joinOf at read
  split at read
  · cases read
  · cases areParts : parts.mapM (joinPart statement) with
    | error fault =>
        rw [areParts] at read
        cases read
    | ok references =>
        rw [areParts] at read
        refine ⟨references, (Except.ok.inj read).symm, ?_⟩
        apply (Outcome.mapM_eq_ok.mp areParts).imp
        intro part reference isPart
        simp only [joinPart, Outcome.bind_eq_ok, Except.ok.injEq] at isPart
        obtain ⟨⟨first, second⟩, isPair, rfl⟩ := isPart
        exact ⟨rfl, names_of_pair isPair⟩

theorem of_specialShape {start stop : Located String} {operands : List Argument} {shape : ShapeRef}
    (read : specialShape statement start stop operands = .ok shape) :
    (∃ stations shapes, operands = [stations, shapes] ∧
        sequenceShape statement start stop stations shapes = .ok shape) ∨
      ∃ keyword parts, operands = keyword :: parts ∧ keyword.kind = .word ∧ keyword.string = "of" ∧
        joinOf statement parts = .ok shape := by
  have isSequence (read : sequenceOf statement start stop operands = .ok shape) :
      ∃ stations shapes, operands = [stations, shapes] ∧
        sequenceShape statement start stop stations shapes = .ok shape := by
    unfold sequenceOf at read
    split at read
    · exact ⟨_, _, rfl, read⟩
    · cases read
  unfold specialShape at read
  split at read
  · exact .inl (isSequence read)
  · next keyword parts =>
      split at read
      · next isOf =>
          simp only [Bool.and_eq_true, decide_eq_true_eq, beq_iff_eq] at isOf
          exact .inr ⟨keyword, parts, rfl, isOf.1, isOf.2, read⟩
      · split at read
        · cases read
        · exact .inl (isSequence read)

theorem of_curveOf {start stop : Located String} {shape : ShapeRef}
    (read : curveOf statement = .ok (.curve start stop shape)) :
    ∃ stations argument operands, statement.operands = stations :: argument :: operands ∧
      Text.names stations.text = [start.value, stop.value] ∧
      (argument.string = "special" ∧ specialShape statement start stop operands = .ok shape ∨
        ∃ bend, bendOf argument.text = .ok bend ∧
          (operands = [] ∧ shape = .bend bend ∨
            ∃ keyword rest target, operands = keyword :: rest ∧ shape = .parallel bend target ∧
              parallelTarget statement start stop keyword rest = .ok target)) := by
  unfold curveOf at read
  split at read
  · next stations argument operands areOperands =>
      simp only [Outcome.bind_eq_ok] at read
      obtain ⟨⟨first, second⟩, isPair, argument, isWord, read⟩ := read
      obtain ⟨-, rfl⟩ := eq_of_word isWord
      have areNames := names_of_pair isPair
      split at read
      · next isSpecial =>
          simp only [Outcome.bind_eq_ok, Except.ok.injEq, Command.curve.injEq] at read
          obtain ⟨_, isShape, rfl, rfl, rfl⟩ := read
          exact ⟨stations, argument, operands, areOperands, areNames,
            .inl ⟨by simpa using isSpecial, isShape⟩⟩
      · simp only [Outcome.bind_eq_ok] at read
        obtain ⟨bend, isBend, read⟩ := read
        have isBend := bendOf_of_readBend isBend
        split at read
        · simp only [Except.ok.injEq, Command.curve.injEq] at read
          obtain ⟨rfl, rfl, rfl⟩ := read
          exact ⟨stations, argument, _, areOperands, areNames, .inr ⟨bend, isBend, .inl ⟨rfl, rfl⟩⟩⟩
        · next keyword rest =>
          simp only [Outcome.bind_eq_ok, Except.ok.injEq, Command.curve.injEq] at read
          obtain ⟨target, isTarget, rfl, rfl, rfl⟩ := read
          exact ⟨stations, argument, _, areOperands, areNames,
            .inr ⟨bend, isBend, .inr ⟨keyword, rest, target, rfl, rfl, isTarget⟩⟩⟩
  · cases read

theorem ends?_of_curveOf {start stop : Located String} {shape : ShapeRef}
    (read : curveOf statement = .ok (.curve start stop shape)) :
    statement.ends? = some (start.value, stop.value) := by
  obtain ⟨stations, argument, operands, areOperands, areNames, -⟩ := of_curveOf read
  simp only [ends?, areOperands, areNames]

end Statement

namespace Network

variable {K : Type} {network : Network K} {curves : List ScopedStatement} {places : List CurvePlace}

theorem stationOf_of_stationOn (declared : network.Declared) {line : String} {id : LineId}
    (isLine : network.lineNamed? line = some id) {name : Located String} {origin : Origin}
    {station : StationId} (found : Draft.stationOn network id name origin = .ok station) :
    network.StationOf line name.value station :=
  ⟨id, isLine, Draft.names_of_stationOn declared found⟩

namespace Places

variable {curve : CurveDraft} {line : String} {shape : Shape} {special : Argument}

theorem isShape_of_sequenceShape (located : network.Places curves places)
    (isLine : network.lineNamed? line = some curve.line) (isSpecial : special.string = "special")
    {statement : Statement} {stations shapes : Argument}
    (read : Statement.sequenceShape statement curve.start curve.stop stations shapes = .ok curve.shape)
    (resolved : Draft.resolveShape network places curve = .ok shape) {start stop : String} :
    network.IsShape curves line start stop [special, stations, shapes] shape := by
  obtain ⟨names, bends, isShape, kind, areNames, areBends⟩ := Statement.of_sequenceShape read
  simp only [Draft.resolveShape, isShape, Outcome.bind_eq_ok, Except.ok.injEq] at resolved
  obtain ⟨ids, areStations, rfl⟩ := resolved
  refine .sequence isSpecial kind ?_ areBends
  rw [← areNames, List.forall₂_map_left_iff]
  exact (Outcome.mapM_eq_ok.mp areStations).imp fun _ _ =>
    stationOf_of_stationOn located.declared isLine

theorem isShape_of_joinOf (located : network.Places curves places)
    (isLine : network.lineNamed? line = some curve.line) (isSpecial : special.string = "special")
    {statement : Statement} {keyword : Argument} {parts : List Argument}
    (isWord : keyword.kind = .word) (isKeyword : keyword.string = "of")
    (read : Statement.joinOf statement parts = .ok curve.shape)
    (resolved : Draft.resolveShape network places curve = .ok shape) {start stop : String} :
    network.IsShape curves line start stop (special :: keyword :: parts) shape := by
  obtain ⟨references, isShape, areReferences⟩ := Statement.of_joinOf read
  simp only [Draft.resolveShape, isShape, Outcome.bind_eq_ok, Except.ok.injEq] at resolved
  obtain ⟨ids, areParts, rfl⟩ := resolved
  refine .join isSpecial isWord isKeyword ?_
  apply Outcome.forall₂_trans areReferences (Outcome.mapM_eq_ok.mp areParts)
  rintro part reference id ⟨isOwn, areNames⟩ isPart
  have isOnly := located.isOnly_of_resolveCurve isLine isPart
  rw [isOwn] at isOnly
  exact ⟨_, _, areNames, isOnly⟩

theorem isShape_of_curveOf (located : network.Places curves places)
    (isLine : network.lineNamed? line = some curve.line) {statement : Statement}
    (read : Statement.curveOf statement = .ok (.curve curve.start curve.stop curve.shape))
    (resolved : Draft.resolveShape network places curve = .ok shape) :
    network.IsShape curves line curve.start.value curve.stop.value statement.operands.tail shape := by
  obtain ⟨stations, argument, operands, areOperands, -, isSpecial | isTurn⟩ :=
    Statement.of_curveOf read
  · obtain ⟨isSpecial, isShape⟩ := isSpecial
    rw [areOperands]
    rcases Statement.of_specialShape isShape with ⟨stations, shapes, rfl, isSequence⟩ |
      ⟨keyword, parts, rfl, isWord, isKeyword, isJoin⟩
    · exact located.isShape_of_sequenceShape isLine isSpecial isSequence resolved
    · exact located.isShape_of_joinOf isLine isSpecial isWord isKeyword isJoin resolved
  · obtain ⟨bend, isBend, ⟨rfl, isShape⟩ | ⟨keyword, rest, target, rfl, isShape, isTarget⟩⟩ := isTurn
    · simp only [Draft.resolveShape, isShape] at resolved
      split at resolved
      · next isDrawn =>
          rw [areOperands]
          exact .bend isBend (isDrawn.trans (congrArg some (Except.ok.inj resolved)))
      · cases resolved
    · simp only [Draft.resolveShape, isShape, Outcome.bind_eq_ok, Except.ok.injEq] at resolved
      obtain ⟨id, isResolved, rfl⟩ := resolved
      obtain ⟨other, hasLine, isTarget⟩ := Statement.isTarget_of_parallelTarget isTarget
      have isOnly := located.isOnly_of_resolveCurve isLine isResolved
      rw [hasLine] at isOnly
      rw [areOperands]
      exact .parallel isBend isTarget isOnly

end Places

end Network

end TransitMap
