import TransitMap.Proofs.Source.Command
import TransitMap.Proofs.Source.SharedLine

namespace TransitMap

/-- Both are related values, or the same complaint about the same part of a line. -/
abbrev ReadAlike (source other : List Char) {α β : Type} (R : α → β → Prop) :
    Except Diagnostic α → Except Diagnostic β → Prop :=
  Outcome.Agree (Diagnostic.Alike source other) R

namespace SharedLine

variable {source other : List Char} {shared : SharedLine source other} {inside : Bool}

structure IsStationRef (shared : SharedLine source other) (inside : Bool)
    (here there : StationRef) : Prop where
  line : here.line = there.line
  name : here.name = there.name
  marks : shared.Marks here.span there.span
  under : here.line = none → inside = true

structure IsCurveRef (shared : SharedLine source other) (here there : CurveRef) : Prop where
  line : Option.Rel shared.IsValue here.line there.line
  start : shared.IsValue here.start there.start
  stop : shared.IsValue here.stop there.stop
  marks : shared.Marks here.span there.span

inductive IsShapeRef (shared : SharedLine source other) : ShapeRef → ShapeRef → Prop
  | bend (bend : Bend) (drawable : bend.kind?.isSome = true) :
      IsShapeRef shared (.bend bend) (.bend bend)
  | parallel (bend : Bend) {target otherTarget : CurveRef}
      (isTarget : shared.IsCurveRef target otherTarget) :
      IsShapeRef shared (.parallel bend target) (.parallel bend otherTarget)
  | sequence {stations otherStations : List (Located String)}
      (areStations : List.Forall₂ shared.IsValue stations otherStations) (bends : List Bend) :
      IsShapeRef shared (.sequence stations bends) (.sequence otherStations bends)
  | join {parts otherParts : List CurveRef}
      (areParts : List.Forall₂ shared.IsCurveRef parts otherParts) :
      IsShapeRef shared (.join parts) (.join otherParts)

structure IsTermRef (shared : SharedLine source other) (inside : Bool) (here there : TermRef) :
    Prop where
  station : shared.IsStationRef inside here.station there.station
  component : here.component = there.component

structure IsPair (shared : SharedLine source other) (inside : Bool)
    (here there : StationRef × StationRef) : Prop where
  first : shared.IsStationRef inside here.1 there.1
  second : shared.IsStationRef inside here.2 there.2

inductive IsRule (shared : SharedLine source other) (inside : Bool) :
    AlignmentRef → AlignmentRef → Prop
  | axis (axis : Axis) {stations otherStations : List StationRef}
      (areStations : List.Forall₂ (shared.IsStationRef inside) stations otherStations) :
      IsRule shared inside (.axis axis stations) (.axis axis otherStations)
  | diagonal (diagonal : Diagonal) {stations otherStations : List StationRef}
      (areStations : List.Forall₂ (shared.IsStationRef inside) stations otherStations) :
      IsRule shared inside (.diagonal diagonal stations) (.diagonal diagonal otherStations)
  | sameStation (relation : Relation) {pairs otherPairs : List (StationRef × StationRef)}
      (arePairs : List.Forall₂ (shared.IsPair inside) pairs otherPairs) :
      IsRule shared inside (.sameStation relation pairs) (.sameStation relation otherPairs)
  | equal {left otherLeft right otherRight : List TermRef}
      (isLeft : List.Forall₂ (shared.IsTermRef inside) left otherLeft)
      (isRight : List.Forall₂ (shared.IsTermRef inside) right otherRight) :
      IsRule shared inside (.equal left right) (.equal otherLeft otherRight)

inductive IsCommand (shared : SharedLine source other) (inside : Bool) : Command → Command → Prop
  | line {name otherName : Located String} (isName : shared.IsValue name otherName) :
      IsCommand shared inside (.line name) (.line otherName)
  | multiLine : IsCommand shared inside .multiLine .multiLine
  | station (kind : StationKind) {name otherName : Located String}
      (isName : shared.IsValue name otherName) (x y : Int) :
      IsCommand shared inside (.station kind name x y) (.station kind otherName x y)
  | edges {stations otherStations : List (Located String)}
      (areStations : List.Forall₂ shared.IsValue stations otherStations) :
      IsCommand shared inside (.edges stations) (.edges otherStations)
  | curve {start otherStart stop otherStop : Located String} {shape otherShape : ShapeRef}
      (isStart : shared.IsValue start otherStart) (isStop : shared.IsValue stop otherStop)
      (isShape : shared.IsShapeRef shape otherShape) :
      IsCommand shared inside (.curve start stop shape) (.curve otherStart otherStop otherShape)
  | endpoint {station otherStation kind otherKind : Located String}
      (isStation : shared.IsValue station otherStation) (isKind : shared.IsValue kind otherKind) :
      IsCommand shared inside (.endpoint station kind) (.endpoint otherStation otherKind)
  | alignment {rule otherRule : AlignmentRef} (isRule : shared.IsRule inside rule otherRule) :
      IsCommand shared inside (.alignment rule) (.alignment otherRule)
  | overlap {above otherAbove below otherBelow : Located String}
      (isAbove : shared.IsValue above otherAbove) (isBelow : shared.IsValue below otherBelow) :
      IsCommand shared inside (.overlap above below) (.overlap otherAbove otherBelow)

namespace IsStatement

variable {here there : Statement} {argument otherArgument : Argument}

theorem alike (isStatement : shared.IsStatement here there) {complaint : Complaint}
    (arises : complaint.Arises) {span otherSpan : Span} (marks : shared.Marks span otherSpan) :
    Diagnostic.Alike source other (here.diagnostic complaint span)
      (there.diagnostic complaint otherSpan) :=
  isStatement.isOrigin.alike arises marks

theorem wrongCount (isStatement : shared.IsStatement here there) (expected : Nat) (usage : Usage) :
    Diagnostic.Alike source other (here.wrongCount expected usage)
      (there.wrongCount expected usage) := by
  rw [Statement.wrongCount, Statement.wrongCount, ← isStatement.keyword,
    ← isStatement.operands.length_eq]
  apply isStatement.alike ?_ isStatement.marks
  split <;> trivial

theorem word (isStatement : shared.IsStatement here there)
    (isArgument : shared.IsArgument argument otherArgument) (usage : Usage) :
    ReadAlike source other shared.IsArgument (here.word argument usage)
      (there.word otherArgument usage) := by
  rw [Statement.word, Statement.word, ← isArgument.kind, ← isArgument.string]
  cases argument.kind with
  | word => exact .ok isArgument
  | quoted => exact .error (isStatement.alike (by trivial) isArgument.marks)

theorem quoted (isStatement : shared.IsStatement here there)
    (isArgument : shared.IsArgument argument otherArgument) (usage : Usage) :
    ReadAlike source other
      (fun read otherRead => read.kind = .quoted ∧ shared.IsArgument read otherRead)
      (here.quoted argument usage) (there.quoted otherArgument usage) := by
  rw [Statement.quoted, Statement.quoted, ← isArgument.kind, ← isArgument.string]
  cases kind : argument.kind with
  | word => exact .error (isStatement.alike (by trivial) isArgument.marks)
  | quoted => exact .ok ⟨kind, isArgument⟩

theorem find?_of_forall₂ {α β : Type} {R : α → β → Prop} {left : List α} {right : List β}
    (related : List.Forall₂ R left right) {p : α → Bool} {q : β → Bool}
    (same : ∀ item other, R item other → p item = q other) :
    Option.Rel R (left.find? p) (right.find? q) := by
  induction related with
  | nil => exact .none
  | cons first rest ih =>
      rw [List.find?_cons, List.find?_cons, ← same _ _ first]
      split
      · exact .some first
      · exact ih

theorem names (isStatement : shared.IsStatement here there)
    (isArgument : shared.IsArgument argument otherArgument) (least : Nat) (usage : Usage) :
    ReadAlike source other (List.Forall₂ shared.IsItem) (here.names argument least usage)
      (there.names otherArgument least usage) := by
  apply (isStatement.quoted isArgument usage).bind
  rintro read otherRead ⟨-, isRead⟩
  have items := isRead.items ','
  have found := find?_of_forall₂ items fun item otherItem isItem =>
    congrArg List.isEmpty isItem.value
  dsimp only
  generalize (read.items ',').find? _ = empty, (otherRead.items ',').find? _ = otherEmpty at found ⊢
  cases found with
  | some isItem => exact .error (isStatement.alike (by trivial) isItem.selects.marks)
  | none =>
      dsimp only
      rw [← items.length_eq]
      split
      · exact .error (isStatement.alike (by trivial) isRead.marks)
      · exact .ok items

theorem pair (isStatement : shared.IsStatement here there)
    (isArgument : shared.IsArgument argument otherArgument) (usage : Usage) :
    ReadAlike source other
      (fun read otherRead => shared.IsItem read.1 otherRead.1 ∧ shared.IsItem read.2 otherRead.2)
      (here.pair argument usage) (there.pair otherArgument usage) := by
  apply (isStatement.names isArgument 2 usage).bind
  intro items otherItems areItems
  have same := areItems.length_eq
  have otherwise : Diagnostic.Alike source other
      (here.diagnostic (.notAPair items.length usage) argument.span)
      (there.diagnostic (.notAPair otherItems.length usage) otherArgument.span) := by
    rw [← same]
    exact isStatement.alike (by trivial) isArgument.marks
  rcases areItems with _ | ⟨first, _ | ⟨second, _ | ⟨third, rest⟩⟩⟩
  · exact .error otherwise
  · exact .error otherwise
  · exact .ok ⟨first, second⟩
  · exact .error otherwise

theorem readInteger (isStatement : shared.IsStatement here there)
    (isArgument : shared.IsArgument argument otherArgument) (usage : Usage) :
    ReadAlike source other Eq (here.readInteger argument usage)
      (there.readInteger otherArgument usage) := by
  apply (isStatement.word isArgument usage).bind
  intro read otherRead isRead
  rw [← isRead.text, ← isRead.string]
  split
  · exact .ok rfl
  · exact .error (isStatement.alike (by trivial) isRead.marks)

theorem qualifiedRef (isStatement : shared.IsStatement here there)
    {item otherItem : Located (List Char)} (isItem : shared.IsValue item otherItem) :
    ReadAlike source other (shared.IsStationRef inside) (Statement.qualifiedRef here item)
      (Statement.qualifiedRef there otherItem) := by
  rw [Statement.qualifiedRef, Statement.qualifiedRef, ← isItem.value]
  have malformed : Diagnostic.Alike source other
      (here.diagnostic (.unqualifiedStation (String.ofList item.value)) item.span)
      (there.diagnostic (.unqualifiedStation (String.ofList item.value)) otherItem.span) :=
    isStatement.alike (by trivial) isItem.marks
  cases Text.splitOnce? ':' item.value with
  | none => exact .error malformed
  | some halves =>
      dsimp only
      split
      · exact .error malformed
      · exact .ok ⟨rfl, rfl, isItem.marks, by simp⟩

theorem stationRef (isStatement : shared.IsStatement here there)
    {item otherItem : Located (List Char)} (isItem : shared.IsValue item otherItem) :
    ReadAlike source other (shared.IsStationRef inside) (Statement.stationRef inside here item)
      (Statement.stationRef inside there otherItem) := by
  cases inside with
  | true => exact .ok ⟨rfl, by rw [isItem.value], isItem.marks, fun _ => rfl⟩
  | false => exact isStatement.qualifiedRef isItem

theorem readBend (isStatement : shared.IsStatement here there) {text otherText : List Char}
    (same : text = otherText) {span otherSpan : Span} (marks : shared.Marks span otherSpan) :
    ReadAlike source other (fun bend otherBend => bend = otherBend ∧ bend.kind?.isSome = true)
      (Statement.readBend here text span) (Statement.readBend there otherText otherSpan) := by
  rw [Statement.readBend, Statement.readBend, ← same]
  cases read : Statement.bendOf text with
  | ok bend => exact .ok ⟨rfl, Statement.isSome_kind?_of_bendOf read⟩
  | error fault => exact .error (isStatement.alike (by trivial) marks)

theorem namedCurve (isStatement : shared.IsStatement here there)
    (isArgument : shared.IsArgument argument otherArgument) (kind : argument.kind = .quoted) :
    ReadAlike source other shared.IsCurveRef (Statement.namedCurve here argument)
      (Statement.namedCurve there otherArgument) := by
  have shows := isArgument.shows
  rw [Argument.textStart, Argument.textStart, ← isArgument.kind, kind] at shows
  rw [Statement.namedCurve, Statement.namedCurve, ← isArgument.text, ← isArgument.string]
  have malformed : Diagnostic.Alike source other
      (here.diagnostic (.malformedCurveReference argument.string) argument.span)
      (there.diagnostic (.malformedCurveReference argument.string) otherArgument.span) :=
    isStatement.alike (by trivial) isArgument.marks
  cases split : Text.splitOnce? ':' argument.text with
  | none => exact .error malformed
  | some halves =>
      obtain ⟨line, stations⟩ := halves
      -- The stations begin behind the opening quote, the line and the colon.
      rw [Text.append_of_splitOnce? split, List.append_cons,
        ← Text.intercalate_pieces ',' stations] at shows
      have items := shows.behind.itemsAt
      rw [Text.byteLength_append, ← Nat.add_assoc, ← Nat.add_assoc] at items
      dsimp only
      change List.Forall₂ _ (itemsAt ',' (argument.span.start + 1 + Text.byteLength line + 1) _)
        (itemsAt ',' (otherArgument.span.start + 1 + Text.byteLength line + 1) _) at items
      generalize itemsAt ',' (argument.span.start + 1 + Text.byteLength line + 1) _ = named,
        itemsAt ',' (otherArgument.span.start + 1 + Text.byteLength line + 1) _ = otherNamed
        at items ⊢
      rcases items with _ | ⟨first, _ | ⟨second, _ | ⟨third, rest⟩⟩⟩
      · exact .error malformed
      · exact .error malformed
      · dsimp only
        rw [← first.value, ← second.value]
        split
        · exact .error malformed
        · exact .ok ⟨.some ⟨rfl, isArgument.marks⟩, first.string, second.string, isArgument.marks⟩
      · exact .error malformed

theorem parallelTarget (isStatement : shared.IsStatement here there)
    {start otherStart stop otherStop : Located String} (isStart : shared.IsValue start otherStart)
    (isStop : shared.IsValue stop otherStop)
    (isArgument : shared.IsArgument argument otherArgument) {operands otherOperands : List Argument}
    (areOperands : List.Forall₂ shared.IsArgument operands otherOperands) :
    ReadAlike source other shared.IsCurveRef
      (Statement.parallelTarget here start stop argument operands)
      (Statement.parallelTarget there otherStart otherStop otherArgument otherOperands) := by
  apply (isStatement.word isArgument .curve).bind
  intro keyword otherKeyword isKeyword
  rw [← isKeyword.string]
  split
  · exact .error (isStatement.wrongCount 2 .curve)
  · rcases areOperands with _ | ⟨first, _ | ⟨second, _ | ⟨third, rest⟩⟩⟩
    · exact .error (isStatement.wrongCount 5 .parallelCurve)
    · apply (isStatement.word first .curve).bind
      intro line otherLine isLine
      exact .ok ⟨.some isLine.located, isStart, isStop, isLine.marks⟩
    · apply (isStatement.word first .parallelCurve).bind
      intro keyword otherKeyword isKeyword
      rw [← isKeyword.string]
      split
      · exact .error (isStatement.alike (by trivial) isKeyword.marks)
      · apply (isStatement.quoted second .parallelCurve).bind
        rintro reference otherReference ⟨kind, isReference⟩
        exact isStatement.namedCurve isReference kind
    · exact .error (isStatement.wrongCount 5 .parallelCurve)

theorem joinPart (isStatement : shared.IsStatement here there)
    (isArgument : shared.IsArgument argument otherArgument) :
    ReadAlike source other shared.IsCurveRef (Statement.joinPart here argument)
      (Statement.joinPart there otherArgument) := by
  apply (isStatement.pair isArgument .join).bind
  rintro pair otherPair ⟨first, second⟩
  exact .ok ⟨.none, first.string, second.string, isArgument.marks⟩

theorem sequenceShape (isStatement : shared.IsStatement here there)
    {start otherStart stop otherStop : Located String} (isStart : shared.IsValue start otherStart)
    (isStop : shared.IsValue stop otherStop) {stations otherStations shapes otherShapes : Argument}
    (areStations : shared.IsArgument stations otherStations)
    (areShapes : shared.IsArgument shapes otherShapes) :
    ReadAlike source other shared.IsShapeRef
      (Statement.sequenceShape here start stop stations shapes)
      (Statement.sequenceShape there otherStart otherStop otherStations otherShapes) := by
  apply (isStatement.names areStations 2 .sequence).bind
  intro names otherNames areNames
  apply (isStatement.quoted areShapes .sequence).bind
  rintro shapes otherShapes ⟨-, areShapes⟩
  apply (Outcome.Agree.mapM (areShapes.items ':') fun item otherItem isItem =>
    isStatement.readBend isItem.value isItem.selects.marks).bind
  intro bends otherBends areBends
  obtain rfl : bends = otherBends := by
    rw [← List.forall₂_eq_eq_eq]
    exact areBends.imp fun bend otherBend => And.left
  have values : names.map (String.ofList ·.value) = otherNames.map (String.ofList ·.value) := by
    rw [← List.forall₂_eq_eq_eq, List.forall₂_map_left_iff, List.forall₂_map_right_iff]
    exact areNames.imp fun name otherName isName => congrArg String.ofList isName.value
  have heads := congrArg List.head? values
  have lasts := congrArg List.getLast? values
  rw [List.head?_map, List.head?_map] at heads
  rw [List.getLast?_map, List.getLast?_map] at lasts
  rw [← areNames.length_eq, ← heads, ← lasts, ← isStart.value, ← isStop.value]
  split
  · exact .error (isStatement.alike (by trivial) areShapes.marks)
  · split
    · exact .error (isStatement.alike (by trivial) areStations.marks)
    · apply Outcome.Agree.ok
      apply IsShapeRef.sequence
      rw [List.forall₂_map_left_iff, List.forall₂_map_right_iff]
      exact areNames.imp fun name otherName isName => isName.string

theorem sequenceOf (isStatement : shared.IsStatement here there)
    {start otherStart stop otherStop : Located String} (isStart : shared.IsValue start otherStart)
    (isStop : shared.IsValue stop otherStop) {operands otherOperands : List Argument}
    (areOperands : List.Forall₂ shared.IsArgument operands otherOperands) :
    ReadAlike source other shared.IsShapeRef (Statement.sequenceOf here start stop operands)
      (Statement.sequenceOf there otherStart otherStop otherOperands) := by
  rcases areOperands with _ | ⟨first, _ | ⟨second, _ | ⟨third, rest⟩⟩⟩
  · exact .error (isStatement.wrongCount 4 .sequence)
  · exact .error (isStatement.wrongCount 4 .sequence)
  · exact isStatement.sequenceShape isStart isStop first second
  · exact .error (isStatement.wrongCount 4 .sequence)

theorem joinOf (isStatement : shared.IsStatement here there) {parts otherParts : List Argument}
    (areParts : List.Forall₂ shared.IsArgument parts otherParts) :
    ReadAlike source other shared.IsShapeRef (Statement.joinOf here parts)
      (Statement.joinOf there otherParts) := by
  cases areParts with
  | nil => exact .error (isStatement.wrongCount 4 .join)
  | cons first rest =>
      apply (Outcome.Agree.mapM (.cons first rest) fun _ _ => isStatement.joinPart).map
      intro curves otherCurves areCurves
      exact .join areCurves

theorem specialShape (isStatement : shared.IsStatement here there)
    {start otherStart stop otherStop : Located String} (isStart : shared.IsValue start otherStart)
    (isStop : shared.IsValue stop otherStop) {operands otherOperands : List Argument}
    (areOperands : List.Forall₂ shared.IsArgument operands otherOperands) :
    ReadAlike source other shared.IsShapeRef (Statement.specialShape here start stop operands)
      (Statement.specialShape there otherStart otherStop otherOperands) := by
  cases areOperands with
  | nil => exact isStatement.sequenceOf isStart isStop .nil
  | cons first parts =>
      rw [Statement.specialShape, Statement.specialShape, ← first.kind, ← first.string]
      split
      · exact isStatement.joinOf parts
      · split
        · exact .error (isStatement.alike (by trivial) first.marks)
        · exact isStatement.sequenceOf isStart isStop (.cons first parts)

theorem curveOf (isStatement : shared.IsStatement here there) :
    ReadAlike source other (shared.IsCommand inside) (Statement.curveOf here)
      (Statement.curveOf there) := by
  have areOperands := isStatement.operands
  rw [Statement.curveOf, Statement.curveOf]
  generalize here.operands = operands, there.operands = otherOperands at areOperands ⊢
  rcases areOperands with _ | ⟨stations, _ | ⟨shape, rest⟩⟩
  · exact .error (isStatement.wrongCount 2 .curve)
  · exact .error (isStatement.wrongCount 2 .curve)
  · apply (isStatement.pair stations .curve).bind
    rintro ⟨start, stop⟩ ⟨otherStart, otherStop⟩ ⟨isStart, isStop⟩
    apply (isStatement.word shape .curve).bind
    intro shape otherShape isShape
    rw [← isShape.string]
    split
    · apply (isStatement.specialShape isStart.string isStop.string rest).bind
      intro shape otherShape isShape
      exact .ok (.curve isStart.string isStop.string isShape)
    · apply (isStatement.readBend isShape.text isShape.marks).bind
      rintro bend _ ⟨rfl, drawable⟩
      cases rest with
      | nil => exact .ok (.curve isStart.string isStop.string (.bend bend drawable))
      | cons keyword operands =>
          apply (isStatement.parallelTarget isStart.string isStop.string keyword operands).bind
          intro target otherTarget isTarget
          exact .ok (.curve isStart.string isStop.string (.parallel bend isTarget))

theorem exists_append_of_splitTerm? {text name : List Char} {component : Component}
    (split : Statement.splitTerm? text = some (name, component)) : ∃ rest, text = name ++ rest := by
  obtain ⟨dot, -, isName, -⟩ := Statement.name_of_splitTerm? split
  obtain ⟨blanks, isText, -⟩ := Text.exists_append_trimStop (text.take dot)
  refine ⟨blanks ++ text.drop dot, ?_⟩
  rw [← List.append_assoc, ← isName, ← isText, List.take_append_drop]

theorem readTerm (isStatement : shared.IsStatement here there)
    {item otherItem : Located (List Char)} (isItem : shared.IsItem item otherItem) :
    ReadAlike source other (shared.IsTermRef inside) (Statement.readTerm inside here item)
      (Statement.readTerm inside there otherItem) := by
  have marks := isItem.selects.marks
  rw [Statement.readTerm, Statement.readTerm, ← isItem.value]
  cases split : Statement.splitTerm? item.value with
  | none => exact .error (isStatement.alike (by trivial) marks)
  | some term =>
      obtain ⟨name, component⟩ := term
      obtain ⟨rest, isText⟩ := exists_append_of_splitTerm? split
      have selects := isItem.selects
      rw [isText, ← List.nil_append name] at selects
      have isName : shared.IsValue (⟨name, .of item.span.start name⟩ : Located (List Char))
          ⟨name, .of otherItem.span.start name⟩ := ⟨rfl, selects.within.marks⟩
      apply (isStatement.stationRef isName).bind
      intro station otherStation isStation
      exact .ok ⟨isStation, rfl⟩

theorem readTerms (isStatement : shared.IsStatement here there)
    (isArgument : shared.IsArgument argument otherArgument) :
    ReadAlike source other (List.Forall₂ (shared.IsTermRef inside))
      (Statement.readTerms inside here argument)
      (Statement.readTerms inside there otherArgument) := by
  apply (isStatement.quoted isArgument .equal).bind
  rintro read otherRead ⟨-, isRead⟩
  exact .mapM (isRead.items '+') fun item otherItem => isStatement.readTerm

theorem listAlignment (isStatement : shared.IsStatement here there)
    {rule : List StationRef → AlignmentRef}
    (isRule : ∀ stations otherStations,
      List.Forall₂ (shared.IsStationRef inside) stations otherStations →
        shared.IsRule inside (rule stations) (rule otherStations)) :
    ReadAlike source other (shared.IsCommand inside) (Statement.listAlignment inside here rule)
      (Statement.listAlignment inside there rule) := by
  have areOperands := isStatement.operands
  rw [Statement.listAlignment, Statement.listAlignment]
  generalize here.operands = operands, there.operands = otherOperands at areOperands ⊢
  rcases areOperands with _ | ⟨stations, _ | ⟨second, rest⟩⟩
  · exact .error (isStatement.wrongCount 1 .list)
  · apply (isStatement.names stations 2 .list).bind
    intro items otherItems areItems
    apply (Outcome.Agree.mapM areItems fun item otherItem isItem =>
      isStatement.stationRef isItem.isValue).bind
    intro stations otherStations areStations
    exact .ok (.alignment (isRule _ _ areStations))
  · exact .error (isStatement.wrongCount 1 .list)

theorem readRelation (isStatement : shared.IsStatement here there)
    (isArgument : shared.IsArgument argument otherArgument) :
    ReadAlike source other Eq (Statement.readRelation here argument)
      (Statement.readRelation there otherArgument) := by
  apply (isStatement.word isArgument .sameStation).bind
  intro read otherRead isRead
  rw [← isRead.string]
  split
  · exact .ok rfl
  · exact .error (isStatement.alike (by trivial) isRead.marks)

theorem sameStationOf (isStatement : shared.IsStatement here there) :
    ReadAlike source other (shared.IsCommand inside) (Statement.sameStationOf here)
      (Statement.sameStationOf there) := by
  have areOperands := isStatement.operands
  have wrongCount := isStatement.wrongCount 3 .sameStation
  rw [Statement.sameStationOf, Statement.sameStationOf]
  generalize here.operands = operands, there.operands = otherOperands at areOperands ⊢
  rcases areOperands with
    _ | ⟨first, _ | ⟨relation, _ | ⟨second, _ | ⟨stations, _ | ⟨fifth, rest⟩⟩⟩⟩⟩
  · exact .error wrongCount
  · exact .error wrongCount
  · exact .error wrongCount
  · apply (isStatement.quoted first .sameStation).bind
    rintro first otherFirst ⟨-, isFirst⟩
    apply (isStatement.readRelation relation).bind
    rintro relation _ rfl
    apply (isStatement.quoted second .sameStation).bind
    rintro second otherSecond ⟨-, isSecond⟩
    apply (isStatement.qualifiedRef ⟨congrArg Text.trim isFirst.text, isFirst.marks⟩).bind
    intro first otherFirst isFirst
    apply (isStatement.qualifiedRef ⟨congrArg Text.trim isSecond.text, isSecond.marks⟩).bind
    intro second otherSecond isSecond
    exact .ok (.alignment (.sameStation relation (.cons ⟨isFirst, isSecond⟩ .nil)))
  · apply (isStatement.word first .sameStation).bind
    intro first otherFirst isFirst
    apply (isStatement.readRelation relation).bind
    rintro relation _ rfl
    apply (isStatement.word second .sameStation).bind
    intro second otherSecond isSecond
    apply (isStatement.names stations 1 .sameStation).bind
    intro items otherItems areItems
    apply Outcome.Agree.ok
    apply IsCommand.alignment
    apply IsRule.sameStation
    rw [List.forall₂_map_left_iff, List.forall₂_map_right_iff]
    apply areItems.imp
    intro item otherItem isItem
    have marks := isItem.selects.marks
    dsimp only
    rw [← isFirst.string, ← isSecond.string, ← isItem.value]
    exact ⟨⟨rfl, rfl, marks, by simp⟩, ⟨rfl, rfl, marks, by simp⟩⟩
  · exact .error wrongCount

theorem overlapOf (isStatement : shared.IsStatement here there) :
    ReadAlike source other (shared.IsCommand inside) (Statement.overlapOf here)
      (Statement.overlapOf there) := by
  have areOperands := isStatement.operands
  have wrongCount := isStatement.wrongCount 3 .overlap
  rw [Statement.overlapOf, Statement.overlapOf]
  generalize here.operands = operands, there.operands = otherOperands at areOperands ⊢
  rcases areOperands with _ | ⟨first, _ | ⟨relation, _ | ⟨second, _ | ⟨fourth, rest⟩⟩⟩⟩
  · exact .error wrongCount
  · exact .error wrongCount
  · exact .error wrongCount
  · apply (isStatement.word first .overlap).bind
    intro first otherFirst isFirst
    apply (isStatement.word relation .overlap).bind
    intro relation otherRelation isRelation
    apply (isStatement.word second .overlap).bind
    intro second otherSecond isSecond
    rw [← isRelation.string]
    split
    · exact .ok (.overlap isFirst.located isSecond.located)
    · exact .ok (.overlap isSecond.located isFirst.located)
    · exact .error (isStatement.alike (by trivial) isRelation.marks)
  · exact .error wrongCount

theorem header (isStatement : shared.IsStatement here there) :
    ReadAlike source other (shared.IsCommand inside) (Statement.header here)
      (Statement.header there) := by
  have areOperands := isStatement.operands
  rw [Statement.header, Statement.header]
  generalize here.operands = operands, there.operands = otherOperands at areOperands ⊢
  rcases areOperands with _ | ⟨name, _ | ⟨second, rest⟩⟩
  · exact .error (isStatement.wrongCount 1 .line)
  · apply (isStatement.word name .line).bind
    intro name otherName isName
    rw [← isName.text]
    generalize (if name.text.getLast? = some ':' then name.text.dropLast else name.text) = text
    dsimp only
    split
    · exact .error (isStatement.alike (by trivial) isName.marks)
    · exact .ok (.line ⟨rfl, isName.marks⟩)
  · exact .error (isStatement.wrongCount 1 .line)

theorem stationOf (isStatement : shared.IsStatement here there) (kind : StationKind) :
    ReadAlike source other (shared.IsCommand inside) (Statement.stationOf here kind)
      (Statement.stationOf there kind) := by
  have areOperands := isStatement.operands
  have wrongCount := isStatement.wrongCount 3 .station
  rw [Statement.stationOf, Statement.stationOf]
  generalize here.operands = operands, there.operands = otherOperands at areOperands ⊢
  rcases areOperands with _ | ⟨name, _ | ⟨x, _ | ⟨y, _ | ⟨fourth, rest⟩⟩⟩⟩
  · exact .error wrongCount
  · exact .error wrongCount
  · exact .error wrongCount
  · apply (isStatement.quoted name .station).bind
    rintro name otherName ⟨-, isName⟩
    apply (isStatement.readInteger x .station).bind
    rintro x _ rfl
    apply (isStatement.readInteger y .station).bind
    rintro y _ rfl
    rw [← isName.text]
    split
    · exact .error (isStatement.alike (by trivial) isName.marks)
    · exact .ok (.station kind isName.located x y)
  · exact .error wrongCount

theorem edgesOf (isStatement : shared.IsStatement here there) :
    ReadAlike source other (shared.IsCommand inside) (Statement.edgesOf here)
      (Statement.edgesOf there) := by
  have areOperands := isStatement.operands
  rw [Statement.edgesOf, Statement.edgesOf]
  generalize here.operands = operands, there.operands = otherOperands at areOperands ⊢
  rcases areOperands with _ | ⟨stations, _ | ⟨second, rest⟩⟩
  · exact .error (isStatement.wrongCount 1 .edges)
  · apply (isStatement.names stations 2 .edges).bind
    intro items otherItems areItems
    apply Outcome.Agree.ok
    apply IsCommand.edges
    rw [List.forall₂_map_left_iff, List.forall₂_map_right_iff]
    exact areItems.imp fun item otherItem isItem => isItem.string
  · exact .error (isStatement.wrongCount 1 .edges)

theorem endpointOf (isStatement : shared.IsStatement here there) :
    ReadAlike source other (shared.IsCommand inside) (Statement.endpointOf here)
      (Statement.endpointOf there) := by
  have areOperands := isStatement.operands
  rw [Statement.endpointOf, Statement.endpointOf]
  generalize here.operands = operands, there.operands = otherOperands at areOperands ⊢
  rcases areOperands with _ | ⟨station, _ | ⟨kind, _ | ⟨third, rest⟩⟩⟩
  · exact .error (isStatement.wrongCount 2 .endpoint)
  · exact .error (isStatement.wrongCount 2 .endpoint)
  · apply (isStatement.quoted station .endpoint).bind
    rintro station otherStation ⟨-, isStation⟩
    apply (isStatement.word kind .endpoint).bind
    intro kind otherKind isKind
    exact .ok (.endpoint isStation.located isKind.located)
  · exact .error (isStatement.wrongCount 2 .endpoint)

theorem underLine (isStatement : shared.IsStatement here there)
    {read otherRead : Except Diagnostic Command}
    (alike : ReadAlike source other (shared.IsCommand inside) read otherRead) :
    ReadAlike source other (shared.IsCommand inside) (Statement.underLine inside here read)
      (Statement.underLine inside there otherRead) := by
  rw [Statement.underLine, Statement.underLine, ← isStatement.keyword]
  split
  · exact alike
  · exact .error (isStatement.alike (by trivial) isStatement.marks)

theorem multiLine (isStatement : shared.IsStatement here there) :
    ReadAlike source other (shared.IsCommand inside)
      (if here.operands.isEmpty then .ok .multiLine else .error (here.wrongCount 0 .multiLine))
      (if there.operands.isEmpty then .ok .multiLine
        else .error (there.wrongCount 0 .multiLine)) := by
  have areOperands := isStatement.operands
  have wrongCount := isStatement.wrongCount 0 .multiLine
  generalize here.operands = operands, there.operands = otherOperands at areOperands ⊢
  cases areOperands with
  | nil => exact .ok .multiLine
  | cons first rest => exact .error wrongCount

theorem equal (isStatement : shared.IsStatement here there) :
    ReadAlike source other (shared.IsCommand inside)
      (match here.operands with
        | [left, right] => do
            let left ← Statement.readTerms inside here left
            let right ← Statement.readTerms inside here right
            .ok (.alignment (.equal left right))
        | _ => .error (here.wrongCount 2 .equal))
      (match there.operands with
        | [left, right] => do
            let left ← Statement.readTerms inside there left
            let right ← Statement.readTerms inside there right
            .ok (.alignment (.equal left right))
        | _ => .error (there.wrongCount 2 .equal)) := by
  have areOperands := isStatement.operands
  have wrongCount := isStatement.wrongCount 2 .equal
  generalize here.operands = operands, there.operands = otherOperands at areOperands ⊢
  rcases areOperands with _ | ⟨left, _ | ⟨right, _ | ⟨third, rest⟩⟩⟩
  · exact .error wrongCount
  · exact .error wrongCount
  · apply (isStatement.readTerms left).bind
    intro left otherLeft isLeft
    apply (isStatement.readTerms right).bind
    intro right otherRight isRight
    exact .ok (.alignment (.equal isLeft isRight))
  · exact .error wrongCount

theorem command (isStatement : shared.IsStatement here there) :
    ReadAlike source other (shared.IsCommand inside) (here.command inside)
      (there.command inside) := by
  rw [Statement.command, Statement.command, ← isStatement.keyword]
  generalize here.keyword = keyword
  split
  · exact isStatement.header
  · exact isStatement.multiLine
  · exact isStatement.multiLine
  · exact isStatement.underLine (isStatement.stationOf .station)
  · exact isStatement.underLine (isStatement.stationOf .alignmentPoint)
  · exact isStatement.underLine isStatement.edgesOf
  · exact isStatement.underLine isStatement.curveOf
  · exact isStatement.underLine isStatement.endpointOf
  · exact isStatement.listAlignment fun _ _ => .axis .vertical
  · exact isStatement.listAlignment fun _ _ => .axis .horizontal
  · exact isStatement.listAlignment fun _ _ => .diagonal .rising
  · exact isStatement.listAlignment fun _ _ => .diagonal .rising
  · exact isStatement.listAlignment fun _ _ => .diagonal .falling
  · exact isStatement.listAlignment fun _ _ => .diagonal .falling
  · exact isStatement.sameStationOf
  · exact isStatement.equal
  · exact isStatement.overlapOf
  · exact .error (isStatement.alike (by trivial) isStatement.head.marks)

end IsStatement

end SharedLine

end TransitMap
