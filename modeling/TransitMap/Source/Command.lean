import TransitMap.Network.Shape
import TransitMap.Network.Endpoint
import TransitMap.Network.Basic
import TransitMap.Source.Statement
import TransitMap.Text.Escape
import TransitMap.Text.Integer

namespace TransitMap

structure StationRef where
  line : Option String
  name : String
  span : Span
  deriving DecidableEq, Repr

structure CurveRef where
  line : Option (Located String)
  start : Located String
  stop : Located String
  span : Span
  deriving DecidableEq, Repr

inductive ShapeRef where
  | bend (bend : Bend)
  | parallel (bend : Bend) (target : CurveRef)
  | sequence (stations : List (Located String)) (bends : List Bend)
  | join (parts : List CurveRef)
  deriving DecidableEq, Repr

structure TermRef where
  station : StationRef
  component : Component
  deriving DecidableEq, Repr

inductive AlignmentRef where
  | axis (axis : Axis) (stations : List StationRef)
  | diagonal (diagonal : Diagonal) (stations : List StationRef)
  | sameStation (relation : Relation) (pairs : List (StationRef × StationRef))
  | equal (left right : List TermRef)
  deriving DecidableEq, Repr

inductive Command where
  | line (name : Located String)
  | multiLine
  | station (kind : StationKind) (name : Located String) (x y : Int)
  | edges (stations : List (Located String))
  | curve (start stop : Located String) (shape : ShapeRef)
  | endpoint (station kind : Located String)
  | alignment (rule : AlignmentRef)
  | overlap (above below : Located String)
  deriving DecidableEq, Repr

namespace Statement

def readInteger (statement : Statement) (argument : Argument) (usage : Usage) :
    Except Diagnostic Int := do
  let argument ← statement.word argument usage
  match Text.integer? Scalar.leastGrid Scalar.greatestGrid argument.text with
  | some value => .ok value
  | none => .error (statement.diagnostic (.notAnInteger argument.string) argument.span)

def qualifiedRef (statement : Statement) (item : Located (List Char)) :
    Except Diagnostic StationRef :=
  let malformed :=
    statement.diagnostic (.unqualifiedStation (String.ofList item.value)) item.span
  match Text.splitOnce? ':' item.value with
  | none => .error malformed
  | some (line, name) =>
      if (Text.trim line).isEmpty || (Text.trim name).isEmpty then .error malformed
      else .ok
        ⟨some (String.ofList (Text.trim line)), String.ofList (Text.unescape (Text.trim name)), item.span⟩

/-- A reference to a station: by its own name among the statements of a line, elsewhere with the
name of its line. -/
def stationRef (inside : Bool) (statement : Statement) (item : Located (List Char)) :
    Except Diagnostic StationRef :=
  if inside then .ok ⟨none, String.ofList (Text.unescape item.value), item.span⟩
  else qualifiedRef statement item

def bendOf (text : List Char) : Except ShapeFault Bend := do
  let some (first, second) := Text.splitOnce? ',' text | .error .noComma
  let direction (part : List Char) : Except ShapeFault Direction :=
    match Direction.ofKeyword? (String.ofList (Text.trim part)) with
    | some direction => .ok direction
    | none => .error (.unknownDirection (String.ofList (Text.trim part)))
  let bend : Bend := ⟨← direction first, ← direction second⟩
  if bend.kind?.isSome then .ok bend else .error .notATurn

def readBend (statement : Statement) (text : List Char) (span : Span) : Except Diagnostic Bend :=
  match bendOf text with
  | .ok bend => .ok bend
  | .error fault =>
      .error (statement.diagnostic (.invalidShape (String.ofList text) fault) span)

def namedCurve (statement : Statement) (argument : Argument) : Except Diagnostic CurveRef :=
  let malformed :=
    statement.diagnostic (.malformedCurveReference argument.string) argument.span
  match Text.splitOnce? ':' argument.text with
  | none => .error malformed
  | some (line, stations) =>
      let start := argument.span.start + 1 + Text.byteLength line + 1
      match itemsAt ',' start (Text.pieces ',' stations) with
      | [first, second] =>
          if (Text.trim line).isEmpty || first.value.isEmpty || second.value.isEmpty then
            .error malformed
          else
            let name : Located String := ⟨String.ofList (Text.trim line), argument.span⟩
            .ok ⟨some name, first.string, second.string, argument.span⟩
      | _ => .error malformed

def parallelTarget (statement : Statement) (start stop : Located String) (keyword : Argument)
    (operands : List Argument) : Except Diagnostic CurveRef := do
  let keyword ← statement.word keyword .curve
  if keyword.string != "parallelto" then .error (statement.wrongCount 2 .curve)
  else
    match operands with
    | [line] => do
        let line ← statement.word line .curve
        .ok ⟨some line.located, start, stop, line.span⟩
    | [keyword, reference] => do
        let keyword ← statement.word keyword .parallelCurve
        if keyword.string != "curve" then
          .error (statement.diagnostic (.notCurveKeyword keyword.string) keyword.span)
        else do
          let reference ← statement.quoted reference .parallelCurve
          namedCurve statement reference
    | _ => .error (statement.wrongCount 5 .parallelCurve)

def joinPart (statement : Statement) (argument : Argument) : Except Diagnostic CurveRef := do
  let (start, stop) ← statement.pair argument .join
  .ok ⟨none, start.string, stop.string, argument.span⟩

def sequenceShape (statement : Statement) (start stop : Located String)
    (stations shapes : Argument) : Except Diagnostic ShapeRef := do
  let names ← statement.names stations 2 .sequence
  let shapes ← statement.quoted shapes .sequence
  let bends ← (shapes.items ':').mapM fun item => readBend statement item.value item.span
  if names.length ≠ bends.length + 1 then
    .error (statement.diagnostic (.sequenceShapes names.length bends.length) shapes.span)
  else if (names.head?.map (String.ofList ·.value)) ≠ some start.value
      ∨ (names.getLast?.map (String.ofList ·.value)) ≠ some stop.value then
    .error (statement.diagnostic (.sequenceEnds start.value stop.value) stations.span)
  else .ok (.sequence (names.map Located.string) bends)

def sequenceOf (statement : Statement) (start stop : Located String) (operands : List Argument) :
    Except Diagnostic ShapeRef :=
  match operands with
  | [stations, shapes] => sequenceShape statement start stop stations shapes
  | _ => .error (statement.wrongCount 4 .sequence)

def joinOf (statement : Statement) (parts : List Argument) : Except Diagnostic ShapeRef :=
  if parts.isEmpty then .error (statement.wrongCount 4 .join)
  else (parts.mapM (joinPart statement)).map .join

def specialShape (statement : Statement) (start stop : Located String) (operands : List Argument) :
    Except Diagnostic ShapeRef :=
  match operands with
  | [] => sequenceOf statement start stop operands
  | first :: parts =>
      if first.kind = .word && first.string == "of" then joinOf statement parts
      else if first.kind = .word && first.string == "parallelto" then
        .error (statement.diagnostic .parallelSpecial first.span)
      else sequenceOf statement start stop operands

def curveOf (statement : Statement) : Except Diagnostic Command := do
  match statement.operands with
  | stations :: shape :: operands => do
      let (start, stop) ← statement.pair stations .curve
      let shape ← statement.word shape .curve
      if shape.string == "special" then
        let shape ← specialShape statement start.string stop.string operands
        .ok (.curve start.string stop.string shape)
      else
        let bend ← readBend statement shape.text shape.span
        match operands with
        | [] => .ok (.curve start.string stop.string (.bend bend))
        | keyword :: operands => do
            let target ← parallelTarget statement start.string stop.string keyword operands
            .ok (.curve start.string stop.string (.parallel bend target))
  | _ => .error (statement.wrongCount 2 .curve)

def splitTerm? (text : List Char) : Option (List Char × Component) := do
  let dot ← Text.openDot? text
  let component ←
    match Text.trim (text.drop (dot + 1)) with
    | ['x'] => some .x
    | ['y'] => some .y
    | _ => none
  let name := Text.trimStop (text.take dot)
  if name.isEmpty then none else some (name, component)

def readTerm (inside : Bool) (statement : Statement) (item : Located (List Char)) :
    Except Diagnostic TermRef := do
  match splitTerm? item.value with
  | none => .error (statement.diagnostic (.malformedTerm (String.ofList item.value)) item.span)
  | some (name, component) => do
      let place : Span := .between item.span.start (item.span.start + Text.byteLength name)
      let station ← stationRef inside statement ⟨name, place⟩
      .ok ⟨station, component⟩

def readTerms (inside : Bool) (statement : Statement) (argument : Argument) :
    Except Diagnostic (List TermRef) := do
  let argument ← statement.quoted argument .equal
  (argument.items '+').mapM (readTerm inside statement)

def listAlignment (inside : Bool) (statement : Statement)
    (rule : List StationRef → AlignmentRef) : Except Diagnostic Command := do
  match statement.operands with
  | [stations] => do
      let items ← statement.names stations 2 .list
      let stations ← items.mapM (stationRef inside statement)
      .ok (.alignment (rule stations))
  | _ => .error (statement.wrongCount 1 .list)

def readRelation (statement : Statement) (argument : Argument) : Except Diagnostic Relation := do
  let argument ← statement.word argument .sameStation
  match Relation.ofKeyword? argument.string with
  | some relation => .ok relation
  | none => .error (statement.diagnostic (.unknownRelation argument.string) argument.span)

def sameStationOf (statement : Statement) : Except Diagnostic Command := do
  match statement.operands with
  | [first, relation, second] => do
      let first ← statement.quoted first .sameStation
      let relation ← readRelation statement relation
      let second ← statement.quoted second .sameStation
      let first ← qualifiedRef statement ⟨Text.trim first.text, first.span⟩
      let second ← qualifiedRef statement ⟨Text.trim second.text, second.span⟩
      .ok (.alignment (.sameStation relation [(first, second)]))
  | [first, relation, second, stations] => do
      let first ← statement.word first .sameStation
      let relation ← readRelation statement relation
      let second ← statement.word second .sameStation
      let items ← statement.names stations 1 .sameStation
      let station (line : Argument) (item : Located (List Char)) : StationRef :=
        ⟨some line.string, String.ofList (Text.unescape item.value), item.span⟩
      .ok (.alignment (.sameStation relation
        (items.map fun item => (station first item, station second item))))
  | _ => .error (statement.wrongCount 3 .sameStation)

def overlapOf (statement : Statement) : Except Diagnostic Command := do
  match statement.operands with
  | [first, relation, second] => do
      let first ← statement.word first .overlap
      let relation ← statement.word relation .overlap
      let second ← statement.word second .overlap
      match relation.string with
      | "above" => .ok (.overlap first.located second.located)
      | "below" => .ok (.overlap second.located first.located)
      | other => .error (statement.diagnostic (.notAboveOrBelow other) relation.span)
  | _ => .error (statement.wrongCount 3 .overlap)

/-- The header of a line. One colon may end its name. -/
def header (statement : Statement) : Except Diagnostic Command := do
  match statement.operands with
  | [name] => do
      let name ← statement.word name .line
      let text := if name.text.getLast? = some ':' then name.text.dropLast else name.text
      if text.isEmpty then .error (statement.diagnostic .emptyLineName name.span)
      else .ok (.line ⟨String.ofList text, name.span⟩)
  | _ => .error (statement.wrongCount 1 .line)

def stationOf (statement : Statement) (kind : StationKind) : Except Diagnostic Command := do
  match statement.operands with
  | [name, x, y] => do
      let name ← statement.quoted name .station
      let x ← readInteger statement x .station
      let y ← readInteger statement y .station
      if (Text.trim name.text).isEmpty then
        .error (statement.diagnostic .emptyStationName name.span)
      else .ok (.station kind name.located x y)
  | _ => .error (statement.wrongCount 3 .station)

def edgesOf (statement : Statement) : Except Diagnostic Command := do
  match statement.operands with
  | [stations] => do
      let items ← statement.names stations 2 .edges
      .ok (.edges (items.map Located.string))
  | _ => .error (statement.wrongCount 1 .edges)

def endpointOf (statement : Statement) : Except Diagnostic Command := do
  match statement.operands with
  | [station, kind] => do
      let station ← statement.quoted station .endpoint
      let kind ← statement.word kind .endpoint
      .ok (.endpoint station.located kind.located)
  | _ => .error (statement.wrongCount 2 .endpoint)

/-- Refuses a statement that has to stand under a line. -/
def underLine (inside : Bool) (statement : Statement) (read : Except Diagnostic Command) :
    Except Diagnostic Command :=
  if inside then read
  else .error (statement.diagnostic (.outsideLine statement.keyword) statement.span)

def command (inside : Bool) (statement : Statement) : Except Diagnostic Command :=
  match statement.keyword with
  | "line" => header statement
  | "multi-line" | "multi-line:" =>
      if statement.operands.isEmpty then .ok .multiLine
      else .error (statement.wrongCount 0 .multiLine)
  | "station" => underLine inside statement (stationOf statement .station)
  | "alignment-point" => underLine inside statement (stationOf statement .alignmentPoint)
  | "edges" => underLine inside statement (edgesOf statement)
  | "curve" => underLine inside statement (curveOf statement)
  | "endpoint" => underLine inside statement (endpointOf statement)
  | "vertical" => listAlignment inside statement (.axis .vertical)
  | "horizontal" => listAlignment inside statement (.axis .horizontal)
  | "up-right" | "down-left" => listAlignment inside statement (.diagonal .rising)
  | "down-right" | "up-left" => listAlignment inside statement (.diagonal .falling)
  | "same-station" => sameStationOf statement
  | "equal" =>
      match statement.operands with
      | [left, right] => do
          let left ← readTerms inside statement left
          let right ← readTerms inside statement right
          .ok (.alignment (.equal left right))
      | _ => .error (statement.wrongCount 2 .equal)
  | "zindex" => overlapOf statement
  | other => .error (statement.diagnostic (.unknownStatement other) statement.head.span)

end Statement

end TransitMap
