import TransitMap.Proofs.Source.Draft
import TransitMap.Proofs.Source.SharedCommand

namespace TransitMap

theorem Text.StandsAt.slice_eq {source text : List Char} {span : Span}
    (standsAt : StandsAt source span text) : slice source span.start span.stop = text := by
  obtain ⟨before, after, rfl, isStart, isStop⟩ := standsAt
  rw [← isStart, ← isStop, slice_append]

theorem Span.Agree.slice_eq {source other : List Char} {here there : Span}
    (agree : Agree source other here there) :
    Text.slice source here.start here.stop = Text.slice other there.start there.stop := by
  obtain ⟨text, standsAt, otherStandsAt⟩ := agree
  rw [standsAt.slice_eq, otherStandsAt.slice_eq]

theorem getElem?_of_forall₂ {α β : Type} {R : α → β → Prop} {left : List α} {right : List β}
    (related : List.Forall₂ R left right) (index : Nat) :
    Option.Rel R left[index]? right[index]? := by
  induction related generalizing index with
  | nil => exact .none
  | cons first rest ih =>
      cases index with
      | zero => exact .some first
      | succ index => exact ih index

namespace SharedLine

variable {source other : List Char}

structure IsCurveDraft (shared : SharedLine source other) (here there : CurveDraft) : Prop where
  line : here.line = there.line
  start : shared.IsValue here.start there.start
  stop : shared.IsValue here.stop there.stop
  shape : shared.IsShapeRef here.shape there.shape
  origin : shared.IsOrigin here.origin there.origin

structure IsAlignmentDraft (shared : SharedLine source other) (here there : AlignmentDraft) :
    Prop where
  rule : shared.IsRule here.line.isSome here.rule there.rule
  line : here.line = there.line
  origin : shared.IsOrigin here.origin there.origin
  text : here.text = there.text

structure IsOverlapDraft (shared : SharedLine source other) (here there : OverlapDraft) :
    Prop where
  above : shared.IsValue here.above there.above
  below : shared.IsValue here.below there.below
  origin : shared.IsOrigin here.origin there.origin

end SharedLine

variable {K : Type} {source other : List Char} {shared : SharedLine source other}

def Origin.Alike (source other : List Char) (here there : Origin) : Prop :=
  ∃ shared : SharedLine source other, shared.IsOrigin here there

def CurveDraft.Alike (source other : List Char) (here there : CurveDraft) : Prop :=
  ∃ shared : SharedLine source other, shared.IsCurveDraft here there

def AlignmentDraft.Alike (source other : List Char) (here there : AlignmentDraft) : Prop :=
  ∃ shared : SharedLine source other, shared.IsAlignmentDraft here there

def OverlapDraft.Alike (source other : List Char) (here there : OverlapDraft) : Prop :=
  ∃ shared : SharedLine source other, shared.IsOverlapDraft here there

structure Draft.Alike (source other : List Char) (here there : Draft K) : Prop where
  network : here.network = there.network
  headers : List.Forall₂ (Span.Agree source other) here.headers there.headers
  stations : List.Forall₂ (Origin.Alike source other) here.stations there.stations
  curves : List.Forall₂ (CurveDraft.Alike source other) here.curves there.curves
  alignments : List.Forall₂ (AlignmentDraft.Alike source other) here.alignments there.alignments
  overlaps : List.Forall₂ (OverlapDraft.Alike source other) here.overlaps there.overlaps
  stationCount : here.stations.length = here.network.stations.length

namespace Draft

variable {network : Network K} {here there : Draft K} {origin otherOrigin : Origin}
  {name otherName : Located String}

theorem alike_empty (source other : List Char) :
    Alike source other (empty : Draft K) empty where
  network := rfl
  headers := .nil
  stations := .nil
  curves := .nil
  alignments := .nil
  overlaps := .nil
  stationCount := rfl

theorem stationOn_alike (isOrigin : shared.IsOrigin origin otherOrigin)
    (isName : shared.IsValue name otherName) (network : Network K) (line : LineId) :
    ReadAlike source other Eq (stationOn network line name origin)
      (stationOn network line otherName otherOrigin) := by
  rw [stationOn, stationOn, ← isName.value]
  split
  · exact .ok rfl
  · exact .error (isOrigin.alike (by trivial) isName.marks)

theorem Alike.declareLine (alike : Alike source other here there)
    (isOrigin : shared.IsOrigin origin otherOrigin) (isName : shared.IsValue name otherName) :
    ReadAlike source other (fun read otherRead => read.1 = otherRead.1 ∧
      Alike source other read.2 otherRead.2) (here.declareLine name origin)
      (there.declareLine otherName otherOrigin) := by
  rw [Draft.declareLine, Draft.declareLine, ← isName.value, ← alike.network]
  split
  · next line _ =>
      apply Outcome.Agree.error
      apply Diagnostic.Alike.related _ (isOrigin.alike (by trivial) isName.marks)
      have found := getElem?_of_forall₂ alike.headers line.index
      rw [List.getD_eq_getElem?_getD, List.getD_eq_getElem?_getD]
      generalize here.headers[line.index]? = span, there.headers[line.index]? = otherSpan
        at found ⊢
      cases found with
      | some agree => exact agree
      | none => exact Span.agree_empty source other
  · next missing =>
      apply Outcome.Agree.ok
      refine ⟨rfl, rfl, List.rel_append alike.headers (.cons isName.marks.agree .nil), alike.stations,
        alike.curves, alike.alignments, alike.overlaps, ?_⟩
      simpa only [Network.addLine, missing] using alike.stationCount

theorem identifierOf_alike (isOrigin : shared.IsOrigin origin otherOrigin)
    (isName : shared.IsValue name otherName) (resolver : Resolver) (line : String)
    (kind : StationKind) :
    ReadAlike source other Eq (identifierOf resolver line kind name origin)
      (identifierOf resolver line kind otherName otherOrigin) := by
  unfold identifierOf
  rw [← isName.value]
  cases kind with
  | alignmentPoint => exact .ok rfl
  | station =>
      dsimp only
      split
      · exact .ok rfl
      · exact .error (isOrigin.alike (by trivial) isName.marks)

theorem agree_span_of_forall₂ {α : Type} {R : α → α → Prop} {items others : List α}
    (related : List.Forall₂ R items others) {origin : α → Origin}
    (alike : ∀ item otherItem, R item otherItem →
      Origin.Alike source other (origin item) (origin otherItem)) (index : Nat) :
    Span.Agree source other ((items[index]?.map fun item => (origin item).span).getD .empty)
      ((others[index]?.map fun item => (origin item).span).getD .empty) := by
  have found := getElem?_of_forall₂ related index
  generalize items[index]? = item, others[index]? = otherItem at found ⊢
  cases found with
  | some isItem =>
      obtain ⟨shared, isOrigin⟩ := alike _ _ isItem
      exact isOrigin.marks.agree
  | none => exact Span.agree_empty source other

theorem Alike.declareStation [Scalar K] (alike : Alike source other here there)
    (isOrigin : shared.IsOrigin origin otherOrigin) (isName : shared.IsValue name otherName)
    (resolver : Resolver) (line : LineId) (kind : StationKind) (x y : Int) :
    ReadAlike source other (Alike source other)
      (here.declareStation resolver line kind name x y origin)
      (there.declareStation resolver line kind otherName x y otherOrigin) := by
  rw [Draft.declareStation, Draft.declareStation, ← isName.value, ← alike.network]
  dsimp only
  split
  · apply Outcome.Agree.error
    apply Diagnostic.Alike.related _ (isOrigin.alike (by trivial) isName.marks)
    exact agree_span_of_forall₂ alike.stations (fun _ _ isOrigin => isOrigin) _
  · apply (identifierOf_alike isOrigin isName resolver _ kind).bind
    rintro identifier _ rfl
    refine .ok ⟨rfl, alike.headers, List.rel_append alike.stations (.cons ⟨shared, isOrigin⟩ .nil),
      alike.curves, alike.alignments, alike.overlaps, ?_⟩
    simp [Network.addStation, alike.stationCount]

theorem Alike.withNetwork (alike : Alike source other here there) {network : Network K}
    (same : network.stations = here.network.stations) :
    Alike source other { here with network } { there with network } :=
  ⟨rfl, alike.headers, alike.stations, alike.curves, alike.alignments, alike.overlaps,
    same ▸ alike.stationCount⟩

theorem stations_connect (network : Network K) (line : LineId) (stations : List StationId) :
    (connect network line stations).stations = network.stations := by
  fun_induction connect network line stations with
  | case1 network first second rest ih => rw [ih, Network.stations_addEdge]
  | case2 => rfl

theorem Alike.declareEdges (alike : Alike source other here there)
    (isOrigin : shared.IsOrigin origin otherOrigin) {names otherNames : List (Located String)}
    (areNames : List.Forall₂ shared.IsValue names otherNames) (line : LineId) :
    ReadAlike source other (Alike source other) (here.declareEdges line names origin)
      (there.declareEdges line otherNames otherOrigin) := by
  rw [Draft.declareEdges, Draft.declareEdges, ← alike.network]
  apply (Outcome.Agree.mapM_eq areNames fun _ _ isName =>
    stationOn_alike isOrigin isName here.network line).bind
  rintro stations _ rfl
  exact .ok (alike.withNetwork (stations_connect ..))

theorem endpointKind_alike (isOrigin : shared.IsOrigin origin otherOrigin)
    (isKind : shared.IsValue name otherName) :
    ReadAlike source other Eq (endpointKind name origin) (endpointKind otherName otherOrigin) := by
  rw [endpointKind, endpointKind, ← isKind.value]
  dsimp only
  split
  · exact .error (isOrigin.alike (by trivial) isKind.marks)
  · split
    · exact .ok rfl
    · split
      · exact .ok rfl
      · exact .error (isOrigin.alike (by trivial) isKind.marks)

theorem Alike.declareEndpoint (alike : Alike source other here there)
    (isOrigin : shared.IsOrigin origin otherOrigin) {station otherStation kind otherKind : Located String}
    (isStation : shared.IsValue station otherStation) (isKind : shared.IsValue kind otherKind)
    (line : LineId) :
    ReadAlike source other (Alike source other) (here.declareEndpoint line station kind origin)
      (there.declareEndpoint line otherStation otherKind otherOrigin) := by
  rw [Draft.declareEndpoint, Draft.declareEndpoint, ← alike.network]
  apply (stationOn_alike isOrigin isStation here.network line).bind
  rintro station _ rfl
  apply (endpointKind_alike isOrigin isKind).bind
  rintro ⟨axis, half⟩ _ rfl
  dsimp only
  rw [← isOrigin.line.trans isOrigin.otherLine.symm]
  exact .ok (alike.withNetwork rfl)

theorem Alike.step [Scalar K] (alike : Alike source other here there) {statement otherStatement : Statement}
    (isStatement : shared.IsStatement statement otherStatement) (resolver : Resolver)
    (scope : Option LineId) :
    ReadAlike source other (fun read otherRead => read.1 = otherRead.1 ∧
      Alike source other read.2 otherRead.2) (here.step resolver source scope statement)
      (there.step resolver other scope otherStatement) := by
  have isOrigin := isStatement.isOrigin
  rw [Draft.step, Draft.step]
  apply isStatement.command.bind
  intro command otherCommand isCommand
  cases isCommand with
  | line isName =>
      apply (alike.declareLine isOrigin isName).bind
      rintro ⟨line, draft⟩ ⟨_, otherDraft⟩ ⟨rfl, alike⟩
      exact .ok ⟨rfl, alike⟩
  | multiLine => exact .ok ⟨rfl, alike⟩
  | alignment isRule =>
      -- The text of an alignment is cut from its source, in both from the same part of the line.
      have text := congrArg String.ofList isOrigin.marks.agree.slice_eq
      refine .ok ⟨rfl, alike.network, alike.headers, alike.stations, alike.curves,
        List.rel_append alike.alignments (.cons ⟨shared, ?_⟩ .nil), alike.overlaps,
        alike.stationCount⟩
      exact ⟨isRule, rfl, isOrigin, text⟩
  | overlap isAbove isBelow =>
      exact .ok ⟨rfl, alike.network, alike.headers, alike.stations, alike.curves, alike.alignments,
        List.rel_append alike.overlaps (.cons ⟨shared, isAbove, isBelow, isOrigin⟩ .nil),
        alike.stationCount⟩
  | station kind isName x y =>
      cases scope with
      | none => exact .ok ⟨rfl, alike⟩
      | some line =>
          apply (alike.declareStation isOrigin isName resolver line kind x y).bind
          intro draft otherDraft alike
          exact .ok ⟨rfl, alike⟩
  | edges areStations =>
      cases scope with
      | none => exact .ok ⟨rfl, alike⟩
      | some line =>
          apply (alike.declareEdges isOrigin areStations line).bind
          intro draft otherDraft alike
          exact .ok ⟨rfl, alike⟩
  | curve isStart isStop isShape =>
      cases scope with
      | none => exact .ok ⟨rfl, alike⟩
      | some line =>
          refine .ok ⟨rfl, alike.network, alike.headers, alike.stations,
            List.rel_append alike.curves (.cons ⟨shared, ?_⟩ .nil), alike.alignments,
            alike.overlaps, alike.stationCount⟩
          exact ⟨rfl, isStart, isStop, isShape, isOrigin⟩
  | endpoint isStation isKind =>
      cases scope with
      | none => exact .ok ⟨rfl, alike⟩
      | some line =>
          apply (alike.declareEndpoint isOrigin isStation isKind line).bind
          intro draft otherDraft alike
          exact .ok ⟨rfl, alike⟩

end Draft

def Statement.Alike (source other : List Char) (here there : Statement) : Prop :=
  ∃ shared : SharedLine source other, shared.IsStatement here there

theorem Draft.Alike.ofStatements [Scalar K] {here there : Draft K}
    (alike : Alike source other here there) {statements otherStatements : List Statement}
    (areStatements : List.Forall₂ (Statement.Alike source other) statements otherStatements)
    (resolver : Resolver) (scope : Option LineId) :
    ReadAlike source other (Alike source other)
      (Draft.ofStatements resolver source scope here statements)
      (Draft.ofStatements resolver other scope there otherStatements) := by
  induction areStatements generalizing here there scope with
  | nil => exact .ok alike
  | cons isStatement rest ih =>
      obtain ⟨shared, isStatement⟩ := isStatement
      apply (alike.step isStatement resolver scope).bind
      rintro ⟨scope, draft⟩ ⟨_, otherDraft⟩ ⟨rfl, alike⟩
      exact ih alike scope

end TransitMap
