import TransitMap.Proofs.Source.CurveReferences

namespace TransitMap

def Axis.keyword : Axis → String
  | vertical => "vertical"
  | horizontal => "horizontal"

def Diagonal.keywords : Diagonal → List String
  | rising => ["up-right", "down-left"]
  | falling => ["down-right", "up-left"]

namespace Network

variable {K : Type} {network : Network K}

/-- The station that a text names: one of the line if it stands under one, and else one behind the
name of its line and a colon. -/
def IsMeant (network : Network K) (scope : Option String) (text : List Char) (station : StationId) :
    Prop :=
  match scope with
  | some line => network.StationOf line (String.ofList (Text.unescape text)) station
  | none => ∃ line name, Text.splitOnce? ':' text = some (line, name) ∧
      network.StationOf (String.ofList (Text.trim line))
        (String.ofList (Text.unescape (Text.trim name))) station

def IsTermOf (network : Network K) (scope : Option String) (text : List Char) (term : Term) : Prop :=
  ∃ name, Statement.splitTerm? text = some (name, term.component) ∧
    network.IsMeant scope name term.station

inductive IsRule (network : Network K) (scope : Option String) :
    String → List Argument → AlignmentRule → Prop
  | axis {axis : Axis} {keyword : String} {stations : Argument} {ids : List StationId}
      (isKeyword : keyword = axis.keyword)
      (areStations : List.Forall₂ (network.IsMeant scope) (Text.items ',' stations.text) ids) :
      IsRule network scope keyword [stations] (.axis axis ids)
  | diagonal {diagonal : Diagonal} {keyword : String} {stations : Argument} {ids : List StationId}
      (isKeyword : keyword ∈ diagonal.keywords)
      (areStations : List.Forall₂ (network.IsMeant scope) (Text.items ',' stations.text) ids) :
      IsRule network scope keyword [stations] (.diagonal diagonal ids)
  | sameStation {first word second : Argument} {relation : Relation} {pair : StationId × StationId}
      (isRelation : Relation.ofKeyword? word.string = some relation)
      (isFirst : network.IsMeant none (Text.trim first.text) pair.1)
      (isSecond : network.IsMeant none (Text.trim second.text) pair.2) :
      IsRule network scope "same-station" [first, word, second] (.sameStation relation [pair])
  | sameStations {first word second stations : Argument} {relation : Relation}
      {pairs : List (StationId × StationId)}
      (isRelation : Relation.ofKeyword? word.string = some relation)
      (areStations : List.Forall₂ (fun text pair =>
        network.StationOf first.string (String.ofList (Text.unescape text)) pair.1 ∧
          network.StationOf second.string (String.ofList (Text.unescape text)) pair.2)
        (Text.items ',' stations.text) pairs) :
      IsRule network scope "same-station" [first, word, second, stations] (.sameStation relation pairs)
  | equal {left right : Argument} {leftTerms rightTerms : List Term}
      (isLeft : List.Forall₂ (network.IsTermOf scope) (Text.items '+' left.text) leftTerms)
      (isRight : List.Forall₂ (network.IsTermOf scope) (Text.items '+' right.text) rightTerms) :
      IsRule network scope "equal" [left, right] (.equal leftTerms rightTerms)

structure IsAlignmentOf (network : Network K) (entry : ScopedStatement) (alignment : Alignment) :
    Prop where
  scope : entry.scope = alignment.line.map network.lineName
  rule : network.IsRule entry.scope entry.statement.keyword entry.statement.operands alignment.rule
  sourceLine : alignment.sourceLine = entry.statement.line

/-- The upper line is the one before `above` or behind `below`. -/
def IsOverlapOf (network : Network K) (entry : ScopedStatement) (overlap : Overlap) : Prop :=
  ∃ first word second, entry.statement.operands = [first, word, second] ∧
    (word.string = "above" ∧ network.lineNamed? first.string = some overlap.above ∧
        network.lineNamed? second.string = some overlap.below ∨
      word.string = "below" ∧ network.lineNamed? second.string = some overlap.above ∧
        network.lineNamed? first.string = some overlap.below) ∧
    overlap.sourceLine = entry.statement.line

end Network

namespace Statement

variable {statement : Statement} {inside : Bool}

theorem of_listAlignment {make : List StationRef → AlignmentRef} {rule : AlignmentRef}
    (read : listAlignment inside statement make = .ok (.alignment rule)) :
    ∃ stations references, statement.operands = [stations] ∧ rule = make references ∧
      (stations.items ',').mapM (stationRef inside statement) = .ok references := by
  unfold listAlignment at read
  split at read
  · next stations operands =>
      simp only [Outcome.bind_eq_ok, Except.ok.injEq, Command.alignment.injEq] at read
      obtain ⟨_, areNames, references, areStations, rfl⟩ := read
      obtain ⟨-, rfl⟩ := items_of_names areNames
      exact ⟨stations, references, operands, rfl, areStations⟩
  · cases read

theorem relation_of_readRelation {argument : Argument} {relation : Relation}
    (read : readRelation statement argument = .ok relation) :
    Relation.ofKeyword? argument.string = some relation := by
  simp only [readRelation, Outcome.bind_eq_ok] at read
  obtain ⟨argument, isWord, read⟩ := read
  obtain ⟨-, rfl⟩ := eq_of_word isWord
  split at read
  · next isRelation => rw [isRelation, Except.ok.inj read]
  · cases read

theorem items_of_readTerms {argument : Argument} {references : List TermRef}
    (read : readTerms inside statement argument = .ok references) :
    (argument.items '+').mapM (readTerm inside statement) = .ok references := by
  simp only [readTerms, Outcome.bind_eq_ok] at read
  obtain ⟨argument, isQuoted, read⟩ := read
  obtain ⟨-, rfl⟩ := eq_of_quoted isQuoted
  exact read

theorem overlap_of_overlapOf {above below : Located String}
    (read : overlapOf statement = .ok (.overlap above below)) :
    ∃ first word second, statement.operands = [first, word, second] ∧
      (word.string = "above" ∧ above.value = first.string ∧ below.value = second.string ∨
        word.string = "below" ∧ above.value = second.string ∧ below.value = first.string) := by
  unfold overlapOf at read
  split at read
  · next first word second operands =>
      simp only [Outcome.bind_eq_ok] at read
      obtain ⟨first, isFirst, word, isWord, second, isSecond, read⟩ := read
      obtain ⟨-, rfl⟩ := eq_of_word isFirst
      obtain ⟨-, rfl⟩ := eq_of_word isWord
      obtain ⟨-, rfl⟩ := eq_of_word isSecond
      refine ⟨first, word, second, operands, ?_⟩
      split at read
      · next isAbove =>
          cases read
          exact .inl ⟨isAbove, rfl, rfl⟩
      · next isBelow =>
          cases read
          exact .inr ⟨isBelow, rfl, rfl⟩
      · cases read
  · cases read

end Statement

namespace Network

variable {K : Type} {network : Network K} {alignment : AlignmentDraft} {statement : Statement}

theorem stationOf_of_resolveStation (declared : network.Declared) {reference : StationRef}
    {line : String} (isLine : reference.line = some line) {station : StationId}
    (resolved : Draft.resolveStation network alignment reference = .ok station) :
    network.StationOf line reference.name station := by
  simp only [Draft.resolveStation, Draft.stationLine, isLine, Outcome.bind_eq_ok] at resolved
  obtain ⟨id, isNamed, found⟩ := resolved
  have isNamed := Draft.lineNamed?_of_lineCalled isNamed
  exact stationOf_of_stationOn declared isNamed found

theorem isMeant_of_qualifiedRef (declared : network.Declared) {item : Located (List Char)}
    {reference : StationRef} (read : Statement.qualifiedRef statement item = .ok reference)
    {station : StationId}
    (resolved : Draft.resolveStation network alignment reference = .ok station) :
    network.IsMeant none item.value station := by
  unfold Statement.qualifiedRef at read
  dsimp only at read
  split at read
  · cases read
  · next line name isSplit =>
      split at read
      · cases read
      · obtain rfl := Except.ok.inj read
        exact ⟨line, name, isSplit, stationOf_of_resolveStation declared rfl resolved⟩

theorem isMeant_of_stationRef (declared : network.Declared)
    (known : Draft.UnderLine network alignment.line) {item : Located (List Char)}
    {reference : StationRef}
    (read : Statement.stationRef alignment.line.isSome statement item = .ok reference)
    {station : StationId}
    (resolved : Draft.resolveStation network alignment reference = .ok station) :
    network.IsMeant (alignment.line.map network.lineName) item.value station := by
  unfold Statement.stationRef at read
  cases isLine : alignment.line with
  | none =>
      rw [isLine] at read
      exact isMeant_of_qualifiedRef declared read resolved
  | some line =>
      rw [isLine] at read
      obtain rfl := Except.ok.inj read
      simp only [Draft.resolveStation, Draft.stationLine, isLine, Outcome.bind_eq_ok,
        Except.ok.injEq, exists_eq_left'] at resolved
      exact stationOf_of_stationOn declared (declared.lineNamed?_lineName (known line isLine)) resolved

theorem areMeant_of_stationRefs (declared : network.Declared)
    (known : Draft.UnderLine network alignment.line) {stations : Argument}
    {references : List StationRef}
    (read : (stations.items ',').mapM (Statement.stationRef alignment.line.isSome statement) =
      .ok references) {ids : List StationId}
    (resolved : references.mapM (Draft.resolveStation network alignment) = .ok ids) :
    List.Forall₂ (network.IsMeant (alignment.line.map network.lineName))
      (Text.items ',' stations.text) ids := by
  rw [← Argument.values_items, List.forall₂_map_left_iff]
  apply Outcome.forall₂_trans (Outcome.mapM_eq_ok.mp read) (Outcome.mapM_eq_ok.mp resolved)
  intro item reference id isReference isResolved
  exact isMeant_of_stationRef declared known isReference isResolved

theorem areTerms_of_readTerms (declared : network.Declared)
    (known : Draft.UnderLine network alignment.line) {argument : Argument}
    {references : List TermRef}
    (read : Statement.readTerms alignment.line.isSome statement argument = .ok references)
    {terms : List Term}
    (resolved : references.mapM (Draft.resolveTerm network alignment) = .ok terms) :
    List.Forall₂ (network.IsTermOf (alignment.line.map network.lineName))
      (Text.items '+' argument.text) terms := by
  have read := Statement.items_of_readTerms read
  rw [← Argument.values_items, List.forall₂_map_left_iff]
  apply Outcome.forall₂_trans (Outcome.mapM_eq_ok.mp read) (Outcome.mapM_eq_ok.mp resolved)
  intro item reference term isReference isResolved
  simp only [Draft.resolveTerm, Outcome.bind_eq_ok, Except.ok.injEq] at isResolved
  obtain ⟨id, isResolved, rfl⟩ := isResolved
  unfold Statement.readTerm at isReference
  split at isReference
  · cases isReference
  · next name component isSplit =>
      simp only [Outcome.bind_eq_ok, Except.ok.injEq] at isReference
      obtain ⟨station, isStation, rfl⟩ := isReference
      exact ⟨name, isSplit, isMeant_of_stationRef declared known isStation isResolved⟩

variable {rule : AlignmentRule}

theorem isRule_of_axis (declared : network.Declared)
    (known : Draft.UnderLine network alignment.line) {axis : Axis}
    (read : Statement.listAlignment alignment.line.isSome statement (.axis axis) =
      .ok (.alignment alignment.rule))
    (isKeyword : statement.keyword = axis.keyword)
    (resolved : Draft.resolveRule network alignment = .ok rule) :
    network.IsRule (alignment.line.map network.lineName) statement.keyword statement.operands rule := by
  obtain ⟨stations, references, operands, isRule, areReferences⟩ := Statement.of_listAlignment read
  simp only [Draft.resolveRule, isRule, Outcome.bind_eq_ok, Except.ok.injEq] at resolved
  obtain ⟨ids, areStations, rfl⟩ := resolved
  rw [operands]
  exact .axis isKeyword (areMeant_of_stationRefs declared known areReferences areStations)

theorem isRule_of_diagonal (declared : network.Declared)
    (known : Draft.UnderLine network alignment.line) {diagonal : Diagonal}
    (read : Statement.listAlignment alignment.line.isSome statement (.diagonal diagonal) =
      .ok (.alignment alignment.rule))
    (isKeyword : statement.keyword ∈ diagonal.keywords)
    (resolved : Draft.resolveRule network alignment = .ok rule) :
    network.IsRule (alignment.line.map network.lineName) statement.keyword statement.operands rule := by
  obtain ⟨stations, references, operands, isRule, areReferences⟩ := Statement.of_listAlignment read
  simp only [Draft.resolveRule, isRule, Outcome.bind_eq_ok, Except.ok.injEq] at resolved
  obtain ⟨ids, areStations, rfl⟩ := resolved
  rw [operands]
  exact .diagonal isKeyword (areMeant_of_stationRefs declared known areReferences areStations)

theorem isRule_of_sameStation (declared : network.Declared) (scope : Option String)
    (read : Statement.sameStationOf statement = .ok (.alignment alignment.rule))
    (resolved : Draft.resolveRule network alignment = .ok rule) :
    network.IsRule scope "same-station" statement.operands rule := by
  unfold Statement.sameStationOf at read
  split at read
  · next operands =>
      simp only [Outcome.bind_eq_ok, Except.ok.injEq, Command.alignment.injEq] at read
      obtain ⟨first, isFirst, relation, isRelation, second, isSecond, firstRef, readFirst, secondRef,
        readSecond, isRule⟩ := read
      obtain ⟨-, rfl⟩ := Statement.eq_of_quoted isFirst
      obtain ⟨-, rfl⟩ := Statement.eq_of_quoted isSecond
      simp only [Draft.resolveRule, ← isRule, Outcome.bind_eq_ok, Except.ok.injEq, List.mapM_cons,
        List.mapM_nil, Outcome.pure_eq_ok] at resolved
      obtain ⟨_, ⟨pair, isPair, _, rfl, rfl⟩, rfl⟩ := resolved
      simp only [Draft.resolvePair, Outcome.bind_eq_ok, Except.ok.injEq] at isPair
      obtain ⟨firstId, firstFound, secondId, secondFound, rfl⟩ := isPair
      rw [operands]
      exact .sameStation (Statement.relation_of_readRelation isRelation)
        (isMeant_of_qualifiedRef declared readFirst firstFound)
        (isMeant_of_qualifiedRef declared readSecond secondFound)
  · next operands =>
      simp only [Outcome.bind_eq_ok, Except.ok.injEq, Command.alignment.injEq] at read
      obtain ⟨first, isFirst, relation, isRelation, second, isSecond, _, areNames, isRule⟩ := read
      obtain ⟨-, rfl⟩ := Statement.eq_of_word isFirst
      obtain ⟨-, rfl⟩ := Statement.eq_of_word isSecond
      obtain ⟨-, rfl⟩ := Statement.items_of_names areNames
      simp only [Draft.resolveRule, ← isRule, Outcome.bind_eq_ok, Except.ok.injEq] at resolved
      obtain ⟨pairs, arePairs, rfl⟩ := resolved
      rw [operands]
      refine .sameStations (Statement.relation_of_readRelation isRelation) ?_
      rw [← Argument.values_items, List.forall₂_map_left_iff]
      have arePairs := Outcome.mapM_eq_ok.mp arePairs
      rw [List.forall₂_map_left_iff] at arePairs
      apply arePairs.imp
      intro item pair isPair
      simp only [Draft.resolvePair, Outcome.bind_eq_ok, Except.ok.injEq] at isPair
      obtain ⟨firstId, firstFound, secondId, secondFound, rfl⟩ := isPair
      exact ⟨stationOf_of_resolveStation declared rfl firstFound,
        stationOf_of_resolveStation declared rfl secondFound⟩
  · cases read

theorem isRule_of_command (declared : network.Declared)
    (known : Draft.UnderLine network alignment.line)
    (read : statement.command alignment.line.isSome = .ok (.alignment alignment.rule))
    (resolved : Draft.resolveRule network alignment = .ok rule) :
    network.IsRule (alignment.line.map network.lineName) statement.keyword statement.operands rule := by
  have isKeyword := Statement.keyword_of_command read
  simp only [Command.keywords, alignmentKeywords, List.mem_cons, List.not_mem_nil, or_false] at isKeyword
  -- The keyword decides how the operands are read, and the reading decides what is resolved.
  rcases isKeyword with same | same | same | same | same | same | same | same
  all_goals simp only [Statement.command, same] at read
  · exact isRule_of_axis declared known read same resolved
  · exact isRule_of_axis declared known read same resolved
  · exact isRule_of_diagonal declared known read (by simp [same, Diagonal.keywords]) resolved
  · exact isRule_of_diagonal declared known read (by simp [same, Diagonal.keywords]) resolved
  · exact isRule_of_diagonal declared known read (by simp [same, Diagonal.keywords]) resolved
  · exact isRule_of_diagonal declared known read (by simp [same, Diagonal.keywords]) resolved
  · rw [same]
    exact isRule_of_sameStation declared _ read resolved
  · split at read
    · next left right operands =>
        simp only [Outcome.bind_eq_ok, Except.ok.injEq, Command.alignment.injEq] at read
        obtain ⟨leftRefs, isLeft, rightRefs, isRight, isRule⟩ := read
        simp only [Draft.resolveRule, ← isRule, Outcome.bind_eq_ok, Except.ok.injEq] at resolved
        obtain ⟨leftTerms, leftFound, rightTerms, rightFound, rfl⟩ := resolved
        rw [same, operands]
        exact .equal (areTerms_of_readTerms declared known isLeft leftFound)
          (areTerms_of_readTerms declared known isRight rightFound)
    · cases read

end Network

end TransitMap
