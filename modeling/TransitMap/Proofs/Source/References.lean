import TransitMap.Proofs.Source.ConstraintReferences
import TransitMap.Proofs.Source.Labels

namespace TransitMap

/-- The fallbacks of resolving: for a bend that cannot be drawn, and for a station whose line is
unknown. -/
def Diagnostic.IsFallback (fault : Diagnostic) : Prop :=
  ∃ (origin : Origin) (span : Span),
    (∃ bend, fault = origin.diagnostic (.undrawableBend bend) span) ∨
      ∃ station, fault = origin.diagnostic (.stationWithoutLine station) span

namespace Network

variable {K : Type}

/-- The curves and constraints of a network are those of the statements, in the same order. -/
structure Resolves (network : Network K) (entries : List ScopedStatement) : Prop where
  curves : List.Forall₂ (network.IsCurveOf (entries.filter ScopedStatement.isCurve))
    (entries.filter ScopedStatement.isCurve) network.curves
  alignments : List.Forall₂ network.IsAlignmentOf (entries.filter ScopedStatement.isAlignment)
    network.alignments
  overlaps : List.Forall₂ network.IsOverlapOf (entries.filter ScopedStatement.isOverlap)
    network.overlaps

end Network

namespace Draft

variable {K : Type} {draft : Draft K} {network : Network K} {places : List CurvePlace}
  {entries : List ScopedStatement}

theorem Describes.stationNamed? (describes : draft.Describes places network) (line : LineId)
    (name : String) : network.stationNamed? line name = draft.network.stationNamed? line name := by
  rw [← Network.stationNamed?_bare network, describes.bare, Network.stationNamed?_bare]

theorem Describes.grown (describes : draft.Describes places network) :
    Extends draft.network network := by
  have same := congrArg (fun bare => bare.lines.map Line.name) describes.bare
  exact ⟨[], by simpa [Network.bare, Function.comp_def] using same⟩

theorem Describes.isPlaceOf (describes : draft.Describes places network)
    (declared : network.Declared) {entry : ScopedStatement} {curve : CurveDraft} {place : CurvePlace}
    (keeps : KeepsCurve draft.network entry curve) (placed : Placed draft.network curve place) :
    network.IsPlaceOf entry (network.lineName curve.line) curve.start.value curve.stop.value place := by
  obtain ⟨scope, known, read, -⟩ := keeps.mono describes.grown
  obtain ⟨line, start, stop, -⟩ := placed
  rw [← describes.stationNamed?] at start stop
  have isLine := declared.lineNamed?_lineName known
  refine ⟨scope, Statement.ends?_of_curveOf (inside_of_curve read).2, ?_, ?_, ?_⟩
  · rwa [line]
  · rw [line]
    exact declared.names_of_stationNamed? start
  · rw [line]
    exact declared.names_of_stationNamed? stop

theorem Describes.areCurves (describes : draft.Describes places network)
    (declared : network.Declared) (keeps : draft.Keeps entries) :
    List.Forall₂ (network.IsCurveOf (entries.filter ScopedStatement.isCurve))
      (entries.filter ScopedStatement.isCurve) network.curves := by
  have located : network.Places (entries.filter ScopedStatement.isCurve) places := by
    refine ⟨declared, ?_, describes.apart⟩
    apply Outcome.forall₂_trans keeps.curves describes.placed
    intro entry curve place keeps placed
    exact ⟨_, _, _, describes.isPlaceOf declared keeps placed⟩
  have areCurves := describes.curves
  rw [← isCurve_congr describes.bare] at areCurves
  -- Shapes are resolved against the places of all curves, those of later statements included.
  have written : List.Forall₂ (fun curve found => ∃ place, Placed draft.network curve place ∧
      IsCurve network places (curve, place) found) draft.curves network.curves := by
    apply Outcome.forall₂_trans (Outcome.forall₂_zip describes.placed) areCurves
    rintro curve ⟨_, place⟩ found ⟨rfl, placed⟩ isCurve
    exact ⟨place, placed, isCurve⟩
  apply Outcome.forall₂_trans keeps.curves written
  rintro entry curve _ keeps ⟨place, placed, shape, isShape, rfl⟩
  have isPlace := describes.isPlaceOf declared keeps placed
  have isLine : network.lineNamed? (network.lineName curve.line) = some curve.line :=
    placed.line ▸ isPlace.line
  refine ⟨_, _, _, isPlace, ?_, congrArg Origin.line keeps.origin⟩
  exact located.isShape_of_curveOf isLine (inside_of_curve keeps.read).2 isShape

theorem Describes.resolves (describes : draft.Describes places network) (sound : draft.Sound)
    (keeps : draft.Keeps entries) : network.Resolves entries := by
  have declared := sound.declared.of_bare_eq describes.bare
  refine ⟨describes.areCurves declared keeps, ?_, ?_⟩
  · have areAlignments := describes.alignments
    rw [← isAlignment_congr describes.bare] at areAlignments
    apply Outcome.forall₂_trans keeps.alignments areAlignments
    rintro entry written alignment keeps ⟨rule, isRule, rfl⟩
    obtain ⟨scope, known, read, origin⟩ := keeps.mono describes.grown
    refine ⟨scope, ?_, congrArg Origin.line origin⟩
    rw [scope]
    exact Network.isRule_of_command declared known read isRule
  · have areOverlaps := describes.overlaps
    rw [← isOverlap_congr describes.bare] at areOverlaps
    apply Outcome.forall₂_trans keeps.overlaps areOverlaps
    rintro entry written overlap ⟨⟨inside, read⟩, origin⟩ ⟨isAbove, isBelow, sourceLine⟩
    have isOverlap : entry.statement.keyword = "zindex" := by
      simpa [Command.keywords] using Statement.keyword_of_command read
    simp only [Statement.command, isOverlap] at read
    obtain ⟨first, word, second, operands, order⟩ := Statement.overlap_of_overlapOf read
    refine ⟨first, word, second, operands, ?_, sourceLine.trans (congrArg Origin.line origin)⟩
    rcases order with ⟨isWord, above, below⟩ | ⟨isWord, above, below⟩
    · exact .inl ⟨isWord, above ▸ isAbove, below ▸ isBelow⟩
    · exact .inr ⟨isWord, above ▸ isAbove, below ▸ isBelow⟩

end Draft

/-- Of the complaints that arise, those with the codes of the fallbacks come with advice. -/
theorem Complaint.Arises.helped {complaint : Complaint} (arises : complaint.Arises)
    (isCode : complaint.code = .invalidShape ∨ complaint.code = .malformedReference) :
    complaint.help? ≠ none := by
  cases complaint <;> simp_all [Arises, code, help?]

namespace Diagnostic

variable {source other : List Char} {here there : Diagnostic}

theorem Alike.helped (alike : Alike source other here there)
    (isCode : here.code = .invalidShape ∨ here.code = .malformedReference) : here.help ≠ none := by
  induction alike with
  | complaint shared arises marks => exact arises.helped isCode
  | related message alike agree ih => exact ih isCode

theorem Alike.not_isFallback (alike : Alike source other here there) : ¬ here.IsFallback := by
  rintro ⟨origin, span, ⟨bend, rfl⟩ | ⟨station, rfl⟩⟩
  · exact alike.helped (.inl rfl) rfl
  · exact alike.helped (.inr rfl) rfl

theorem not_isFallback_of_mem_lexicalFaults (member : here ∈ lexicalFaults source) :
    ¬ here.IsFallback := by
  rw [lexicalFaults_eq] at member
  obtain ⟨piece, -, isDiagnostic⟩ := List.mem_filterMap.mp member
  cases piece with
  | token read => cases isDiagnostic
  | fault complaint span =>
      obtain rfl := Option.some.inj isDiagnostic
      rintro ⟨origin, place, ⟨bend, same⟩ | ⟨station, same⟩⟩
      · cases congrArg Diagnostic.line same
      · cases congrArg Diagnostic.line same

end Diagnostic

namespace Network

variable {K : Type} [Scalar K] {resolver : Resolver} {source : List Char}

theorem not_isFallback_of_ofSource {faults : List Diagnostic}
    (failed : (ofSource resolver source : Except (List Diagnostic) (Network K)) = .error faults)
    {fault : Diagnostic} (member : fault ∈ faults) : ¬ fault.IsFallback := by
  cases tokenized : tokenize source with
  | ok tokens =>
      obtain ⟨other, alike⟩ := alike_of_mem_faults tokenized failed member
      exact alike.not_isFallback
  | error diagnostics =>
      rw [ofSource, tokenized] at failed
      obtain rfl := Except.error.inj failed
      apply Diagnostic.not_isFallback_of_mem_lexicalFaults
      rwa [lexicalFaults, tokenized]

theorem resolves_of_ofSource {network : Network K} (read : ofSource resolver source = .ok network) :
    ∃ tokens, tokenize source = .ok tokens ∧
      network.Resolves (Statement.underLines none (Statement.ofTokens tokens)) := by
  simp only [ofSource, alone, Outcome.bind_eq_ok, Outcome.mapError_eq_ok] at read
  obtain ⟨tokens, tokenized, draft, drafted, ⟨resolved, origins⟩, isResolved, read⟩ := read
  dsimp only at read
  split at read
  · obtain rfl := Except.ok.inj read
    have noScope : Draft.UnderLine (empty : Network K) none := fun _ isScope => by cases isScope
    have sound := Draft.sound_empty.ofStatements noScope drafted
    have keeps := Draft.keeps_empty.ofStatements Draft.sound_empty noScope (holds_empty resolver)
      drafted
    obtain ⟨⟨places, describes⟩, -⟩ := Draft.describes_of_resolve sound isResolved
    exact ⟨tokens, tokenized, describes.resolves sound keeps⟩
  · cases read

/-- What is read from a source refers to what its statements name, and no reference is left to a
fallback. -/
theorem references_of_ofSource (resolver : Resolver) (source : List Char) :
    (∀ network : Network K, ofSource resolver source = .ok network →
      ∃ tokens, tokenize source = .ok tokens ∧
        network.Resolves (Statement.underLines none (Statement.ofTokens tokens))) ∧
    ∀ faults, (ofSource resolver source : Except (List Diagnostic) (Network K)) = .error faults →
      ∀ fault ∈ faults, ¬ fault.IsFallback :=
  ⟨fun _ read => resolves_of_ofSource read, fun _ failed _ member =>
    not_isFallback_of_ofSource failed member⟩

def followSource : List Char :=
  ["line red:", "station \"A\" 0 0", "station \"B\" 9 9", "edges \"A, B\"",
    "curve \"A, B\" right,down parallelto curve \"blue: D, C\"", "vertical \"B, A\"",
    "line blue:", "station \"C\" 0 9", "station \"D\" 9 18", "edges \"C, D\"",
    "curve \"C, D\" right,down", "multi-line:", "zindex red below blue"].flatMap
    fun line => line.toList ++ ['\n']

def follow : Network Rat where
  lines := [⟨"red", [("A", ⟨0⟩), ("B", ⟨1⟩)], [⟨⟨0⟩, ⟨1⟩⟩], [⟨0⟩], []⟩,
    ⟨"blue", [("C", ⟨2⟩), ("D", ⟨3⟩)], [⟨⟨2⟩, ⟨3⟩⟩], [⟨1⟩], []⟩]
  lineNames := [("red", ⟨0⟩), ("blue", ⟨1⟩)]
  stations := [⟨"A", ⟨0⟩, .station, "A", ⟨0, 0⟩⟩, ⟨"B", ⟨0⟩, .station, "B", ⟨9, 9⟩⟩,
    ⟨"C", ⟨1⟩, .station, "C", ⟨0, 9⟩⟩, ⟨"D", ⟨1⟩, .station, "D", ⟨9, 18⟩⟩]
  curves := [⟨⟨0⟩, ⟨0⟩, ⟨1⟩, .parallel ⟨1⟩ ⟨.right, .down⟩, 5⟩,
    ⟨⟨1⟩, ⟨2⟩, ⟨3⟩, .sharp ⟨.right, .down⟩, 11⟩]
  alignments := [⟨.axis .vertical [⟨1⟩, ⟨0⟩], some ⟨0⟩, 6, "vertical \"B, A\""⟩]
  overlaps := [⟨⟨1⟩, ⟨0⟩, 13⟩]

set_option maxRecDepth 2000 in
theorem ofSource_follow : ofSource (fun _ name => some name) followSource = .ok follow := by
  cbv

theorem references_of_ofSource_follow :
    (∃ tokens, tokenize followSource = .ok tokens ∧
      follow.Resolves (Statement.underLines none (Statement.ofTokens tokens))) ∧
    ¬ twiceFault.IsFallback :=
  ⟨(references_of_ofSource _ followSource).1 follow ofSource_follow,
    (references_of_ofSource _ twiceSource).2 [twiceFault] ofSource_twice twiceFault
      (List.mem_singleton_self _)⟩

end Network

end TransitMap
