import TransitMap.Proofs.Source.Annotation

namespace TransitMap

theorem Text.IsLine.number_le {source before line : List Char} {number : Nat}
    (isLine : IsLine source number before line) : number ≤ source.count '\n' + 1 := by
  obtain ⟨⟨-, rfl⟩, -, after, rfl, -⟩ := isLine
  rw [List.count_append, List.count_append]
  omega

theorem SharedLine.Marks.inside {source other : List Char} {shared : SharedLine source other}
    {here there : Span} (marks : shared.Marks here there) :
    Text.byteLength shared.before ≤ here.start ∧
      here.stop ≤ Text.byteLength (shared.before ++ shared.text) := by
  obtain ⟨text, _, _, ⟨left, right, isText, rfl, rfl⟩, rfl, rfl⟩ := marks
  rw [Span.start_of, Span.stop_of, isText]
  simp only [Text.byteLength_append]
  omega

namespace Diagnostic

/-- The diagnostic is about this line of the source: its only primary label lies in it, and all
labels mark whole characters of the source. -/
structure PointsAt (source : List Char) (number : Nat) (diagnostic : Diagnostic) : Prop where
  line : diagnostic.line = some number
  number_pos : 1 ≤ number
  number_le : number ≤ source.count '\n' + 1
  primary : ∃ before line label others, Text.IsLine source number before line ∧
    diagnostic.labels = label :: others ∧ label.isPrimary = true ∧
    (∀ other ∈ others, other.isPrimary = false) ∧
    Text.byteLength before ≤ label.span.start ∧
    label.span.stop ≤ Text.byteLength (before ++ line)
  labels : ∀ label ∈ diagnostic.labels, ∃ text, Text.StandsAt source label.span text

theorem pointsAt_complaint {source other : List Char} (shared : SharedLine source other)
    (complaint : Complaint) {here there : Span} (marks : shared.Marks here there) :
    (complaint.diagnostic here (some shared.number)).PointsAt source shared.number := by
  obtain ⟨rest, isLine⟩ := shared.isLine
  obtain ⟨start, stop⟩ := marks.inside
  constructor
  case line => rfl
  case number_pos =>
    rw [isLine.begins.number_eq]
    exact Nat.succ_pos _
  case number_le => exact isLine.number_le
  case primary =>
    refine ⟨_, _, _, [], isLine, rfl, rfl, by simp, start, stop.trans ?_⟩
    simp only [Text.byteLength_append]
    omega
  case labels =>
    intro label member
    obtain rfl := List.mem_singleton.mp member
    obtain ⟨text, standsAt, -⟩ := marks.agree
    exact ⟨text, standsAt⟩

theorem PointsAt.withRelated {source text : List Char} {number : Nat} {diagnostic : Diagnostic}
    (pointsAt : diagnostic.PointsAt source number) {span : Span} (standsAt : Text.StandsAt source span text)
    (message : String) : (diagnostic.withRelated span message).PointsAt source number := by
  obtain ⟨line, positive, bound, primary, labels⟩ := pointsAt
  refine ⟨line, positive, bound, ?_, ?_⟩
  · obtain ⟨before, line, label, others, isLine, areLabels, isPrimary, areOthers, inside⟩ := primary
    refine ⟨before, line, label, others ++ [⟨span, message, false⟩], isLine, ?_, isPrimary, ?_, inside⟩
    · rw [Diagnostic.withRelated, areLabels, List.cons_append]
    · intro other member
      rcases List.mem_append.mp member with earlier | new
      · exact areOthers other earlier
      · rw [List.mem_singleton.mp new]
  · intro label member
    rcases List.mem_append.mp member with earlier | new
    · exact labels label earlier
    · rw [List.mem_singleton.mp new]
      exact ⟨text, standsAt⟩

theorem Alike.exists_pointsAt {source other : List Char} {here there : Diagnostic}
    (alike : Alike source other here there) : ∃ number, here.PointsAt source number := by
  induction alike with
  | complaint shared arises marks => exact ⟨shared.number, pointsAt_complaint shared _ marks⟩
  | related message alike agree ih =>
      obtain ⟨number, pointsAt⟩ := ih
      obtain ⟨text, standsAt, -⟩ := agree
      exact ⟨number, pointsAt.withRelated standsAt message⟩

end Diagnostic

namespace Network

variable {K : Type} [Scalar K] {resolver : Resolver} {source : List Char}

theorem alike_of_mem_faults {tokens : List (Located Token)} (tokenized : tokenize source = .ok tokens)
    {faults : List Diagnostic}
    (failed : (ofSource resolver source : Except (List Diagnostic) (Network K)) = .error faults)
    {fault : Diagnostic} (member : fault ∈ faults) :
    ∃ other, Diagnostic.Alike source source fault other := by
  have alike := alike_of_annotated (K := K) resolver (.refl source) tokenized tokenized
  rw [failed] at alike
  cases alike with
  | error related =>
      obtain ⟨index, found⟩ := List.mem_iff_getElem?.mp member
      obtain ⟨other, -, alike⟩ := Outcome.exists_right_of_forall₂ related found
      exact ⟨other, alike⟩

/-- If the characters of a source are in order, every diagnostic points at its line. -/
theorem pointsAt_of_ofSource {tokens : List (Located Token)} (tokenized : tokenize source = .ok tokens)
    {faults : List Diagnostic}
    (failed : (ofSource resolver source : Except (List Diagnostic) (Network K)) = .error faults) :
    ∀ fault ∈ faults, ∃ number, fault.PointsAt source number := by
  intro fault member
  obtain ⟨other, alike⟩ := alike_of_mem_faults tokenized failed member
  exact alike.exists_pointsAt

def twiceSource : List Char := "line é:\nline é:\n".toList

def twiceFault : Diagnostic :=
  ((Complaint.lineTwice "é").diagnostic (.between 14 17) (some 2)).withRelated (.between 5 8)
    "first declared here"

theorem tokenize_twice : tokenize twiceSource = .ok [⟨.word "line".toList, .between 0 4⟩,
    ⟨.blank, .between 4 5⟩, ⟨.word "é:".toList, .between 5 8⟩, ⟨.newline, .between 8 9⟩,
    ⟨.word "line".toList, .between 9 13⟩, ⟨.blank, .between 13 14⟩,
    ⟨.word "é:".toList, .between 14 17⟩, ⟨.newline, .between 17 18⟩] := by
  cbv

theorem ofSource_twice : (ofSource (fun _ name => some name) twiceSource :
    Except (List Diagnostic) (Network Rat)) = .error [twiceFault] := by
  rw [ofSource, tokenize_twice]
  rfl

theorem pointsAt_of_ofSource_twice : ∃ number, twiceFault.PointsAt twiceSource number :=
  pointsAt_of_ofSource tokenize_twice ofSource_twice twiceFault (List.mem_singleton_self _)

end Network

end TransitMap
