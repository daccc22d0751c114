import Mathlib.Data.List.Perm.Subperm
import Mathlib.Logic.Relation
import TransitMap.Layout.Stacking
import TransitMap.Proofs.Outcome

/-!
The depth-first search along overlaps. Of two lines that are drawn on top of each other, the search
is done with the upper one first, unless both lie on a cycle.
-/

open Relation (ReflTransGen)

namespace TransitMap.Stacking

/-- The line `upper` has to be drawn on top of the line `lower`. -/
def Covers (overlaps : List Overlap) (upper lower : LineId) : Prop :=
  ∃ overlap ∈ overlaps, overlap.above = upper ∧ overlap.below = lower

@[simp] theorem mem_above {overlaps : List Overlap} {line upper : LineId} :
    upper ∈ above overlaps line ↔ Covers overlaps upper line := by
  simp [above, Covers, and_assoc, and_comm]

@[simp] theorem mem_below {overlaps : List Overlap} {line lower : LineId} :
    lower ∈ below overlaps line ↔ Covers overlaps line lower := by
  simp [below, Covers, and_assoc]

def Among (overlaps : List Overlap) (lines : List LineId) : Prop :=
  ∀ overlap ∈ overlaps, overlap.above ∈ lines ∧ overlap.below ∈ lines

theorem Among.upper {overlaps : List Overlap} {lines : List LineId} {upper lower : LineId}
    (among : Among overlaps lines) (covers : Covers overlaps upper lower) : upper ∈ lines := by
  obtain ⟨overlap, member, rfl, rfl⟩ := covers
  exact (among overlap member).1

theorem Among.lower {overlaps : List Overlap} {lines : List LineId} {upper lower : LineId}
    (among : Among overlaps lines) (covers : Covers overlaps upper lower) : lower ∈ lines := by
  obtain ⟨overlap, member, rfl, rfl⟩ := covers
  exact (among overlap member).2

/-- The search was done with each line above a line of the list before it was done with that line,
unless the upper one also lies under the lower one. -/
def Backed (overlaps : List Overlap) : List LineId → Prop
  | [] => True
  | line :: rest =>
      (∀ upper, Covers overlaps upper line →
        upper ∈ rest ∨ ReflTransGen (Covers overlaps) line upper) ∧
      Backed overlaps rest

theorem Backed.append_right {overlaps : List Overlap} {newer older : List LineId}
    (backed : Backed overlaps (newer ++ older)) : Backed overlaps older := by
  induction newer with
  | nil => exact backed
  | cons _ _ ih => exact ih backed.2

namespace Search

variable {overlaps : List Overlap} {lines : List LineId}

def Open (search : Search) (line : LineId) : Prop :=
  line ∈ search.seen ∧ line ∉ search.finished

structure Sound (overlaps : List Overlap) (lines : List LineId) (search : Search) : Prop where
  seen_of_finished : ∀ line ∈ search.finished, line ∈ search.seen
  seen_known : ∀ line ∈ search.seen, line ∈ lines
  seen_nodup : search.seen.Nodup
  finished_nodup : search.finished.Nodup
  finished_apart : ∀ line ∈ search.finished, ¬Covers overlaps line line
  backed : Backed overlaps search.finished

theorem sound_empty : Sound overlaps lines empty where
  seen_of_finished := by simp [empty]
  seen_known := by simp [empty]
  seen_nodup := by simp [empty]
  finished_nodup := by simp [empty]
  finished_apart := by simp [empty]
  backed := trivial

theorem Sound.mark {search : Search} {line : LineId} (sound : Sound overlaps lines search)
    (known : line ∈ lines) (unseen : line ∉ search.seen) :
    Sound overlaps lines { search with seen := line :: search.seen } where
  seen_of_finished other member := List.mem_cons_of_mem _ (sound.seen_of_finished other member)
  seen_known other member := by
    rcases List.mem_cons.mp member with rfl | older
    · exact known
    · exact sound.seen_known other older
  seen_nodup := List.nodup_cons.mpr ⟨unseen, sound.seen_nodup⟩
  finished_nodup := sound.finished_nodup
  finished_apart := sound.finished_apart
  backed := sound.backed

theorem Sound.finish {search : Search} {line : LineId} (sound : Sound overlaps lines search)
    (isOpen : search.Open line) (apart : ¬Covers overlaps line line)
    (backed : ∀ upper, Covers overlaps upper line →
      upper ∈ search.finished ∨ ReflTransGen (Covers overlaps) line upper) :
    Sound overlaps lines { search with finished := line :: search.finished } where
  seen_of_finished other member := by
    rcases List.mem_cons.mp member with rfl | older
    · exact isOpen.1
    · exact sound.seen_of_finished other older
  seen_known := sound.seen_known
  seen_nodup := sound.seen_nodup
  finished_nodup := List.nodup_cons.mpr ⟨isOpen.2, sound.finished_nodup⟩
  finished_apart other member := by
    rcases List.mem_cons.mp member with rfl | older
    · exact apart
    · exact sound.finished_apart other older
  backed := ⟨backed, sound.backed⟩

/-- A search went on without leaving other lines open than before. -/
structure Extends (before after : Search) : Prop where
  seen : ∀ line ∈ before.seen, line ∈ after.seen
  stillOpen : ∀ line, after.Open line ↔ before.Open line
  size : before.seen.length ≤ after.seen.length

theorem Extends.refl (search : Search) : Extends search search :=
  ⟨fun _ member => member, fun _ => Iff.rfl, Nat.le_refl _⟩

theorem Extends.trans {first second third : Search} (left : Extends first second)
    (right : Extends second third) : Extends first third where
  seen line member := right.seen line (left.seen line member)
  stillOpen line := (right.stillOpen line).trans (left.stillOpen line)
  size := Nat.le_trans left.size right.size

theorem open_mark {search : Search} {line waiting : LineId}
    (unfinished : line ∉ search.finished) :
    Open { search with seen := line :: search.seen } waiting ↔
      waiting = line ∨ search.Open waiting := by
  simp only [Open, List.mem_cons]
  constructor
  · rintro ⟨rfl | seen, notDone⟩
    · exact .inl rfl
    · exact .inr ⟨seen, notDone⟩
  · rintro (rfl | ⟨seen, notDone⟩)
    · exact ⟨.inl rfl, unfinished⟩
    · exact ⟨.inr seen, notDone⟩

theorem Extends.finish {search after : Search} {line : LineId} (unseen : line ∉ search.seen)
    (unfinished : line ∉ search.finished)
    (extended : Extends { search with seen := line :: search.seen } after) :
    Extends search { after with finished := line :: after.finished } where
  seen other seen := extended.seen other (List.mem_cons_of_mem _ seen)
  stillOpen other := by
    have same := (extended.stillOpen other).trans (open_mark unfinished)
    simp only [Open, List.mem_cons, not_or] at same ⊢
    constructor
    · rintro ⟨seen, apart, notDone⟩
      exact (same.mp ⟨seen, notDone⟩).resolve_left apart
    · intro before
      have still := same.mpr (.inr before)
      refine ⟨still.1, ?_, still.2⟩
      rintro rfl
      exact unseen before.1
  size := Nat.le_trans (Nat.le_succ _) extended.size

/-- What a visit by a search of a depth does: it comes to the line. -/
def Visits (overlaps : List Overlap) (lines : List LineId) (depth : Nat) : Prop :=
  ∀ (search result : Search) (line : LineId), Sound overlaps lines search → line ∈ lines →
    lines.length ≤ depth + search.seen.length →
    (∀ waiting, search.Open waiting → ReflTransGen (Covers overlaps) line waiting) →
    visit overlaps depth search line = .ok result →
    Sound overlaps lines result ∧ line ∈ result.seen ∧ Extends search result

theorem Visits.foldlM {depth : Nat} (visits : Visits overlaps lines depth) {uppers : List LineId}
    {search result : Search} (sound : Sound overlaps lines search)
    (known : ∀ upper ∈ uppers, upper ∈ lines)
    (enough : lines.length ≤ depth + search.seen.length)
    (opens : ∀ upper ∈ uppers, ∀ waiting, search.Open waiting →
      ReflTransGen (Covers overlaps) upper waiting)
    (visited : uppers.foldlM (visit overlaps depth) search = .ok result) :
    Sound overlaps lines result ∧ (∀ upper ∈ uppers, upper ∈ result.seen) ∧
      Extends search result := by
  induction uppers generalizing search with
  | nil =>
      simp only [List.foldlM_nil, Outcome.pure_eq_ok] at visited
      subst visited
      exact ⟨sound, by simp, .refl _⟩
  | cons upper rest ih =>
      simp only [List.foldlM_cons, Outcome.bind_eq_ok] at visited
      obtain ⟨middle, visitedUpper, visitedRest⟩ := visited
      obtain ⟨middleSound, upperSeen, extended⟩ :=
        visits _ _ _ sound (known upper List.mem_cons_self) enough (opens upper List.mem_cons_self)
          visitedUpper
      obtain ⟨resultSound, restSeen, extendedAgain⟩ :=
        ih middleSound (fun other member => known other (List.mem_cons_of_mem _ member))
          (Nat.le_trans enough (Nat.add_le_add_left extended.size _))
          (fun other member waiting isOpen =>
            opens other (List.mem_cons_of_mem _ member) waiting
              ((extended.stillOpen waiting).mp isOpen))
          visitedRest
      refine ⟨resultSound, ?_, extended.trans extendedAgain⟩
      intro other member
      rcases List.mem_cons.mp member with rfl | later
      · exact extendedAgain.seen other upperSeen
      · exact restSeen other later

theorem visits (among : Among overlaps lines) : ∀ depth, Visits overlaps lines depth
  | 0 => by
      intro search result line sound known enough _ visited
      simp only [visit, Except.ok.injEq] at visited
      subst visited
      -- All lines have been seen, since a list of distinct lines as long as `lines` holds them all.
      have all : search.seen.Subperm lines :=
        List.subperm_of_subset sound.seen_nodup sound.seen_known
      have perm := all.perm_of_length_le (by omega)
      exact ⟨sound, perm.mem_iff.mpr known, .refl _⟩
  | depth + 1 => by
      intro search result line sound known enough opens visited
      rw [visit] at visited
      split at visited
      · next seen =>
          obtain rfl := Except.ok.inj visited
          exact ⟨sound, List.contains_iff_mem.mp seen, .refl _⟩
      · next unseen =>
          rw [List.contains_iff_mem] at unseen
          split at visited
          · cases visited
          · next apart =>
              rw [List.contains_iff_mem, mem_above] at apart
              simp only [Outcome.bind_eq_ok, Except.ok.injEq] at visited
              obtain ⟨searched, visitedUppers, rfl⟩ := visited
              have unfinished : line ∉ search.finished :=
                fun finished => unseen (sound.seen_of_finished line finished)
              -- A line that is still open lies under `line`, and so under the lines above it.
              have opensAbove : ∀ upper ∈ above overlaps line, ∀ waiting,
                  Open { search with seen := line :: search.seen } waiting →
                    ReflTransGen (Covers overlaps) upper waiting := by
                intro upper member waiting isOpen
                have step := mem_above.mp member
                rcases (open_mark unfinished).mp isOpen with rfl | before
                · exact .single step
                · exact .head step (opens waiting before)
              obtain ⟨searchedSound, uppersSeen, extended⟩ :=
                (visits among depth).foldlM (sound.mark known unseen)
                  (fun upper member => among.upper (mem_above.mp member))
                  (by simp only [List.length_cons]; omega) opensAbove visitedUppers
              have lineOpen : searched.Open line :=
                (extended.stillOpen line).mpr ((open_mark unfinished).mpr (.inl rfl))
              have backed : ∀ upper, Covers overlaps upper line →
                  upper ∈ searched.finished ∨ ReflTransGen (Covers overlaps) line upper := by
                intro upper covers
                by_cases finished : upper ∈ searched.finished
                · exact .inl finished
                · have isOpen : searched.Open upper :=
                    ⟨uppersSeen upper (mem_above.mpr covers), finished⟩
                  rcases (open_mark unfinished).mp ((extended.stillOpen upper).mp isOpen) with
                    rfl | before
                  · exact .inr .refl
                  · exact .inr (opens upper before)
              exact ⟨searchedSound.finish lineOpen apart backed, lineOpen.1,
                extended.finish unseen unfinished⟩

private theorem covers_of_visits_eq_error {depth : Nat} {fault : LineId}
    (visits : ∀ search line, visit overlaps depth search line = .error fault →
      Covers overlaps fault fault)
    {uppers : List LineId} {search : Search}
    (failed : uppers.foldlM (visit overlaps depth) search = .error fault) :
    Covers overlaps fault fault := by
  induction uppers generalizing search with
  | nil => cases failed
  | cons upper rest ih =>
      simp only [List.foldlM_cons, Outcome.bind_eq_error] at failed
      rcases failed with failed | ⟨middle, -, failed⟩
      · exact visits search upper failed
      · exact ih failed

/-- A visit fails at a line that has to be drawn on top of itself. -/
theorem covers_of_visit_eq_error {depth : Nat} {search : Search} {line fault : LineId}
    (failed : visit overlaps depth search line = .error fault) : Covers overlaps fault fault := by
  induction depth generalizing search line with
  | zero => simp [visit] at failed
  | succ depth ih =>
      rw [visit] at failed
      split at failed
      · cases failed
      · split at failed
        · next selfCovering =>
            obtain rfl := Except.error.inj failed
            exact mem_above.mp (List.contains_iff_mem.mp selfCovering)
        · simp only [Outcome.bind_eq_error, reduceCtorEq, and_false, exists_false, or_false] at failed
          exact covers_of_visits_eq_error (fun _ _ => ih) failed

theorem covers_of_foldlM_eq_error {depth : Nat} {uppers : List LineId} {search : Search}
    {fault : LineId} (failed : uppers.foldlM (visit overlaps depth) search = .error fault) :
    Covers overlaps fault fault :=
  covers_of_visits_eq_error (fun _ _ => covers_of_visit_eq_error) failed

end Search

end TransitMap.Stacking
