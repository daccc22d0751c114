import Mathlib
import TransitMap.Proofs.Drawing.Parallel

/-!
What the path alongside a target is made of. The curves found for the target come in its order, with
their inner control points. Their ends are decided by what lies next to them: another curve of the
same run, a straight segment of the target, or a station.
-/

open TransitMap.Path (Runs)

namespace TransitMap

def Cubic.inner (cubic : Cubic K) : Point K × Point K := (cubic.p1, cubic.p2)

def Cubic.ends (cubic : Cubic K) : Point K × Point K := (cubic.p0, cubic.p3)

namespace Path

variable {K : Type}

def cubics (path : Path K) : List (Cubic K) := path.filterMap Segment.cubic?

@[simp] theorem cubics_append (first second : Path K) :
    cubics (first ++ second) = first.cubics ++ second.cubics :=
  List.filterMap_append ..

@[simp] theorem cubics_curved (cubic : Cubic K) (path : Path K) :
    cubics (.curved cubic :: path) = cubic :: path.cubics := rfl

/-- Straight segments only close gaps: they have a length, and no two of them follow one another. -/
structure IsFilled (path : Path K) : Prop where
  apart : ∀ start stop, Segment.straight start stop ∈ path → start ≠ stop
  alone : path.IsChain fun before behind => before.isStraight = false ∨ behind.isStraight = false

theorem IsFilled.cons_curved {path : Path K} (filled : path.IsFilled) (cubic : Cubic K) :
    IsFilled (.curved cubic :: path) where
  apart start stop member := by
    rcases List.mem_cons.mp member with isCurve | member
    · cases isCurve
    · exact filled.apart start stop member
  alone := List.isChain_cons.mpr ⟨fun _ _ => .inl rfl, filled.alone⟩

end Path

namespace BendPath

variable {K : Type} [Scalar K]

@[simp] theorem cubics_filler (start stop : Point K) : (filler start stop).cubics = [] := by
  unfold filler
  split <;> rfl

theorem isFilled_filler [LawfulBEq K] (start stop : Point K) : (filler start stop).IsFilled := by
  unfold filler
  split
  · exact ⟨by simp, .nil⟩
  · next differ =>
      refine ⟨fun first last member => ?_, .singleton _⟩
      obtain ⟨rfl, rfl⟩ := Segment.straight.inj (List.mem_singleton.mp member)
      rintro rfl
      exact differ BEq.rfl

theorem isFilled_filler_append [LawfulBEq K] (start stop : Point K) {cubic : Cubic K}
    {path : Path K} (filled : Path.IsFilled (.curved cubic :: path)) :
    Path.IsFilled (filler start stop ++ .curved cubic :: path) := by
  have apart := (isFilled_filler start stop).apart
  unfold filler at apart ⊢
  split
  · exact filled
  · next differ =>
      simp only [differ, Bool.false_eq_true, if_false, List.mem_singleton] at apart
      refine ⟨fun first last member => ?_, List.isChain_cons.mpr ⟨?_, filled.alone⟩⟩
      · rcases List.mem_cons.mp member with isFirst | member
        · exact apart first last isFirst
        · exact filled.apart first last member
      · rintro next ⟨⟩
        exact .inr rfl

end BendPath

namespace Parallel

variable {K : Type} [Scalar K] {start stop : Point K}

/-- What lies alongside a target: a gap beside each straight segment, and beside each curve the
curves that are found for it, on the grid. -/
def strand (found : Cubic K → List (Cubic K)) : Path K → List (Option (Cubic K))
  | [] => []
  | .straight _ _ :: rest => none :: strand found rest
  | .curved cubic :: rest => (found cubic).map (fun curve => some curve.round) ++ strand found rest

def joint (curve next : Cubic K) : Point K := (curve.p3.midpoint next.p0).round

/-- Where a curve begins: at the station if nothing lies before it, at the joint with a curve before
it, and where it was found to begin if there is a gap. -/
def beginning (start : Point K) (before : Option (Option (Cubic K))) (curve : Cubic K) : Point K :=
  match before with
  | none => start
  | some none => curve.p0
  | some (some previous) => joint previous curve

/-- Where a curve ends, by what lies behind it. -/
def ending (stop : Point K) (curve : Cubic K) (behind : Option (Option (Cubic K))) : Point K :=
  match behind with
  | none => stop
  | some none => curve.p3
  | some (some next) => joint curve next

/-- A path from `start` to `stop` along the curves of a strand. -/
structure Follows (start stop : Point K) (strand : List (Option (Cubic K))) (path : Path K) :
    Prop where
  nonempty : path ≠ []
  runs : Path.Runs start stop path
  /-- The curves of the path are those of the strand in their order, but for their ends. -/
  inner : path.cubics.map Cubic.inner = strand.reduceOption.map Cubic.inner
  ends : ∀ before curve behind, strand = before ++ some curve :: behind →
    path.cubics[before.reduceOption.length]?.map Cubic.ends =
      some (beginning start before.getLast? curve, ending stop curve behind.head?)
  alone : strand.reduceOption = [] → path = [.straight start stop]
  filled : strand.reduceOption ≠ [] → path.IsFilled

/-- The curves of a strand with their ends where they belong, behind what lies before the strand. -/
def place (start stop : Point K) (before : Option (Option (Cubic K))) :
    List (Option (Cubic K)) → List (Cubic K)
  | [] => []
  | none :: rest => place start stop (some none) rest
  | some curve :: rest =>
      ⟨beginning start before curve, curve.p1, curve.p2, ending stop curve rest.head?⟩ ::
        place start stop (some (some curve)) rest

theorem inner_place (start stop : Point K) (before : Option (Option (Cubic K)))
    (strand : List (Option (Cubic K))) :
    (place start stop before strand).map Cubic.inner = strand.reduceOption.map Cubic.inner := by
  induction strand generalizing before with
  | nil => rfl
  | cons entry rest ih =>
      cases entry with
      | none => exact ih _
      | some curve => exact congrArg (curve.inner :: ·) (ih _)

theorem ends_place (start stop : Point K) (prior : Option (Option (Cubic K)))
    (before behind : List (Option (Cubic K))) (curve : Cubic K) :
    (place start stop prior (before ++ some curve :: behind))[before.reduceOption.length]?.map
        Cubic.ends =
      some (beginning start (before.getLast?.or prior) curve, ending stop curve behind.head?) := by
  induction before generalizing prior with
  | nil => rfl
  | cons entry rest ih =>
      have last : (entry :: rest).getLast?.or prior = rest.getLast?.or (some entry) := by
        rw [List.getLast?_cons]
        cases rest.getLast? <;> rfl
      rw [last]
      cases entry with
      | none => exact ih _
      | some first => exact ih _

def BreaksOff (strand : List (Option (Cubic K))) : Prop :=
  strand = [] ∨ ∃ rest, strand = none :: rest

theorem place_of_breaksOff {behind : List (Option (Cubic K))} (breaks : BreaksOff behind)
    (before other : Option (Option (Cubic K))) :
    place start stop before behind = place start stop other behind := by
  rcases breaks with rfl | ⟨rest, rfl⟩ <;> rfl

theorem pinStart_stitch (start : Point K) (curve : Cubic K) (rest : List (Cubic K)) :
    pinStart start (stitch curve rest) = stitch (curve.withStart start) rest := by
  cases rest <;> rfl

theorem pinStop_stitch_cons (stop : Point K) (curve next : Cubic K) (rest : List (Cubic K)) :
    pinStop stop (stitch curve (next :: rest)) =
      curve.withStop (joint curve next) ::
        pinStop stop (stitch (next.withStart (joint curve next)) rest) := by
  cases rest <;> rfl

/-- The joined curves of a run are placed behind a beginning of their own. The induction is on the
curves that follow, so that each joint is known when its second curve is reached. -/
theorem stitch_append_place (start stop : Point K) {behind : List (Option (Cubic K))}
    (breaks : BreaksOff behind) (curve : Cubic K) (rest : List (Cubic K)) (point : Point K) :
    (if behind.isEmpty then pinStop stop (stitch (curve.withStart point) rest)
        else stitch (curve.withStart point) rest) ++ place start stop (some none) behind =
      ⟨point, curve.p1, curve.p2, ending stop curve (rest.map some ++ behind).head?⟩ ::
        place start stop (some (some curve)) (rest.map some ++ behind) := by
  induction rest generalizing curve point with
  | nil => rcases breaks with rfl | ⟨rest, rfl⟩ <;> rfl
  | cons next rest ih =>
      have later := ih next (joint curve next)
      rw [pinStop_stitch_cons]
      split at later
      · next isLast =>
          rw [if_pos isLast]
          exact congrArg _ later
      · next notLast =>
          rw [if_neg notLast]
          exact congrArg _ later

theorem pinned_append_place (start stop : Point K) {behind : List (Option (Cubic K))}
    (breaks : BreaksOff behind) (fromStart : Bool) (curves : List (Cubic K)) :
    Run.pinned start stop ⟨fromStart, behind.isEmpty, curves⟩ ++
        place start stop (some none) behind =
      place start stop (if fromStart then none else some none) (curves.map some ++ behind) := by
  cases curves with
  | nil =>
      have empty : Run.pinned start stop ⟨fromStart, behind.isEmpty, []⟩ = [] := by
        simp [Run.pinned, stitchAll, pinStart, pinStop]
      rw [empty]
      exact place_of_breaksOff breaks _ _
  | cons first rest =>
      cases fromStart with
      | false => exact stitch_append_place start stop breaks first rest first.p0
      | true =>
          have joined := stitch_append_place start stop breaks first rest start
          rw [← pinStart_stitch] at joined
          exact joined

def unrolled : List (Option (List (Cubic K))) → List (Option (Cubic K))
  | [] => []
  | none :: rest => none :: unrolled rest
  | some curves :: rest => curves.map some ++ unrolled rest

omit [Scalar K] in
theorem unrolled_eq_append (entries : List (Option (List (Cubic K)))) :
    unrolled entries =
      ((entries.takeWhile Option.isSome).flatMap fun entry => entry.getD []).map some ++
        unrolled (entries.dropWhile Option.isSome) := by
  induction entries with
  | nil => rfl
  | cons entry rest ih =>
      cases entry with
      | none => rfl
      | some curves => simp [unrolled, ih]

omit [Scalar K] in
theorem breaksOff_dropWhile (entries : List (Option (List (Cubic K)))) :
    BreaksOff (unrolled (entries.dropWhile Option.isSome)) ∧
      (unrolled (entries.dropWhile Option.isSome)).isEmpty =
        (entries.dropWhile Option.isSome).isEmpty := by
  induction entries with
  | nil => exact ⟨.inl rfl, rfl⟩
  | cons entry rest ih =>
      cases entry with
      | none => exact ⟨.inr ⟨_, rfl⟩, rfl⟩
      | some curves => exact ih

theorem flatMap_pinned_runs (start stop : Point K) (fromStart : Bool)
    (entries : List (Option (List (Cubic K)))) :
    (runs fromStart entries).flatMap (Run.pinned start stop) =
      place start stop (if fromStart then none else some none) (unrolled entries) := by
  fun_induction runs fromStart entries with
  | case1 => rfl
  | case2 fromStart rest ih => exact ih
  | case3 fromStart curves rest more after ih =>
      -- What is left behind the run begins with a gap, so that the run ends on its own.
      obtain ⟨breaks, isLast⟩ := breaksOff_dropWhile rest
      have joined := pinned_append_place start stop breaks fromStart (curves ++ more)
      rw [List.flatMap_cons, ih, unrolled, unrolled_eq_append rest, ← List.append_assoc,
        ← List.map_append, ← joined, isLast]
      rfl

@[simp] theorem cubics_closeGaps (stop cursor : Point K) (curves : List (Cubic K)) :
    (closeGaps stop cursor curves).cubics = curves := by
  induction curves generalizing cursor with
  | nil => exact BendPath.cubics_filler cursor stop
  | cons curve rest ih => simp [closeGaps, ih]

@[simp] theorem cubics_connect (start stop : Point K) (curves : List (Cubic K)) :
    (connect start stop curves).cubics = curves := by
  cases curves with
  | nil => rfl
  | cons first rest => exact cubics_closeGaps stop start (first :: rest)

theorem connect_ne_nil (start stop : Point K) (curves : List (Cubic K)) :
    connect start stop curves ≠ [] := by
  cases curves with
  | nil => exact List.cons_ne_nil _ _
  | cons first rest => exact List.append_ne_nil_of_right_ne_nil _ (List.cons_ne_nil _ _)

section Gaps

variable [LawfulBEq K]

theorem runs_closeGaps (stop cursor : Point K) (curves : List (Cubic K)) :
    Runs cursor stop (closeGaps stop cursor curves) := by
  induction curves generalizing cursor with
  | nil => exact BendPath.runs_filler cursor stop
  | cons curve rest ih => exact (BendPath.runs_filler cursor curve.p0).append ⟨rfl, ih curve.p3⟩

theorem runs_connect (start stop : Point K) (curves : List (Cubic K)) :
    Runs start stop (connect start stop curves) := by
  cases curves with
  | nil => exact ⟨rfl, rfl⟩
  | cons first rest => exact runs_closeGaps stop start (first :: rest)

theorem isFilled_closeGaps (stop cursor : Point K) (curves : List (Cubic K)) :
    (closeGaps stop cursor curves).IsFilled := by
  induction curves generalizing cursor with
  | nil => exact BendPath.isFilled_filler cursor stop
  | cons curve rest ih =>
      exact BendPath.isFilled_filler_append cursor curve.p0 ((ih curve.p3).cons_curved curve)

theorem isFilled_connect {curves : List (Cubic K)} (nonempty : curves ≠ []) :
    (connect start stop curves).IsFilled := by
  cases curves with
  | nil => exact absurd rfl nonempty
  | cons first rest => exact isFilled_closeGaps stop start (first :: rest)

theorem follows_connect_place (start stop : Point K) (strand : List (Option (Cubic K))) :
    Follows start stop strand (connect start stop (place start stop none strand)) where
  nonempty := connect_ne_nil start stop _
  runs := runs_connect start stop _
  inner := by rw [cubics_connect, inner_place]
  ends before curve behind split := by
    rw [cubics_connect, split, ends_place, Option.or_none]
  alone none := by
    have inner := inner_place start stop Option.none strand
    rw [none] at inner
    rw [List.map_eq_nil_iff.mp inner]
    rfl
  filled some := by
    refine isFilled_connect fun empty => some ?_
    have inner := inner_place start stop none strand
    rw [empty] at inner
    exact List.map_eq_nil_iff.mp inner.symm

end Gaps

variable {distance : Point K → Point K → K} {fitter : OffsetFitter K} {width : K}
  {target : Path K}

def alongside (found : Cubic K → List (Cubic K)) : Segment K → Option (List (Cubic K))
  | .straight _ _ => none
  | .curved cubic => some ((found cubic).map Cubic.round)

theorem mapM_follow {found : Cubic K → List (Cubic K)}
    (fits : ∀ cubic, .curved cubic ∈ target → fitter cubic width = .ok (found cubic)) :
    target.mapM (follow fitter width) = .ok (target.map (alongside found)) := by
  have each : ∀ segment ∈ target,
      follow fitter width segment = pure (alongside found segment) := by
    intro segment member
    cases segment with
    | straight first last => rfl
    | curved cubic =>
        rw [follow, fits cubic member]
        rfl
  rw [Outcome.mapM_congr each, List.mapM_pure]
  rfl

theorem unrolled_alongside (found : Cubic K → List (Cubic K)) (target : Path K) :
    unrolled (target.map (alongside found)) = strand found target := by
  induction target with
  | nil => rfl
  | cons segment rest ih =>
      cases segment with
      | straight first last => exact congrArg (none :: ·) ih
      | curved cubic => simp [alongside, unrolled, strand, ih]

/-- Alongside a target whose curves are all fitted there is a path. It follows what was found for
the target, in the direction in which the target leads from the first station to the second. -/
theorem exists_draw_follows [LawfulBEq K] {found : Cubic K → List (Cubic K)}
    (fits : ∀ cubic, .curved cubic ∈ oriented distance target start stop →
      fitter cubic width = .ok (found cubic)) :
    ∃ path, draw distance fitter width target start stop = .ok path ∧
      Follows start stop (strand found (oriented distance target start stop)) path := by
  refine ⟨_, ?_, follows_connect_place start stop _⟩
  have placed := flatMap_pinned_runs start stop true
    ((oriented distance target start stop).map (alongside found))
  rw [unrolled_alongside] at placed
  rw [draw, mapM_follow fits]
  exact congrArg (fun curves => Except.ok (connect start stop curves)) placed

def moved (width : Rat) (curve : Cubic Rat) : Cubic Rat :=
  curve.translate (if curve.p0.y = curve.p1.y then ⟨0, -width⟩ else ⟨width, 0⟩)

def mover : OffsetFitter Rat := fun curve width => .ok [moved width curve]

def taxicab (first second : Point Rat) : Rat :=
  Scalar.abs (second.x - first.x) + Scalar.abs (second.y - first.y)

def stairs : Path Rat :=
  [.curved ⟨⟨0, 0⟩, ⟨60, 0⟩, ⟨100, 0⟩, ⟨100, 40⟩⟩,
    .curved ⟨⟨100, 40⟩, ⟨100, 80⟩, ⟨120, 100⟩, ⟨140, 100⟩⟩,
    .straight ⟨140, 100⟩ ⟨200, 100⟩,
    .curved ⟨⟨200, 100⟩, ⟨220, 100⟩, ⟨240, 120⟩, ⟨240, 140⟩⟩]

def stairsAlongside : Path Rat :=
  [.curved ⟨⟨0, -8⟩, ⟨60, -8⟩, ⟨100, -8⟩, ⟨104, 36⟩⟩,
    .curved ⟨⟨104, 36⟩, ⟨108, 80⟩, ⟨128, 100⟩, ⟨148, 100⟩⟩,
    .straight ⟨148, 100⟩ ⟨200, 92⟩,
    .curved ⟨⟨200, 92⟩, ⟨220, 92⟩, ⟨240, 112⟩, ⟨248, 140⟩⟩]

theorem draw_stairs_follows :
    draw taxicab mover 8 stairs ⟨0, -8⟩ ⟨248, 140⟩ = .ok stairsAlongside ∧
      Follows ⟨0, -8⟩ ⟨248, 140⟩ (strand (fun curve => [moved 8 curve]) stairs) stairsAlongside := by
  have straightOn : oriented taxicab stairs ⟨0, -8⟩ ⟨248, 140⟩ = stairs := by cbv
  have followed : ∃ path, draw taxicab mover 8 stairs ⟨0, -8⟩ ⟨248, 140⟩ = .ok path ∧
      Follows ⟨0, -8⟩ ⟨248, 140⟩ (strand (fun curve => [moved 8 curve])
        (oriented taxicab stairs ⟨0, -8⟩ ⟨248, 140⟩)) path :=
    exists_draw_follows fun _ _ => rfl
  obtain ⟨path, drawn, follows⟩ := followed
  have isPath : draw taxicab mover 8 stairs ⟨0, -8⟩ ⟨248, 140⟩ = .ok stairsAlongside := by cbv
  obtain rfl := Except.ok.inj (isPath.symm.trans drawn)
  exact ⟨isPath, straightOn ▸ follows⟩

end Parallel

end TransitMap
