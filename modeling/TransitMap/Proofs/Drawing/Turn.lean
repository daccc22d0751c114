import Mathlib.Algebra.Group.Prod
import TransitMap.Proofs.Drawing.BendPath

/-!
The path of a bend turns once: it runs straight in the direction of the departure, turns in a single
curve, and runs straight in the direction of the arrival. The mirrors of a reduction turn directions
as they move points, so this is shown for the base bends and mirrored back.
-/

namespace TransitMap

namespace Point

def along (point : Point Rat) (step : Int × Int) (count : Rat) : Point Rat :=
  ⟨point.x + count * step.1, point.y + count * step.2⟩

@[simp] theorem along_x (point : Point Rat) (step : Int × Int) (count : Rat) :
    (point.along step count).x = point.x + count * step.1 := rfl

@[simp] theorem along_y (point : Point Rat) (step : Int × Int) (count : Rat) :
    (point.along step count).y = point.y + count * step.2 := rfl

@[simp] theorem along_neg_along (point : Point Rat) (step : Int × Int) (count : Rat) :
    (point.along step count).along (-step) count = point := by
  ext <;> simp

theorem IsWhole.along {point : Point Rat} (whole : point.IsWhole) (step : Int × Int) (count : Int) :
    (point.along step count).IsWhole :=
  ⟨whole.x.add (.mul (.intCast count) (.intCast step.1)),
    whole.y.add (.mul (.intCast count) (.intCast step.2))⟩

end Point

theorem Direction.step_opposite (direction : Direction) :
    direction.opposite.step = -direction.step := by
  cases direction <;> rfl

theorem Direction.isCardinal_opposite (direction : Direction) :
    direction.opposite.isCardinal = direction.isCardinal := by
  cases direction <;> rfl

def Bend.IsTurn (bend : Bend) : Prop := bend.kind? = some .sharp ∨ bend.kind? = some .wide

instance (bend : Bend) : Decidable bend.IsTurn :=
  inferInstanceAs (Decidable (bend.kind? = some .sharp ∨ bend.kind? = some .wide))

namespace Flip

def turn : Flip → Int × Int → Int × Int
  | x, step => (-step.1, step.2)
  | y, step => (step.1, -step.2)
  | both, step => -step
  | diagonal, step => (step.2, step.1)

def turnAll (flips : List Flip) (step : Int × Int) : Int × Int :=
  flips.foldl (fun image flip => flip.turn image) step

@[simp] theorem turnAll_cons (flip : Flip) (rest : List Flip) (step : Int × Int) :
    turnAll (flip :: rest) step = turnAll rest (flip.turn step) := rfl

@[simp] theorem turn_turn (flip : Flip) (step : Int × Int) : flip.turn (flip.turn step) = step := by
  cases flip <;> simp [turn]

theorem apply_along (flip : Flip) (origin point : Point Rat) (step : Int × Int) (count : Rat) :
    (flip.about origin).apply (point.along step count) =
      ((flip.about origin).apply point).along (flip.turn step) count := by
  cases flip with
  | diagonal => ext <;> simp [about, turn, Mirror.apply_diagonal] <;> ring
  | x | y | both => ext <;> simp [about, turn, Mirror.apply] <;> ring

theorem apply_origin (flip : Flip) (origin : Point Rat) :
    (flip.about origin).apply origin = origin := by
  cases flip with
  | diagonal => simp [about, Mirror.apply_diagonal]
  | x | y | both => ext <;> simp [about, Mirror.apply] <;> ring

end Flip

theorem Mirror.applyAll_along (flips : List Flip) (origin point : Point Rat) (step : Int × Int)
    (count : Rat) :
    applyAll (flips.map (Flip.about origin)) (point.along step count) =
      (applyAll (flips.map (Flip.about origin)) point).along (Flip.turnAll flips step) count := by
  induction flips generalizing point step with
  | nil => rfl
  | cons flip rest ih =>
      have first := flip.apply_along origin point step count
      simpa [applyAll, first] using ih ((flip.about origin).apply point) (flip.turn step)

theorem Mirror.applyAll_origin (flips : List Flip) (origin : Point Rat) :
    applyAll (flips.map (Flip.about origin)) origin = origin := by
  induction flips with
  | nil => rfl
  | cons flip rest ih => simpa [applyAll, flip.apply_origin origin] using ih

/-- A reduction turns the directions of a bend into those of its base bend. -/
theorem Reduction.steps_of_ofBend? {bend : Bend} {reduction : Reduction}
    (reduced : ofBend? bend = some reduction) :
    Flip.turnAll reduction.flips bend.departure.step = reduction.base.bend.departure.step ∧
      Flip.turnAll reduction.flips bend.arrival.step = reduction.base.bend.arrival.step := by
  obtain ⟨departure, arrival⟩ := bend
  cases departure <;> cases arrival <;> cases reduced <;> decide

namespace Path

variable {step departure arrival : Int × Int} {path : Path Rat}

/-- At most one straight segment, along a step. -/
def IsRun (step : Int × Int) (path : Path Rat) : Prop :=
  path = [] ∨ ∃ start count, 0 < count ∧ path = [.straight start (start.along step count)]

/-- One curve with a run before it and a run behind it. -/
def Turns (departure arrival : Int × Int) (path : Path Rat) : Prop :=
  ∃ before curve behind,
    path = before ++ .curved curve :: behind ∧ IsRun departure before ∧ IsRun arrival behind

theorem IsRun.reflect (run : IsRun step path) (flip : Flip) (origin : Point Rat) :
    IsRun (flip.turn step) (path.reflect (flip.about origin)) := by
  rcases run with rfl | ⟨start, count, positive, rfl⟩
  · exact .inl rfl
  · refine .inr ⟨(flip.about origin).apply start, count, positive, ?_⟩
    simp [Path.reflect, Segment.map, flip.apply_along]

theorem IsRun.reversed (run : IsRun step path) : IsRun (-step) (Path.reversed path) := by
  rcases run with rfl | ⟨start, count, positive, rfl⟩
  · exact .inl rfl
  · exact .inr ⟨start.along step count, count, positive, by
      simp [Path.reversed, Segment.reversed]⟩

theorem Turns.reflect (turns : Turns departure arrival path) (flip : Flip) (origin : Point Rat) :
    Turns (flip.turn departure) (flip.turn arrival) (path.reflect (flip.about origin)) := by
  obtain ⟨before, curve, behind, rfl, first, last⟩ := turns
  exact ⟨_, curve.map (flip.about origin).apply, _, by simp [Path.reflect, Segment.map],
    first.reflect flip origin, last.reflect flip origin⟩

theorem Turns.reversed (turns : Turns departure arrival path) :
    Turns (-arrival) (-departure) (Path.reversed path) := by
  obtain ⟨before, curve, behind, rfl, first, last⟩ := turns
  exact ⟨_, curve.reversed, _, by simp [Path.reversed, Segment.reversed], last.reversed,
    first.reversed⟩

theorem Turns.unmirror {flips : List Flip} {origin : Point Rat}
    (turns : Turns (Flip.turnAll flips departure) (Flip.turnAll flips arrival) path) :
    Turns departure arrival ((flips.map (Flip.about origin)).foldr
      (fun mirror path => Path.reflect path mirror) path) := by
  induction flips generalizing departure arrival with
  | nil => exact turns
  | cons flip rest ih => simpa using (ih turns).reflect flip origin

theorem IsWhole.round_eq (whole : IsWhole path) : Path.round path = path := by
  have same : ∀ segment ∈ path, segment.round = segment := by
    intro segment member
    have points := whole segment member
    cases segment with
    | straight start stop =>
        simp only [Segment.points, List.forall_mem_cons] at points
        simp [Segment.round, Segment.map, points.1.round_eq, points.2.1.round_eq]
    | curved cubic =>
        obtain ⟨p0, p1, p2, p3⟩ := Cubic.isWhole_iff.mp points
        simp [Segment.round, Segment.map, Cubic.map, p0.round_eq, p1.round_eq, p2.round_eq,
          p3.round_eq]
  exact (List.map_congr_left same).trans (List.map_id path)

end Path

/-- The base curves begin on the run into their corner and end on the run out of it. -/
structure Outlines.FollowsRuns (outlines : Outlines Rat) : Prop where
  sharp_start : outlines.sharp.p0.y = 0
  sharp_stop : outlines.sharp.p3.x = 0
  wide_start : outlines.wide.p0.y = 0
  wide_stop : outlines.wide.p3.x = outlines.wide.p3.y

theorem Templates.followsRuns_outlines (templates : Templates Rat) (scale : Rat)
    (sharpStart : templates.sharp.offsets.p0.y = 0) (sharpStop : templates.sharp.offsets.p3.x = 0)
    (wideStart : templates.wide.offsets.p0.y = 0)
    (wideStop : templates.wide.offsets.p3.x = templates.wide.offsets.p3.y) :
    (templates.outlines scale).FollowsRuns := by
  have zero : Scalar.round (0 : Rat) = 0 := (Scalar.IsWhole.natCast 0).round_eq
  constructor <;>
    simp [outlines, Template.outline, Cubic.map, Point.round, sharpStart, sharpStop, wideStart,
      wideStop, zero]

namespace BendPath

variable {start stop : Point Rat} {curve : Cubic Rat} {outlines : Outlines Rat}
  {nearest : Cubic Rat → Point Rat → Rat} {bend : Bend} {path : Path Rat}

theorem draw_of_isTurn (turn : bend.IsTurn) :
    draw nearest outlines bend start stop = ofTurn nearest outlines bend start stop := by
  unfold draw
  rcases turn with kind | kind <;> rw [kind]

/-- The first cut keeps the end of a curve, and moves its beginning only onto the station. -/
theorem cutStart_cases (nearest : Cubic Rat → Point Rat → Rat) (start : Point Rat)
    (whole : curve.IsWhole) :
    (cutStart nearest start curve).p3 = curve.p3 ∧
      ((cutStart nearest start curve).p0 = start ∨
        (cutStart nearest start curve).p0 = curve.p0 ∧ start.x < curve.p0.x) := by
  obtain ⟨-, -, -, last⟩ := Cubic.isWhole_iff.mp whole
  unfold cutStart
  split
  · exact ⟨last.round_eq, .inl rfl⟩
  · next beyond => exact ⟨rfl, .inr ⟨rfl, not_le.mp beyond⟩⟩

/-- The second cut keeps the beginning of a curve, and moves its end only onto the station. -/
theorem cutStop_cases (nearest : Cubic Rat → Point Rat → Rat) (stop : Point Rat)
    (whole : curve.IsWhole) :
    (cutStop nearest stop curve).p0 = curve.p0 ∧
      ((cutStop nearest stop curve).p3 = stop ∨
        (cutStop nearest stop curve).p3 = curve.p3 ∧ curve.p3.y < stop.y) := by
  obtain ⟨first, -, -, -⟩ := Cubic.isWhole_iff.mp whole
  unfold cutStop
  split
  · exact ⟨first.round_eq, .inl rfl⟩
  · next beyond => exact ⟨rfl, .inr ⟨rfl, not_le.mp beyond⟩⟩

theorem anchored_start (follows : outlines.FollowsRuns) (base : BaseBend) (start stop : Point Rat) :
    let curve := anchored outlines base start stop
    curve.p0 = start.along base.bend.departure.step (curve.p0.x - start.x) := by
  cases base with
  | sharp => ext <;> simp [anchored, Cubic.map, BaseBend.bend, Direction.step, follows.sharp_start]
  | wide => ext <;> simp [anchored, Cubic.map, BaseBend.bend, Direction.step, follows.wide_start]

theorem anchored_stop (follows : outlines.FollowsRuns) (base : BaseBend) (start stop : Point Rat) :
    let curve := anchored outlines base start stop
    stop = curve.p3.along base.bend.arrival.step (stop.y - curve.p3.y) := by
  cases base with
  | sharp => ext <;> simp [anchored, Cubic.map, BaseBend.bend, Direction.step, follows.sharp_stop]
  | wide =>
      ext <;> simp [anchored, Cubic.map, BaseBend.bend, Direction.step, follows.wide_stop]
      ring

theorem isRun_filler {step : Int × Int} {count : Rat} (positive : 0 < count)
    (reached : stop = start.along step count) : (filler start stop).IsRun step := by
  unfold filler
  split
  · exact .inl rfl
  · exact .inr ⟨start, count, positive, by rw [reached]⟩

theorem isRun_filler_self (step : Int × Int) (point : Point Rat) :
    (filler point point).IsRun step :=
  .inl (by simp [filler])

theorem turns_ofBase (whole : outlines.IsWhole) (follows : outlines.FollowsRuns) {base : BaseBend}
    (isStart : start.IsWhole) (isStop : stop.IsWhole)
    (drawn : ofBase nearest outlines base start stop = .ok path) :
    path.Turns base.bend.departure.step base.bend.arrival.step := by
  unfold ofBase at drawn
  split at drawn
  · cases drawn
  · obtain rfl := Except.ok.inj drawn
    have isAnchored := isWhole_anchored whole base isStart isStop
    have isCut : (cutStart nearest start (anchored outlines base start stop)).IsWhole :=
      isWhole_cutStart isStart isAnchored
    obtain ⟨kept, begins⟩ := cutStart_cases nearest start isAnchored
    obtain ⟨keptStart, ends⟩ := cutStop_cases nearest stop isCut
    refine ⟨_, _, _, rfl, ?_, ?_⟩
    · rw [keptStart]
      rcases begins with onStation | ⟨uncut, beyond⟩
      · rw [onStation]
        exact isRun_filler_self _ _
      · rw [uncut]
        exact isRun_filler (sub_pos.mpr beyond) (anchored_start follows base start stop)
    · rcases ends with onStation | ⟨uncut, beyond⟩
      · rw [onStation]
        exact isRun_filler_self _ _
      · rw [uncut]
        rw [kept] at beyond ⊢
        exact isRun_filler (sub_pos.mpr beyond) (anchored_stop follows base start stop)

theorem turns_ofCanonical (whole : outlines.IsWhole) (follows : outlines.FollowsRuns)
    (isStart : start.IsWhole) (isStop : stop.IsWhole)
    (drawn : ofCanonical nearest outlines bend start stop = .ok path) :
    path.Turns bend.departure.step bend.arrival.step := by
  obtain ⟨reduction, base, reduced, isBase, rfl⟩ := exists_ofBase_of_ofCanonical drawn
  have keep := Flip.keepsGrid_of_mem reduction.flips isStart
  have mirrored := Mirror.isWhole_applyAll keep isStop
  have turns := turns_ofBase whole follows isStart mirrored isBase
  obtain ⟨departure, arrival⟩ := Reduction.steps_of_ofBend? reduced
  rw [← departure, ← arrival] at turns
  exact turns.unmirror

theorem turns_ofTurn (whole : outlines.IsWhole) (follows : outlines.FollowsRuns)
    (isStart : start.IsWhole) (isStop : stop.IsWhole)
    (drawn : ofTurn nearest outlines bend start stop = .ok path) :
    path.Turns bend.departure.step bend.arrival.step := by
  rcases ofTurn_cases drawn with ⟨backward, isBackward, rfl⟩ | ⟨forward, isForward, rfl⟩
  · have onGrid := (connects_ofCanonical whole isStop isStart isBackward).whole
    have turns := (turns_ofCanonical whole follows isStop isStart isBackward).reversed
    rw [onGrid.reversed.round_eq]
    simpa [Bend.reversed, Direction.step_opposite] using turns
  · rw [(connects_ofCanonical whole isStart isStop isForward).whole.round_eq]
    exact turns_ofCanonical whole follows isStart isStop isForward

theorem turns_draw (whole : outlines.IsWhole) (follows : outlines.FollowsRuns) (turn : bend.IsTurn)
    (isStart : start.IsWhole) (isStop : stop.IsWhole)
    (drawn : draw nearest outlines bend start stop = .ok path) :
    path.Turns bend.departure.step bend.arrival.step := by
  rw [draw_of_isTurn turn] at drawn
  exact turns_ofTurn whole follows isStart isStop drawn

end BendPath

end TransitMap
