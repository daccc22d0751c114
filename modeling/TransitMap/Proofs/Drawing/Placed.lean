import Mathlib
import TransitMap.Proofs.Drawing.Turn

/-!
Which stations a bend is drawn between. The second station of a turning bend lies some steps of the
departure and some steps of the arrival away from the first, and the numbers of steps decide.
-/

namespace TransitMap

def Direction.cross (first second : Direction) : Int :=
  first.step.1 * second.step.2 - first.step.2 * second.step.1

/-- Steps in two directions reach every point in exactly one way. The numbers of steps are those of
Cramer's rule, with a determinant that is its own inverse. -/
theorem Point.exists_along_iff {departure arrival : Direction}
    (unit : departure.cross arrival * departure.cross arrival = 1) (start stop : Point Rat) :
    ∃ before behind, ∀ first second,
      (start.along departure.step first).along arrival.step second = stop ↔
        first = before ∧ second = behind := by
  have unit := congrArg (Int.cast (R := Rat)) unit
  refine ⟨departure.cross arrival *
      ((stop.x - start.x) * arrival.step.2 - (stop.y - start.y) * arrival.step.1),
    departure.cross arrival *
      (departure.step.1 * (stop.y - start.y) - departure.step.2 * (stop.x - start.x)),
    fun first second => ?_⟩
  simp only [Direction.cross, Point.ext_iff, along_x, along_y] at unit ⊢
  push_cast at unit ⊢
  constructor
  · rintro ⟨x, y⟩
    rw [← x, ← y]
    constructor
    · linear_combination (-first) * unit
    · linear_combination (-second) * unit
  · rintro ⟨rfl, rfl⟩
    constructor
    · linear_combination (stop.x - start.x) * unit
    · linear_combination (stop.y - start.y) * unit

namespace Bend

variable {bend : Bend} {start stop : Point Rat} {before behind : Rat}

/-- Where the second station lies, from the numbers of steps before and behind the corner. -/
def place (bend : Bend) (start : Point Rat) (before behind : Rat) : Point Rat :=
  (start.along bend.departure.step before).along bend.arrival.step behind

theorem place_reversed (bend : Bend) (start : Point Rat) (before behind : Rat) :
    bend.reversed.place (bend.place start before behind) behind before = start := by
  ext <;> simp [place, reversed, Direction.step_opposite]

theorem isWhole_place (bend : Bend) (whole : start.IsWhole) (before behind : Int) :
    (bend.place start before behind).IsWhole :=
  (whole.along _ before).along _ behind

theorem IsTurn.cross_mul_cross (turn : bend.IsTurn) :
    bend.departure.cross bend.arrival * bend.departure.cross bend.arrival = 1 := by
  obtain ⟨departure, arrival⟩ := bend
  revert turn
  cases departure <;> cases arrival <;> decide

theorem IsTurn.exists_place_iff (turn : bend.IsTurn) (start stop : Point Rat) :
    ∃ before behind, ∀ first second,
      bend.place start first second = stop ↔ first = before ∧ second = behind :=
  Point.exists_along_iff turn.cross_mul_cross start stop

/-- The numbers of steps with which a bend is drawn. -/
def Accepts (bend : Bend) (before behind : Rat) : Prop :=
  (bend.departure.isCardinal → 0 < behind) ∧ (bend.arrival.isCardinal → 0 < before) ∧
    0 < before + behind

theorem accepts_of_pos (bend : Bend) (ahead : 0 < before) (onward : 0 < behind) :
    bend.Accepts before behind :=
  ⟨fun _ => onward, fun _ => ahead, add_pos ahead onward⟩

theorem accepts_reversed (bend : Bend) (before behind : Rat) :
    bend.reversed.Accepts behind before ↔ bend.Accepts before behind := by
  simp only [Accepts, reversed, Direction.isCardinal_opposite, add_comm behind before]
  tauto

theorem IsTurn.exists_reduction (turn : bend.IsTurn) :
    ∃ canonical isReversed reduction, bend.canonicalize? = some (canonical, isReversed) ∧
      Reduction.ofBend? canonical = some reduction := by
  obtain ⟨departure, arrival⟩ := bend
  cases departure <;> cases arrival <;>
    first
    | exact ⟨_, _, _, rfl, rfl⟩
    | exact absurd turn (by decide)

end Bend

theorem BaseBend.accepts_iff (base : BaseBend) (start : Point Rat) (before behind : Rat) :
    base.bend.Accepts before behind ↔
      0 < (base.bend.place start before behind).x - start.x ∧
        0 < (base.bend.place start before behind).y - start.y := by
  cases base with
  | sharp =>
      have offset : sharp.bend.place start before behind =
          ⟨start.x + before, start.y + behind⟩ := by
        ext <;> simp [bend, Bend.place, Direction.step]
      simp only [offset, add_sub_cancel_left]
      exact ⟨fun accepts => ⟨accepts.2.1 rfl, accepts.1 rfl⟩,
        fun forward => Bend.accepts_of_pos _ forward.1 forward.2⟩
  | wide =>
      have offset : wide.bend.place start before behind =
          ⟨start.x + (before + behind), start.y + behind⟩ := by
        ext <;> simp [bend, Bend.place, Direction.step, add_assoc]
      simp only [offset, add_sub_cancel_left]
      exact ⟨fun accepts => ⟨accepts.2.2, accepts.1 rfl⟩,
        fun forward => ⟨fun _ => forward.2, fun cardinal => absurd cardinal (by decide), forward.1⟩⟩

theorem Reduction.accepts_iff {bend : Bend} {reduction : Reduction}
    (reduced : ofBend? bend = some reduction) (before behind : Rat) :
    reduction.base.bend.Accepts before behind ↔ bend.Accepts before behind := by
  have same : reduction.base.bend.departure.isCardinal = bend.departure.isCardinal ∧
      reduction.base.bend.arrival.isCardinal = bend.arrival.isCardinal := by
    obtain ⟨departure, arrival⟩ := bend
    cases departure <;> cases arrival <;> cases reduced <;> decide
  simp only [Bend.Accepts, same]

theorem Reduction.applyAll_place {bend : Bend} {reduction : Reduction}
    (reduced : ofBend? bend = some reduction) (start : Point Rat) (before behind : Rat) :
    Mirror.applyAll (reduction.flips.map (Flip.about start)) (bend.place start before behind) =
      reduction.base.bend.place start before behind := by
  obtain ⟨departure, arrival⟩ := steps_of_ofBend? reduced
  simp only [Bend.place, Mirror.applyAll_along, Mirror.applyAll_origin, departure, arrival]

namespace BendPath

variable {outlines : Outlines Rat} {nearest : Cubic Rat → Point Rat → Rat} {bend : Bend}
  {accepted : Prop} {result : Except (BendFault Rat) (Path Rat)}

/-- A path where stations are accepted, and elsewhere the fault that they are misplaced. -/
structure Decides (accepted : Prop) (result : Except (BendFault Rat) (Path Rat)) : Prop where
  draws : accepted → ∃ path, result = .ok path
  refuses : ¬accepted → ∃ start stop, result = .error (.misplaced start stop)

theorem Decides.bind (decides : Decides accepted result) (finish : Path Rat → Path Rat) :
    Decides accepted (result >>= fun path => .ok (finish path)) where
  draws accepts := by
    obtain ⟨path, rfl⟩ := decides.draws accepts
    exact ⟨finish path, rfl⟩
  refuses refused := by
    obtain ⟨start, stop, rfl⟩ := decides.refuses refused
    exact ⟨start, stop, rfl⟩

theorem Decides.ok_iff (decides : Decides accepted result) :
    (∃ path, result = .ok path) ↔ accepted := by
  refine ⟨fun ⟨path, drawn⟩ => ?_, decides.draws⟩
  by_contra refused
  obtain ⟨start, stop, isFault⟩ := decides.refuses refused
  cases drawn.symm.trans isFault

theorem decides_ofBase (nearest : Cubic Rat → Point Rat → Rat) (outlines : Outlines Rat)
    (base : BaseBend) (start : Point Rat) (before behind : Rat) :
    Decides (base.bend.Accepts before behind)
      (ofBase nearest outlines base start (base.bend.place start before behind)) := by
  rw [base.accepts_iff start]
  unfold ofBase
  split
  · next misplaced => exact ⟨by grind, fun _ => ⟨_, _, rfl⟩⟩
  · next placed => exact ⟨fun _ => ⟨_, rfl⟩, by grind⟩

theorem decides_ofCanonical {reduction : Reduction}
    (reduced : Reduction.ofBend? bend = some reduction) (nearest : Cubic Rat → Point Rat → Rat)
    (outlines : Outlines Rat) (start : Point Rat) (before behind : Rat) :
    Decides (bend.Accepts before behind)
      (ofCanonical nearest outlines bend start (bend.place start before behind)) := by
  rw [← Reduction.accepts_iff reduced]
  simp only [ofCanonical, reduced, Reduction.applyAll_place reduced]
  exact (decides_ofBase nearest outlines reduction.base start before behind).bind _

theorem decides_draw (turn : bend.IsTurn) (nearest : Cubic Rat → Point Rat → Rat)
    (outlines : Outlines Rat) (start : Point Rat) (before behind : Rat) :
    Decides (bend.Accepts before behind)
      (draw nearest outlines bend start (bend.place start before behind)) := by
  rw [draw_of_isTurn turn]
  obtain ⟨canonical, isReversed, reduction, found, reduced⟩ := turn.exists_reduction
  obtain rfl := Bend.eq_of_canonicalize? found
  cases isReversed with
  | true =>
      have decides := (decides_ofCanonical reduced nearest outlines
        (bend.place start before behind) behind before).bind
        fun path => Path.round (Path.reversed path)
      simp only [if_true, Bend.place_reversed, Bend.accepts_reversed] at decides
      simpa only [ofTurn, found, if_true] using decides
  | false =>
      simpa only [ofTurn, found, Bool.false_eq_true, if_false] using
        (decides_ofCanonical reduced nearest outlines start before behind).bind Path.round

def roundTemplates : Templates Rat where
  sharp := ⟨⟨⟨-8, 0⟩, ⟨-7 / 2, 0⟩, ⟨0, 7 / 2⟩, ⟨0, 8⟩⟩, 1⟩
  wide := ⟨⟨⟨-6, 0⟩, ⟨-2, 0⟩, ⟨3 / 2, 3 / 2⟩, ⟨9 / 2, 9 / 2⟩⟩, 1⟩

def roundOutlines : Outlines Rat := roundTemplates.outlines 5

/-- A bend is drawn between any two stations that are placed for it, with a single curve, at most
one straight segment in the direction of its departure before it, and at most one in the direction
of its arrival behind it. -/
theorem exists_draw_of_placed (whole : outlines.IsWhole) (follows : outlines.FollowsRuns)
    (turn : bend.IsTurn) (nearest : Cubic Rat → Point Rat → Rat) {start : Point Rat}
    (isWhole : start.IsWhole) {before behind : Int} (ahead : 0 < before) (onward : 0 < behind) :
    ∃ path, draw nearest outlines bend start (bend.place start before behind) = .ok path ∧
      Path.Connects start (bend.place start before behind) path ∧
      path.Turns bend.departure.step bend.arrival.step := by
  have decides := decides_draw turn nearest outlines start before behind
  obtain ⟨path, drawn⟩ :=
    decides.draws (bend.accepts_of_pos (Int.cast_pos.mpr ahead) (Int.cast_pos.mpr onward))
  have isStop := bend.isWhole_place isWhole before behind
  exact ⟨path, drawn, connects_draw whole isWhole isStop drawn,
    turns_draw whole follows turn isWhole isStop drawn⟩

theorem exists_draw_of_placed_backward :
    roundOutlines.IsWhole ∧ roundOutlines.FollowsRuns ∧ (⟨.downLeft, .left⟩ : Bend).IsTurn ∧
      (⟨.downLeft, .left⟩ : Bend).place ⟨0, 0⟩ (100 : Int) (100 : Int) = ⟨-200, 100⟩ ∧
      ∃ path, draw (fun _ _ => 1) roundOutlines ⟨.downLeft, .left⟩ ⟨0, 0⟩ ⟨-200, 100⟩ = .ok path ∧
        Path.Connects ⟨0, 0⟩ ⟨-200, 100⟩ path ∧ path.Turns (-1, 1) (-1, 0) := by
  have whole : roundOutlines.IsWhole := roundTemplates.isWhole_outlines 5
  have follows : roundOutlines.FollowsRuns := roundTemplates.followsRuns_outlines 5 rfl rfl rfl rfl
  have turn : (⟨.downLeft, .left⟩ : Bend).IsTurn := by decide
  have isStop : (⟨.downLeft, .left⟩ : Bend).place ⟨0, 0⟩ (100 : Int) (100 : Int) = ⟨-200, 100⟩ := by
    ext <;> norm_num [Bend.place, Direction.step]
  have isStart : (⟨0, 0⟩ : Point Rat).IsWhole := .default
  refine ⟨whole, follows, turn, isStop, ?_⟩
  rw [← isStop]
  exact exists_draw_of_placed whole follows turn (fun _ _ => 1) isStart (by decide) (by decide)

/-- The numbers of steps between two stations are unique, and the bend is drawn just if it accepts
them. A bend between cardinals accepts only steps forward; one with a diagonal needs that the steps
along the diagonal lead forward, and that more of them do than lead backward along the cardinal. -/
theorem draws_iff_accepts (turn : bend.IsTurn) (nearest : Cubic Rat → Point Rat → Rat)
    (outlines : Outlines Rat) (start stop : Point Rat) :
    ∃ before behind : Rat,
      (∀ first second,
        bend.place start first second = stop ↔ first = before ∧ second = behind) ∧
      ((∃ path, draw nearest outlines bend start stop = .ok path) ↔
        bend.Accepts before behind) ∧
      (¬bend.Accepts before behind → ∃ first second,
        draw nearest outlines bend start stop = .error (.misplaced first second)) := by
  obtain ⟨before, behind, isPlace⟩ := turn.exists_place_iff start stop
  have decides := decides_draw turn nearest outlines start before behind
  rw [(isPlace before behind).mpr ⟨rfl, rfl⟩] at decides
  exact ⟨before, behind, isPlace, decides.ok_iff, decides.refuses⟩

/-- A wide bend is drawn if its first station lies beyond the corner. It is not drawn if its second
station lies to the left. -/
theorem draws_iff_accepts_wide :
    (⟨.right, .downRight⟩ : Bend).IsTurn ∧
      (∃ path, draw (fun _ _ => 1) roundOutlines ⟨.right, .downRight⟩ ⟨0, 0⟩ ⟨10, 100⟩ =
        .ok path) ∧
      ∃ first second, draw (fun _ _ => 1) roundOutlines ⟨.right, .downRight⟩ ⟨0, 0⟩ ⟨-10, 100⟩ =
        .error (.misplaced first second) := by
  have turn : (⟨.right, .downRight⟩ : Bend).IsTurn := by decide
  refine ⟨turn, ?_, ?_⟩
  · obtain ⟨before, behind, isPlace, draws, -⟩ :=
      draws_iff_accepts turn (fun _ _ => 1) roundOutlines ⟨0, 0⟩ ⟨10, 100⟩
    obtain ⟨rfl, rfl⟩ := (isPlace (-90) 100).mp (by ext <;> norm_num [Bend.place, Direction.step])
    exact draws.mpr ⟨by norm_num, by decide, by norm_num⟩
  · obtain ⟨before, behind, isPlace, -, refuses⟩ :=
      draws_iff_accepts turn (fun _ _ => 1) roundOutlines ⟨0, 0⟩ ⟨-10, 100⟩
    obtain ⟨rfl, rfl⟩ := (isPlace (-110) 100).mp (by ext <;> norm_num [Bend.place, Direction.step])
    exact refuses fun accepts => absurd accepts.2.2 (by norm_num)

/-- A path that doubles back: its second station would need steps to the left. -/
theorem draws_behind_corner :
    (⟨.right, .downRight⟩ : Bend).IsTurn ∧ roundOutlines.IsWhole ∧
      draw (fun _ _ => 1) roundOutlines ⟨.right, .downRight⟩ ⟨0, 0⟩ ⟨10, 100⟩ =
        .ok [.curved ⟨⟨0, 0⟩, ⟨-67, 23⟩, ⟨-67, 23⟩, ⟨-67, 23⟩⟩, .straight ⟨-67, 23⟩ ⟨10, 100⟩] ∧
      ¬∃ before behind : Rat, 0 ≤ before ∧ 0 ≤ behind ∧
        (⟨.right, .downRight⟩ : Bend).place ⟨0, 0⟩ before behind = ⟨10, 100⟩ := by
  refine ⟨by decide, roundTemplates.isWhole_outlines 5, by cbv, ?_⟩
  rintro ⟨before, behind, forward, -, reached⟩
  have x := congrArg Point.x reached
  have y := congrArg Point.y reached
  simp [Bend.place, Direction.step] at x y
  linarith

end BendPath

end TransitMap
