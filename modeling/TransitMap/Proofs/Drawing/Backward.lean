import TransitMap.Proofs.Drawing.Alongside
import TransitMap.Proofs.Drawing.Turn

namespace TransitMap

namespace Path

variable {K : Type}

theorem reversed_round [Scalar K] (path : Path K) :
    reversed (Path.round path) = Path.round (reversed path) :=
  reversed_map Point.round path

@[simp] theorem head?_reversed (path : Path K) :
    (reversed path).head? = path.getLast?.map Segment.reversed := by
  simp [reversed]

@[simp] theorem getLast?_reversed (path : Path K) :
    (reversed path).getLast? = path.head?.map Segment.reversed := by
  simp [reversed]

end Path

namespace Bend

variable {bend : Bend}

theorem kind?_reversed (bend : Bend) : bend.reversed.kind? = bend.kind? := by
  obtain ⟨departure, arrival⟩ := bend
  cases departure <;> cases arrival <;> rfl

theorem IsTurn.isCanonical_reversed (turn : bend.IsTurn) :
    bend.reversed.isCanonical = !bend.isCanonical := by
  obtain ⟨departure, arrival⟩ := bend
  revert turn
  cases departure <;> cases arrival <;> decide

theorem IsTurn.isSome_kind? (turn : bend.IsTurn) : bend.kind?.isSome = true := by
  rcases turn with kind | kind <;> rw [kind] <;> rfl

theorem IsTurn.canonicalize?_reversed (turn : bend.IsTurn) :
    bend.reversed.canonicalize? = bend.canonicalize?.map fun found => (found.1, !found.2) := by
  have drawable : bend.kind?.isNone = false := by simpa using turn.isSome_kind?
  have other := turn.isCanonical_reversed
  simp only [canonicalize?, kind?_reversed, drawable, other, reversed_reversed]
  cases bend.isCanonical <;> rfl

end Bend

def BendFault.reversed : BendFault K → BendFault K
  | notDrawable bend => notDrawable bend.reversed
  | notCanonical bend => notCanonical bend.reversed
  | notReducible bend => notReducible bend
  | misplaced start stop => misplaced start stop

namespace BendPath

variable {K : Type} [Scalar K] {nearest : Cubic K → Point K → K} {outlines : Outlines K}
  {bend : Bend} {start stop : Point K}

/-- What is wrong with a canonical bend is seen from both of its ends. -/
theorem reversed_of_ofCanonical_eq_error {fault : BendFault K}
    (failed : ofCanonical nearest outlines bend start stop = .error fault) :
    fault.reversed = fault := by
  unfold ofCanonical at failed
  split at failed
  · obtain rfl := Except.error.inj failed
    rfl
  · simp only [Outcome.bind_eq_error, reduceCtorEq, and_false, exists_false, or_false] at failed
    unfold ofBase at failed
    split at failed
    · obtain rfl := Except.error.inj failed
      rfl
    · cases failed

omit [Scalar K] in
theorem bind_reversed {drawn : Except (BendFault K) (Path K)}
    (seen : ∀ fault, drawn = .error fault → fault.reversed = fault) {finish other : Path K → Path K}
    (same : ∀ path, other path = Path.reversed (finish path)) :
    (drawn >>= fun path => .ok (other path)) =
      ((drawn >>= fun path => .ok (finish path)).map Path.reversed).mapError BendFault.reversed := by
  cases drawn with
  | error fault => exact congrArg Except.error (seen fault rfl).symm
  | ok path => exact congrArg Except.ok (same path)

theorem ofTurn_reversed (turn : bend.IsTurn) (nearest : Cubic K → Point K → K)
    (outlines : Outlines K) (start stop : Point K) :
    ofTurn nearest outlines bend.reversed stop start =
      ((ofTurn nearest outlines bend start stop).map Path.reversed).mapError BendFault.reversed := by
  simp only [ofTurn, turn.canonicalize?_reversed]
  rcases bend.canonicalize? with _ | ⟨canonical, _ | _⟩
  · rfl
  · refine bind_reversed (fun fault => reversed_of_ofCanonical_eq_error) fun path => ?_
    exact (Path.reversed_round path).symm
  · refine bind_reversed (fun fault => reversed_of_ofCanonical_eq_error) fun path => ?_
    rw [Path.reversed_round, Path.reversed_reversed]

/-- A bend that is declared from its other end is drawn just if it is drawn from this one, and its
path is the same one travelled from its other end. -/
theorem draw_reversed (nearest : Cubic K → Point K → K) (outlines : Outlines K) (bend : Bend)
    (start stop : Point K) :
    draw nearest outlines bend.reversed stop start =
      ((draw nearest outlines bend start stop).map Path.reversed).mapError BendFault.reversed := by
  cases kind : bend.kind? with
  | none =>
      simp only [draw, bend.kind?_reversed, kind]
      rfl
  | some isKind =>
      cases isKind with
      | straight =>
          simp only [draw, bend.kind?_reversed, kind]
          rfl
      | sharp =>
          simp only [draw, bend.kind?_reversed, kind]
          exact ofTurn_reversed (.inl kind) nearest outlines start stop
      | wide =>
          simp only [draw, bend.kind?_reversed, kind]
          exact ofTurn_reversed (.inr kind) nearest outlines start stop

end BendPath

namespace Parallel

variable {K : Type} [Scalar K] {distance : Point K → Point K → K} {target : Path K}
  {start stop : Point K}

/-- The ends of the target lie closer to the stations in one order than in the other. -/
def IsDirected (distance : Point K → Point K → K) (target : Path K) (start stop : Point K) : Prop :=
  ∀ first last, target.head? = some first → target.getLast? = some last →
    distance first.start start + distance last.stop stop ≠
      distance first.start stop + distance last.stop start

variable [Std.Commutative (α := K) (· + ·)] [Std.Asymm (α := K) (· < ·)]
  [Std.Trichotomous (α := K) (· < ·)]

/-- Reversing the target swaps the two sums, and it is reversed back in the other one of the cases. -/
theorem oriented_reversed (directed : IsDirected distance target start stop) :
    oriented distance (Path.reversed target) start stop = oriented distance target start stop := by
  unfold oriented
  rw [Path.head?_reversed, Path.getLast?_reversed]
  cases isFirst : target.head? with
  | none =>
      cases target.getLast? <;> rfl
  | some first =>
      cases isLast : target.getLast? with
      | none => rfl
      | some last =>
          have differ := directed first last isFirst isLast
          simp only [Option.map_some, Segment.start_reversed, Segment.stop_reversed,
            Path.reversed_reversed]
          have swap : ∀ left right : K, left + right = right + left := Std.Commutative.comm
          rw [swap (distance last.stop start), swap (distance last.stop stop)]
          generalize distance first.start start + distance last.stop stop = along at *
          generalize distance first.start stop + distance last.stop start = against at *
          by_cases closer : along < against
          · have farther := Std.Asymm.asymm (r := (· < ·)) along against closer
            rw [if_pos closer, if_neg farther]
          · have farther : against < along := by
              by_contra notCloser
              exact differ (Std.Trichotomous.trichotomous (r := (· < ·)) _ _ closer notCloser)
            rw [if_neg closer, if_pos farther]

/-- A target that is declared in the other direction has the same path alongside, or the same
fault. -/
theorem draw_reversed_target (directed : IsDirected distance target start stop)
    (fitter : OffsetFitter K) (width : K) :
    draw distance fitter width (Path.reversed target) start stop =
      draw distance fitter width target start stop := by
  rw [draw, draw, oriented_reversed directed]

theorem draw_reversed_stairs :
    IsDirected taxicab stairs ⟨0, -8⟩ ⟨248, 140⟩ ∧
      draw taxicab mover 8 (Path.reversed stairs) ⟨0, -8⟩ ⟨248, 140⟩ = .ok stairsAlongside := by
  have directed : IsDirected taxicab stairs ⟨0, -8⟩ ⟨248, 140⟩ := by
    rintro first last ⟨⟩ ⟨⟩
    decide +kernel
  refine ⟨directed, ?_⟩
  rw [draw_reversed_target directed]
  cbv

end Parallel

end TransitMap
