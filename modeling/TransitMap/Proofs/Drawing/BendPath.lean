import TransitMap.Drawing.BendPath
import TransitMap.Proofs.Outcome
import TransitMap.Proofs.Plane.Path

open TransitMap.Path (Runs Connects)

namespace TransitMap

namespace Outlines

structure IsWhole (outlines : Outlines Rat) : Prop where
  sharp : outlines.sharp.IsWhole
  wide : outlines.wide.IsWhole

end Outlines

theorem Template.isWhole_outline (template : Template Rat) (scale : Rat) :
    (template.outline scale).IsWhole :=
  Cubic.isWhole_iff.mpr ⟨.round _, .round _, .round _, .round _⟩

theorem Templates.isWhole_outlines (templates : Templates Rat) (scale : Rat) :
    (templates.outlines scale).IsWhole :=
  ⟨templates.sharp.isWhole_outline scale, templates.wide.isWhole_outline scale⟩

theorem Bend.eq_of_canonicalize? {bend canonical : Bend} {isReversed : Bool}
    (found : bend.canonicalize? = some (canonical, isReversed)) :
    canonical = if isReversed then bend.reversed else bend := by
  unfold canonicalize? at found
  split_ifs at found <;> cases found <;> rfl

namespace BendPath

variable {start stop : Point Rat} {curve : Cubic Rat} {outlines : Outlines Rat}
  {nearest : Cubic Rat → Point Rat → Rat} {bend : Bend} {path : Path Rat}

theorem runs_filler {K : Type} [Scalar K] [LawfulBEq K] (start stop : Point K) :
    Runs start stop (filler start stop) := by
  unfold filler
  split
  · next same => exact eq_of_beq same
  · exact ⟨rfl, rfl⟩

theorem isWhole_filler (isStart : start.IsWhole) (isStop : stop.IsWhole) :
    Path.IsWhole (filler start stop) := by
  unfold filler
  split
  · simp [Path.IsWhole]
  · exact (Connects.straight isStart isStop).whole

theorem connects_curved (whole : curve.IsWhole) :
    Connects curve.p0 curve.p3 [.curved curve] where
  nonempty := by simp
  runs := ⟨rfl, rfl⟩
  whole := by
    intro segment member
    obtain rfl := List.mem_singleton.mp member
    exact whole

theorem connects_filler_append {middle : Point Rat} (isStart : start.IsWhole)
    (isMiddle : middle.IsWhole) (connects : Connects middle stop path) :
    Connects start stop (filler start middle ++ path) where
  nonempty := List.append_ne_nil_of_right_ne_nil _ connects.nonempty
  runs := (runs_filler start middle).append connects.runs
  whole := (isWhole_filler isStart isMiddle).append connects.whole

theorem connects_append_filler {middle : Point Rat} (isMiddle : middle.IsWhole)
    (isStop : stop.IsWhole) (connects : Connects start middle path) :
    Connects start stop (path ++ filler middle stop) where
  nonempty := List.append_ne_nil_of_left_ne_nil connects.nonempty _
  runs := connects.runs.append (runs_filler middle stop)
  whole := connects.whole.append (isWhole_filler isMiddle isStop)

theorem connects_fill (isStart : start.IsWhole) (isStop : stop.IsWhole) (whole : curve.IsWhole) :
    Connects start stop (fill start stop curve) := by
  obtain ⟨isFirst, -, -, isLast⟩ := Cubic.isWhole_iff.mp whole
  have toStop := connects_append_filler isLast isStop (connects_curved whole)
  exact connects_filler_append isStart isFirst toStop

theorem isWhole_anchored (whole : outlines.IsWhole) (base : BaseBend) (isStart : start.IsWhole)
    (isStop : stop.IsWhole) : (anchored outlines base start stop).IsWhole := by
  cases base with
  | sharp => exact whole.sharp.map fun point isWhole => .add ⟨isStop.x, isStart.y⟩ isWhole
  | wide =>
      have corner : Scalar.IsWhole (stop.x - (stop.y - start.y)) :=
        isStop.x.sub (isStop.y.sub isStart.y)
      exact whole.wide.map fun point isWhole => .add ⟨corner, isStart.y⟩ isWhole

theorem isWhole_cutStart (isStart : start.IsWhole) (whole : curve.IsWhole) :
    (cutStart nearest start curve).IsWhole := by
  unfold cutStart
  split
  · exact (Cubic.IsWhole.round _).withStart isStart
  · exact whole

theorem isWhole_cutStop (isStop : stop.IsWhole) (whole : curve.IsWhole) :
    (cutStop nearest stop curve).IsWhole := by
  unfold cutStop
  split
  · exact (Cubic.IsWhole.round _).withStop isStop
  · exact whole

theorem connects_ofBase (whole : outlines.IsWhole) {base : BaseBend} (isStart : start.IsWhole)
    (isStop : stop.IsWhole) (drawn : ofBase nearest outlines base start stop = .ok path) :
    Connects start stop path := by
  unfold ofBase at drawn
  split at drawn
  · cases drawn
  · obtain rfl := Except.ok.inj drawn
    have anchored := isWhole_anchored whole base isStart isStop
    exact connects_fill isStart isStop
      (isWhole_cutStop isStop (isWhole_cutStart isStart anchored))

/-- A canonical bend is drawn as the base bend it reduces to, and mirrored back. -/
theorem exists_ofBase_of_ofCanonical
    (drawn : ofCanonical nearest outlines bend start stop = .ok path) :
    ∃ reduction base, Reduction.ofBend? bend = some reduction ∧
      ofBase nearest outlines reduction.base start
        (Mirror.applyAll (reduction.flips.map (Flip.about start)) stop) = .ok base ∧
      path = (reduction.flips.map (Flip.about start)).foldr
        (fun mirror path => Path.reflect path mirror) base := by
  unfold ofCanonical at drawn
  split at drawn
  · cases drawn
  · next reduction reduced =>
      simp only [Outcome.bind_eq_ok, Except.ok.injEq] at drawn
      obtain ⟨base, drawn, rfl⟩ := drawn
      exact ⟨reduction, base, reduced, drawn, rfl⟩

/-- A turning bend is drawn backward from its second station, or forward from its first. -/
theorem ofTurn_cases (drawn : ofTurn nearest outlines bend start stop = .ok path) :
    (∃ backward, ofCanonical nearest outlines bend.reversed stop start = .ok backward ∧
      path = Path.round (Path.reversed backward)) ∨
    ∃ forward, ofCanonical nearest outlines bend start stop = .ok forward ∧
      path = Path.round forward := by
  unfold ofTurn at drawn
  split at drawn
  · cases drawn
  · next canonical found =>
      simp only [Outcome.bind_eq_ok, Except.ok.injEq] at drawn
      obtain ⟨backward, drawn, rfl⟩ := drawn
      obtain rfl := Bend.eq_of_canonicalize? found
      exact .inl ⟨backward, drawn, rfl⟩
  · next canonical found =>
      simp only [Outcome.bind_eq_ok, Except.ok.injEq] at drawn
      obtain ⟨forward, drawn, rfl⟩ := drawn
      obtain rfl := Bend.eq_of_canonicalize? found
      exact .inr ⟨forward, drawn, rfl⟩

theorem connects_ofCanonical (whole : outlines.IsWhole) (isStart : start.IsWhole)
    (isStop : stop.IsWhole) (drawn : ofCanonical nearest outlines bend start stop = .ok path) :
    Connects start stop path := by
  obtain ⟨reduction, base, -, isBase, rfl⟩ := exists_ofBase_of_ofCanonical drawn
  have keep := Flip.keepsGrid_of_mem reduction.flips isStart
  have mirrored := Mirror.isWhole_applyAll keep isStop
  exact (connects_ofBase whole isStart mirrored isBase).unmirror keep

theorem connects_ofTurn (whole : outlines.IsWhole) (isStart : start.IsWhole)
    (isStop : stop.IsWhole) (drawn : ofTurn nearest outlines bend start stop = .ok path) :
    Connects start stop path := by
  rcases ofTurn_cases drawn with ⟨backward, isBackward, rfl⟩ | ⟨forward, isForward, rfl⟩
  · exact (connects_ofCanonical whole isStop isStart isBackward).reversed.round isStart isStop
  · exact (connects_ofCanonical whole isStart isStop isForward).round isStart isStop

theorem connects_draw (whole : outlines.IsWhole) (isStart : start.IsWhole) (isStop : stop.IsWhole)
    (drawn : draw nearest outlines bend start stop = .ok path) : Connects start stop path := by
  unfold draw at drawn
  split at drawn
  · cases drawn
  · obtain rfl := Except.ok.inj drawn
    exact .straight isStart isStop
  · exact connects_ofTurn whole isStart isStop drawn
  · exact connects_ofTurn whole isStart isStop drawn

end BendPath

end TransitMap
