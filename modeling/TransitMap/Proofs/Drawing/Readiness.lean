import TransitMap.Drawing.Synthesis
import TransitMap.Proofs.Drawing.Schedule
import TransitMap.Proofs.Outcome

open Relation (ReflTransGen TransGen)

namespace TransitMap

/-- What keeps the curve from being drawn is that a path is not there. -/
def CurveFault.IsMissing : CurveFault K → Prop
  | targetNotDrawn | partNotDrawn | notDrawn => True
  | bend _ | leg _ _ | offset _ => False

namespace Synthesis

variable {K : Type} [Scalar K] {pen : Pen K} {network : Network K} {layout : Layout K}
  {drawn : Drawn K} {curves : List CurveId}

structure HasPaths (network : Network K) (drawn : Drawn K) (curves : List CurveId) : Prop where
  size : drawn.length = network.curves.length
  exists_path : ∀ curve ∈ curves, ∃ path, drawn.path? curve = some path

omit [Scalar K] in
theorem hasPaths_replicate (network : Network K) :
    HasPaths network (List.replicate network.curves.length none) [] :=
  ⟨List.length_replicate, by simp⟩

theorem HasPaths.drawNext {id : CurveId} {after : Drawn K} (has : HasPaths network drawn curves)
    (known : id ∈ network.curveIds)
    (isDrawn : drawNext pen network layout drawn id = .ok after) :
    HasPaths network after (curves ++ [id]) := by
  rw [Network.mem_curveIds] at known
  have found : network.curve? id = some network.curves[id.index] := List.getElem?_eq_getElem known
  simp only [Synthesis.drawNext, found, Outcome.bind_eq_ok, Except.ok.injEq] at isDrawn
  obtain ⟨path, -, rfl⟩ := isDrawn
  refine ⟨(List.length_set ..).trans has.size, fun curve member => ?_⟩
  by_cases same : id.index = curve.index
  · exact ⟨path, by simp [Drawn.path?, same, has.size, same ▸ known]⟩
  · have earlier : curve ∈ curves := by
      rcases List.mem_append.mp member with earlier | new
      · exact earlier
      · exact absurd (congrArg CurveId.index (List.mem_singleton.mp new)).symm same
    obtain ⟨other, isOther⟩ := has.exists_path curve earlier
    exact ⟨other, by rwa [Drawn.path?, List.getElem?_set_ne same]⟩

theorem HasPaths.foldlM {order : List CurveId} {after : Drawn K}
    (has : HasPaths network drawn curves) (known : ∀ curve ∈ order, curve ∈ network.curveIds)
    (areDrawn : order.foldlM (Synthesis.drawNext pen network layout) drawn = .ok after) :
    HasPaths network after (curves ++ order) := by
  induction order generalizing drawn curves with
  | nil =>
      obtain rfl := Except.ok.inj areDrawn
      rwa [List.append_nil]
  | cons first rest ih =>
      rw [List.forall_mem_cons] at known
      simp only [List.foldlM_cons, Outcome.bind_eq_ok] at areDrawn
      obtain ⟨next, isDrawn, areDrawn⟩ := areDrawn
      rw [List.append_cons]
      exact ih (has.drawNext known.1 isDrawn) known.2 areDrawn

theorem exists_of_drawCurve_eq_error {curve : Curve} {fault : CurveFault K}
    (failed : drawCurve pen layout drawn curve = .error fault) (missing : fault.IsMissing) :
    ∃ dependency ∈ curve.shape.dependencies, drawn.path? dependency = none := by
  unfold drawCurve at failed
  cases shape : curve.shape with
  | sharp bend | wide bend =>
      simp only [shape, Outcome.mapError_eq_error] at failed
      obtain ⟨cause, -, rfl⟩ := failed
      exact missing.elim
  | parallel target bend =>
      simp only [shape] at failed
      split at failed
      · obtain ⟨cause, -, rfl⟩ := Outcome.mapError_eq_error.mp failed
        exact missing.elim
      · next absent => exact ⟨target, List.mem_singleton_self _, absent⟩
  | sequence legs =>
      simp only [shape, Outcome.map_eq_error] at failed
      obtain ⟨leg, -, failed⟩ := Outcome.exists_of_mapM_eq_error failed
      obtain ⟨cause, -, rfl⟩ := Outcome.mapError_eq_error.mp failed
      exact missing.elim
  | join parts =>
      simp only [shape, Outcome.map_eq_error] at failed
      obtain ⟨part, member, failed⟩ := Outcome.exists_of_mapM_eq_error failed
      refine ⟨part, member, ?_⟩
      unfold drawnPart at failed
      split at failed
      · cases failed
      · next absent => exact absent

theorem hasPaths_of_drawAll {order : List CurveId}
    (known : ∀ curve ∈ order, curve ∈ network.curveIds)
    (areDrawn : drawAll pen network layout order = .ok drawn) : HasPaths network drawn order :=
  (hasPaths_replicate network).foldlM known areDrawn

/-- When a curve is drawn in its turn, no path that it needs is missing. -/
theorem not_isMissing_of_drawAll {order : List CurveId} {id : CurveId} {fault : CurveFault K}
    (ordered : Schedule.order network = .ok order)
    (failed : drawAll pen network layout order = .error (.curve id fault)) : ¬fault.IsMissing := by
  intro missing
  obtain ⟨perm, queue, sound, rfl⟩ := Schedule.order_eq_ok ordered
  obtain ⟨before, turn, behind, reached, split, areDrawn, refused⟩ :=
    Outcome.exists_of_foldlM_eq_error failed
  have known : ∀ curve ∈ before, curve ∈ network.curveIds := fun curve member =>
    perm.mem_iff.mp (split ▸ List.mem_append_left _ member)
  unfold drawNext at refused
  split at refused
  · cases refused
  · next curve found =>
      simp only [Outcome.bind_eq_error, Outcome.mapError_eq_error, reduceCtorEq, and_false,
        exists_false, or_false, SynthesisFault.curve.injEq] at refused
      obtain ⟨cause, refused, rfl, rfl⟩ := refused
      obtain ⟨dependency, needed, absent⟩ := exists_of_drawCurve_eq_error refused missing
      have dependsOn : network.DependsOn turn dependency := by
        simpa [Network.DependsOn, Network.dependencies, found] using needed
      obtain ⟨path, isPath⟩ := (hasPaths_of_drawAll known areDrawn).exists_path dependency
        (sound.mem_of_reverse_eq split dependency dependsOn)
      exact absurd (isPath.symm.trans absent) (by simp)

theorem not_isMissing_of_paths {id : CurveId} {fault : CurveFault K}
    (failed : Synthesis.paths pen network layout = .error (.curve id fault)) :
    ¬fault.IsMissing := by
  simp only [Synthesis.paths, Outcome.bind_eq_error, Outcome.mapError_eq_error, reduceCtorEq,
    and_false, exists_false, false_or, Outcome.mapError_eq_ok] at failed
  obtain ⟨order, ordered, failed | ⟨drawn, areDrawn, failed⟩⟩ := failed
  · exact not_isMissing_of_drawAll ordered failed
  · obtain ⟨perm, -⟩ := Schedule.order_eq_ok ordered
    have has := hasPaths_of_drawAll (fun curve => perm.mem_iff.mp) areDrawn
    obtain ⟨curve, isCurve, failed⟩ := Outcome.exists_of_mapM_eq_error failed
    obtain ⟨path, isPath⟩ := has.exists_path curve (perm.mem_iff.mpr isCurve)
    simp [isPath] at failed

end Synthesis

namespace Schedule

variable {K : Type} [Scalar K]

/-- Curves are ordered unless some curve depends on itself. They are then drawn behind the curves
they depend on, so that no path is missing when it is needed; otherwise those that depend on a curve
that depends on itself are named. -/
theorem order_respects_dependencies (network : Network K) (known : network.DependenciesKnown) :
    ((∃ order, Schedule.order network = .ok order) ↔
      ∀ curve, ¬TransGen network.DependsOn curve curve) ∧
    (∀ order, Schedule.order network = .ok order →
      order.Perm network.curveIds ∧
      ∀ before curve behind, order = before ++ curve :: behind →
        ∀ dependency, network.DependsOn curve dependency → dependency ∈ before) ∧
    (∀ (pen : Pen K) (layout : Layout K) (curve : CurveId),
      Synthesis.paths pen network layout ≠ .error (.curve curve .targetNotDrawn) ∧
      Synthesis.paths pen network layout ≠ .error (.curve curve .partNotDrawn) ∧
      Synthesis.paths pen network layout ≠ .error (.curve curve .notDrawn)) ∧
    ∀ curves, Schedule.order network = .error curves →
      curves.Sublist network.curveIds ∧
      (∀ curve, curve ∈ curves ↔ ∃ looped, ReflTransGen network.DependsOn curve looped ∧
        TransGen network.DependsOn looped looped) ∧
      ∀ (pen : Pen K) (layout : Layout K),
        Synthesis.paths pen network layout = .error (.cycle curves) := by
  refine ⟨exists_order_iff known, ?_, ?_, ?_⟩
  · intro order ordered
    obtain ⟨perm, drawn, sound, rfl⟩ := order_eq_ok ordered
    exact ⟨perm, fun before curve behind => sound.mem_of_reverse_eq⟩
  · intro pen layout curve
    have missing : ∀ fault : CurveFault K, fault.IsMissing →
        Synthesis.paths pen network layout ≠ .error (.curve curve fault) :=
      fun fault missing failed => Synthesis.not_isMissing_of_paths failed missing
    exact ⟨missing _ trivial, missing _ trivial, missing _ trivial⟩
  · intro curves failed
    obtain ⟨-, declared, stuck⟩ := order_eq_error known failed
    refine ⟨declared, stuck, fun pen layout => ?_⟩
    rw [Synthesis.paths, failed]
    rfl

def knot : Network Rat where
  lines := [⟨"red", [("A", ⟨0⟩), ("B", ⟨1⟩)], [⟨⟨0⟩, ⟨1⟩⟩], [⟨0⟩, ⟨1⟩, ⟨2⟩, ⟨3⟩, ⟨4⟩, ⟨5⟩], []⟩]
  lineNames := [("red", ⟨0⟩)]
  stations := [⟨"A", ⟨0⟩, .station, "A", ⟨0, 0⟩⟩, ⟨"B", ⟨0⟩, .station, "B", ⟨9, 9⟩⟩]
  curves := [.sharp ⟨.right, .down⟩, .join [⟨0⟩, ⟨0⟩], .parallel ⟨3⟩ ⟨.right, .down⟩,
    .parallel ⟨2⟩ ⟨.right, .down⟩, .join [⟨2⟩, ⟨0⟩], .parallel ⟨5⟩ ⟨.right, .down⟩].map
      fun shape => ⟨⟨0⟩, ⟨0⟩, ⟨1⟩, shape, 5⟩
  alignments := []
  overlaps := []

theorem order_respects_dependencies_knot :
    knot.DependenciesKnown ∧ Schedule.order knot = .error [⟨2⟩, ⟨3⟩, ⟨4⟩, ⟨5⟩] ∧
      (∃ looped, ReflTransGen knot.DependsOn ⟨4⟩ looped ∧ TransGen knot.DependsOn looped looped) ∧
      ¬∃ looped, ReflTransGen knot.DependsOn ⟨1⟩ looped ∧
        TransGen knot.DependsOn looped looped := by
  have known : knot.DependenciesKnown := by
    have among : ∀ curve ∈ knot.curveIds, ∀ dependency ∈ knot.dependencies curve,
        dependency ∈ knot.curveIds := by decide
    exact fun curve dependency dependsOn => among curve dependsOn.mem_curveIds dependency dependsOn
  have failed : Schedule.order knot = .error [⟨2⟩, ⟨3⟩, ⟨4⟩, ⟨5⟩] := by rfl
  obtain ⟨-, stuck, -⟩ := (order_respects_dependencies knot known).2.2.2 _ failed
  exact ⟨known, failed, (stuck ⟨4⟩).mp (by decide), fun waits =>
    absurd ((stuck ⟨1⟩).mpr waits) (by decide)⟩

end Schedule

end TransitMap
