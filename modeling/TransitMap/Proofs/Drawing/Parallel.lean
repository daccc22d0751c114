import TransitMap.Drawing.Parallel
import TransitMap.Proofs.Drawing.BendPath

open TransitMap.Path (Connects)

namespace TransitMap

namespace Parallel

variable {start stop : Point Rat} {curves : List (Cubic Rat)}

def AreWhole (curves : List (Cubic Rat)) : Prop := ∀ curve ∈ curves, curve.IsWhole

theorem areWhole_cons {curve : Cubic Rat} :
    AreWhole (curve :: curves) ↔ curve.IsWhole ∧ AreWhole curves :=
  List.forall_mem_cons

theorem exists_of_mem_runs {fromStart : Bool} {entries : List (Option (List (Cubic K)))}
    {run : Run K} (member : run ∈ runs fromStart entries) {curve : Cubic K}
    (isCurve : curve ∈ run.curves) : ∃ curves, some curves ∈ entries ∧ curve ∈ curves := by
  fun_induction runs fromStart entries with
  | case1 => cases member
  | case2 fromStart rest ih =>
      obtain ⟨curves, isEntry, isCurve⟩ := ih member
      exact ⟨curves, List.mem_cons_of_mem _ isEntry, isCurve⟩
  | case3 fromStart curves rest more after ih =>
      rcases List.mem_cons.mp member with rfl | later
      · rcases List.mem_append.mp isCurve with isFirst | isMore
        · exact ⟨curves, List.mem_cons_self, isFirst⟩
        · obtain ⟨entry, isEntry, isCurve⟩ := List.mem_flatMap.mp isMore
          have isEntry := List.mem_cons_of_mem (some curves) (List.takeWhile_subset _ isEntry)
          cases entry with
          | none => cases isCurve
          | some others => exact ⟨others, isEntry, isCurve⟩
      · obtain ⟨others, isEntry, isCurve⟩ := ih later
        have isEntry := (List.dropWhile_sublist _).subset isEntry
        exact ⟨others, List.mem_cons_of_mem _ isEntry, isCurve⟩

theorem areWhole_of_follow {fitter : OffsetFitter Rat} {width : Rat} {segment : Segment Rat}
    {curves : List (Cubic Rat)} (followed : follow fitter width segment = .ok (some curves)) :
    AreWhole curves := by
  cases segment with
  | straight first last => cases followed
  | curved cubic =>
      simp only [follow, Outcome.bind_eq_ok, Except.ok.injEq, Option.some.injEq] at followed
      obtain ⟨fitted, -, rfl⟩ := followed
      intro curve member
      obtain ⟨original, -, rfl⟩ := List.mem_map.mp member
      exact .round original

theorem areWhole_stitch {curve : Cubic Rat} (isFirst : curve.IsWhole) (whole : AreWhole curves) :
    AreWhole (stitch curve curves) := by
  induction curves generalizing curve with
  | nil => exact areWhole_cons.mpr ⟨isFirst, whole⟩
  | cons next rest ih =>
      rw [areWhole_cons] at whole
      have joint : (curve.p3.midpoint next.p0).round.IsWhole := .round _
      exact areWhole_cons.mpr ⟨isFirst.withStop joint, ih (whole.1.withStart joint) whole.2⟩

theorem areWhole_stitchAll (whole : AreWhole curves) : AreWhole (stitchAll curves) := by
  cases curves with
  | nil => exact whole
  | cons first rest =>
      rw [areWhole_cons] at whole
      exact areWhole_stitch whole.1 whole.2

theorem areWhole_pinStart (isStart : start.IsWhole) (whole : AreWhole curves) :
    AreWhole (pinStart start curves) := by
  cases curves with
  | nil => exact whole
  | cons first rest =>
      rw [areWhole_cons] at whole
      exact areWhole_cons.mpr ⟨whole.1.withStart isStart, whole.2⟩

theorem areWhole_pinStop (isStop : stop.IsWhole) (whole : AreWhole curves) :
    AreWhole (pinStop stop curves) := by
  fun_induction pinStop stop curves with
  | case1 => exact whole
  | case2 last =>
      rw [areWhole_cons] at whole ⊢
      exact ⟨whole.1.withStop isStop, whole.2⟩
  | case3 first rest _ ih =>
      rw [areWhole_cons] at whole ⊢
      exact ⟨whole.1, ih whole.2⟩

theorem areWhole_pinned (isStart : start.IsWhole) (isStop : stop.IsWhole) {run : Run Rat}
    (whole : AreWhole run.curves) : AreWhole (run.pinned start stop) := by
  have stitched := areWhole_stitchAll whole
  have begun : AreWhole (if run.fromStart then pinStart start (stitchAll run.curves)
      else stitchAll run.curves) := by
    split
    · exact areWhole_pinStart isStart stitched
    · exact stitched
  unfold Run.pinned
  dsimp only
  split
  · exact areWhole_pinStop isStop begun
  · exact begun

theorem connects_closeGaps {cursor : Point Rat} (isCursor : cursor.IsWhole)
    (isStop : stop.IsWhole) {first : Cubic Rat} (whole : AreWhole (first :: curves)) :
    Connects cursor stop (closeGaps stop cursor (first :: curves)) := by
  obtain ⟨isFirst, others⟩ := areWhole_cons.mp whole
  obtain ⟨isBegin, -, -, isEnd⟩ := Cubic.isWhole_iff.mp isFirst
  refine BendPath.connects_filler_append isCursor isBegin ?_
  induction curves generalizing cursor first with
  | nil => exact BendPath.connects_append_filler isEnd isStop (BendPath.connects_curved isFirst)
  | cons next rest ih =>
      obtain ⟨isNext, later⟩ := areWhole_cons.mp others
      obtain ⟨nextBegin, -, -, nextEnd⟩ := Cubic.isWhole_iff.mp isNext
      have after := ih isEnd others isNext later nextBegin nextEnd
      exact (BendPath.connects_curved isFirst).append
        (BendPath.connects_filler_append isEnd nextBegin after)

theorem connects_connect (isStart : start.IsWhole) (isStop : stop.IsWhole)
    (whole : AreWhole curves) : Connects start stop (connect start stop curves) := by
  cases curves with
  | nil => exact .straight isStart isStop
  | cons first rest => exact connects_closeGaps isStart isStop whole

theorem connects_draw {distance : Point Rat → Point Rat → Rat} {fitter : OffsetFitter Rat}
    {width : Rat} {target path : Path Rat} (isStart : start.IsWhole) (isStop : stop.IsWhole)
    (drawn : draw distance fitter width target start stop = .ok path) :
    Connects start stop path := by
  simp only [draw, Outcome.bind_eq_ok, Except.ok.injEq] at drawn
  obtain ⟨followed, areFollowed, rfl⟩ := drawn
  refine connects_connect isStart isStop fun curve member => ?_
  obtain ⟨run, isRun, isCurve⟩ := List.mem_flatMap.mp member
  refine areWhole_pinned isStart isStop (fun original isOriginal => ?_) curve isCurve
  obtain ⟨curves, isEntry, isOriginal⟩ := exists_of_mem_runs isRun isOriginal
  obtain ⟨segment, -, followed⟩ := Outcome.exists_of_mem_mapM areFollowed isEntry
  exact areWhole_of_follow followed original isOriginal

end Parallel

end TransitMap
