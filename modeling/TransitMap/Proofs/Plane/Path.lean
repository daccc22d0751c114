import Mathlib.Data.List.Chain
import TransitMap.Plane.Path
import TransitMap.Proofs.Plane.Whole

namespace TransitMap

namespace Segment

@[simp] theorem start_map (f : Point K → Point L) (segment : Segment K) :
    (segment.map f).start = f segment.start := by
  cases segment <;> rfl

@[simp] theorem stop_map (f : Point K → Point L) (segment : Segment K) :
    (segment.map f).stop = f segment.stop := by
  cases segment <;> rfl

@[simp] theorem points_map (f : Point K → Point L) (segment : Segment K) :
    (segment.map f).points = segment.points.map f := by
  cases segment <;> rfl

@[simp] theorem points_reversed (segment : Segment K) :
    segment.reversed.points = segment.points.reverse := by
  cases segment <;> rfl

end Segment

namespace Path

theorem reversed_map (f : Point K → Point L) (path : Path K) :
    reversed (path.map (Segment.map f)) = (reversed path).map (Segment.map f) := by
  have same : ∀ segment : Segment K, (segment.map f).reversed = segment.reversed.map f := by
    intro segment
    cases segment <;> rfl
  simp [reversed, same]

/-- The segments follow one another from `start` to `stop`. -/
def Runs : Point K → Point K → Path K → Prop
  | start, stop, [] => start = stop
  | start, stop, segment :: rest => segment.start = start ∧ Runs segment.stop stop rest

namespace Runs

variable {start middle stop : Point K} {path first second : Path K}

theorem append (before : Runs start middle first) (after : Runs middle stop second) :
    Runs start stop (first ++ second) := by
  induction first generalizing start with
  | nil => exact before ▸ after
  | cons segment rest ih => exact ⟨before.1, ih before.2⟩

theorem map (f : Point K → Point L) (runs : Runs start stop path) :
    Runs (f start) (f stop) (path.map (Segment.map f)) := by
  induction path generalizing start with
  | nil => exact congrArg f runs
  | cons segment rest ih =>
      obtain ⟨rfl, runs⟩ := runs
      exact ⟨segment.start_map f, by simpa using ih runs⟩

theorem reversed (runs : Runs start stop path) : Runs stop start (Path.reversed path) := by
  induction path generalizing start with
  | nil => exact runs.symm
  | cons segment rest ih =>
      obtain ⟨rfl, runs⟩ := runs
      have last : Runs segment.stop segment.start [segment.reversed] := by simp [Runs]
      simpa [Path.reversed] using (ih runs).append last

theorem head?_start (runs : Runs start stop path) (nonempty : path ≠ []) :
    path.head?.map Segment.start = some start := by
  cases path with
  | nil => exact absurd rfl nonempty
  | cons segment rest => exact congrArg some runs.1

theorem getLast?_stop (runs : Runs start stop path) (nonempty : path ≠ []) :
    path.getLast?.map Segment.stop = some stop := by
  induction path generalizing start with
  | nil => exact absurd rfl nonempty
  | cons segment rest ih =>
      cases rest with
      | nil => exact congrArg some runs.2
      | cons next others => simpa using ih runs.2 (by simp)

theorem isChain (runs : Runs start stop path) :
    path.IsChain fun before after => before.stop = after.start := by
  induction path generalizing start with
  | nil => exact .nil
  | cons segment rest ih =>
      cases rest with
      | nil => exact .singleton segment
      | cons next others => exact .cons_cons runs.2.1.symm (ih runs.2)

end Runs

def IsWhole (path : Path Rat) : Prop :=
  ∀ segment ∈ path, ∀ point ∈ segment.points, point.IsWhole

namespace IsWhole

variable {path first second : Path Rat}

theorem append (before : IsWhole first) (after : IsWhole second) : IsWhole (first ++ second) := by
  intro segment member
  rcases List.mem_append.mp member with member | member
  · exact before segment member
  · exact after segment member

theorem map {f : Point Rat → Point Rat} (kept : ∀ point, point.IsWhole → (f point).IsWhole)
    (whole : IsWhole path) : IsWhole (path.map (Segment.map f)) := by
  intro segment member point isPoint
  obtain ⟨original, isOriginal, rfl⟩ := List.mem_map.mp member
  rw [Segment.points_map] at isPoint
  obtain ⟨source, isSource, rfl⟩ := List.mem_map.mp isPoint
  exact kept source (whole original isOriginal source isSource)

theorem reversed (whole : IsWhole path) : IsWhole (Path.reversed path) := by
  intro segment member point isPoint
  obtain ⟨original, isOriginal, rfl⟩ := List.mem_map.mp (List.mem_reverse.mp member)
  rw [Segment.points_reversed, List.mem_reverse] at isPoint
  exact whole original isOriginal point isPoint

end IsWhole

structure Connects (start stop : Point Rat) (path : Path Rat) : Prop where
  nonempty : path ≠ []
  runs : Runs start stop path
  whole : IsWhole path

namespace Connects

variable {start middle stop : Point Rat} {path first second : Path Rat}

theorem straight (isStart : start.IsWhole) (isStop : stop.IsWhole) :
    Connects start stop [.straight start stop] where
  nonempty := by simp
  runs := ⟨rfl, rfl⟩
  whole := by
    intro segment member point isPoint
    obtain rfl := List.mem_singleton.mp member
    simp only [Segment.points, List.mem_cons, List.not_mem_nil, or_false] at isPoint
    rcases isPoint with rfl | rfl
    · exact isStart
    · exact isStop

theorem append (before : Connects start middle first) (after : Connects middle stop second) :
    Connects start stop (first ++ second) where
  nonempty := List.append_ne_nil_of_left_ne_nil before.nonempty second
  runs := before.runs.append after.runs
  whole := before.whole.append after.whole

theorem map {f : Point Rat → Point Rat} (kept : ∀ point, point.IsWhole → (f point).IsWhole)
    (connects : Connects start stop path) :
    Connects (f start) (f stop) (path.map (Segment.map f)) where
  nonempty := by simpa using connects.nonempty
  runs := connects.runs.map f
  whole := connects.whole.map kept

theorem reversed (connects : Connects start stop path) :
    Connects stop start (Path.reversed path) where
  nonempty := by simpa [Path.reversed] using connects.nonempty
  runs := connects.runs.reversed
  whole := connects.whole.reversed

theorem round (connects : Connects start stop path) (isStart : start.IsWhole)
    (isStop : stop.IsWhole) : Connects start stop (Path.round path) := by
  have rounded := connects.map (f := Point.round) fun point _ => .round point
  rwa [isStart.round_eq, isStop.round_eq] at rounded

theorem unmirror {mirrors : List (Mirror Rat)}
    (keep : ∀ mirror ∈ mirrors, mirror.KeepsGrid start)
    (connects : Connects start (Mirror.applyAll mirrors stop) path) :
    Connects start stop (mirrors.foldr (fun mirror path => Path.reflect path mirror) path) := by
  induction mirrors generalizing stop with
  | nil => exact connects
  | cons mirror rest ih =>
      have keeps := keep mirror List.mem_cons_self
      have inner := ih (fun other member => keep other (List.mem_cons_of_mem _ member)) connects
      have mirrored := inner.map keeps.whole
      rwa [keeps.fixes, keeps.undoes] at mirrored

end Connects

end Path

end TransitMap
