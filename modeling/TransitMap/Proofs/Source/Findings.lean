import TransitMap.Proofs.Source.Connection

namespace TransitMap

namespace Network

variable {K : Type} {network : Network K} {origins : SourceMap}

def IsOrphan (network : Network K) (id : StationId) : Prop :=
  ∃ station, network.station? id = some station ∧ station.isAlignmentPoint = false ∧
    ∀ line ∈ network.lines, ∀ edge ∈ line.edges, edge.start ≠ id ∧ edge.stop ≠ id

/-- The curve follows itself or a curve of another bend, or it joins itself or curves that do not run
from its first station to its last. -/
def IsMisfit (network : Network K) (id : CurveId) : Prop :=
  ∃ curve, network.curve? id = some curve ∧
    match curve.shape with
    | .parallel target bend =>
        target = id ∨ ∃ followed targetBend, network.curve? target = some followed ∧
          followed.shape.bend? = some targetBend ∧ targetBend ≠ bend
    | .join parts => id ∈ parts ∨ ¬ network.PartsRun curve.start curve.stop parts
    | .sharp _ | .wide _ | .sequence _ => False

theorem PartsRun.concat {start reached : StationId} {before : List CurveId}
    (runs : network.PartsRun start reached before) {part : CurveId} {curve : Curve}
    (found : network.curve? part = some curve) (starts : curve.start = reached) :
    network.PartsRun start curve.stop (before ++ [part]) := by
  induction before generalizing start with
  | nil => exact ⟨curve, found, starts.trans runs.symm, rfl⟩
  | cons first rest ih =>
      obtain ⟨next, isFirst, same, behind⟩ := runs
      exact ⟨next, isFirst, same, ih behind⟩

theorem IsOrphan.mem_stationIds {id : StationId} (isOrphan : network.IsOrphan id) :
    id ∈ network.stationIds := by
  obtain ⟨station, found, -⟩ := isOrphan
  exact Network.mem_stationIds.mpr (List.getElem?_eq_some_iff.mp found).1

theorem IsMisfit.mem_curveIds {id : CurveId} (isMisfit : network.IsMisfit id) :
    id ∈ network.curveIds := by
  obtain ⟨curve, found, -⟩ := isMisfit
  exact Network.mem_curveIds.mpr (List.getElem?_eq_some_iff.mp found).1

end Network

namespace Network

variable {K : Type} [Scalar K] {network : Network K} {origins : SourceMap} {resolver : Resolver}
  {source : List Char}

def loop : Network Rat where
  lines := [⟨"red", [("A", ⟨0⟩), ("B", ⟨1⟩), ("C", ⟨2⟩)], [⟨⟨0⟩, ⟨1⟩⟩], [⟨0⟩], []⟩]
  lineNames := [("red", ⟨0⟩)]
  stations := [⟨"A", ⟨0⟩, .station, "A", ⟨0, 0⟩⟩, ⟨"B", ⟨0⟩, .station, "B", ⟨9, 9⟩⟩,
    ⟨"C", ⟨0⟩, .station, "C", ⟨5, 0⟩⟩]
  curves := [⟨⟨0⟩, ⟨0⟩, ⟨1⟩, .parallel ⟨0⟩ ⟨.right, .down⟩, 6⟩]
  alignments := []
  overlaps := []

end Network

end TransitMap
