import TransitMap.Drawing.BendPath
import TransitMap.Drawing.Offset

/-!
Paths alongside a target path. Only the curves of the target are followed: curves one after another
are joined halfway between their ends, and straight segments close the gaps.
-/

namespace TransitMap

namespace Parallel

variable [Scalar K]

/-- The target in the direction in which its ends are closer to the stations. -/
def oriented (distance : Point K → Point K → K) (target : Path K) (start stop : Point K) : Path K :=
  match target.head?, target.getLast? with
  | some first, some last =>
      let along := distance first.start start + distance last.stop stop
      let against := distance first.start stop + distance last.stop start
      if against < along then Path.reversed target else target
  | _, _ => []

def follow (fitter : OffsetFitter K) (width : K) :
    Segment K → Except OffsetFault (Option (List (Cubic K)))
  | .straight _ _ => .ok none
  | .curved cubic => do
      let curves ← fitter cubic width
      .ok (some (curves.map Cubic.round))

/-- The curves alongside curves that follow one another. -/
structure Run (K : Type) where
  fromStart : Bool
  toStop : Bool
  curves : List (Cubic K)
  deriving DecidableEq, Repr

def runs (fromStart : Bool) : List (Option (List (Cubic K))) → List (Run K)
  | [] => []
  | none :: rest => runs false rest
  | some curves :: rest =>
      let more := (rest.takeWhile Option.isSome).flatMap fun entry => entry.getD []
      let after := rest.dropWhile Option.isSome
      ⟨fromStart, after.isEmpty, curves ++ more⟩ :: runs false after
  termination_by entries => entries.length
  decreasing_by
    · simp
    · have := (List.dropWhile_sublist (l := rest) Option.isSome).length_le
      simp
      omega

/-- Moves the ends of curves that follow `curve` to the middle between them. -/
def stitch (curve : Cubic K) : List (Cubic K) → List (Cubic K)
  | [] => [curve]
  | next :: rest =>
      let joint := (curve.p3.midpoint next.p0).round
      curve.withStop joint :: stitch (next.withStart joint) rest

def stitchAll : List (Cubic K) → List (Cubic K)
  | [] => []
  | first :: rest => stitch first rest

def pinStart (start : Point K) : List (Cubic K) → List (Cubic K)
  | [] => []
  | first :: rest => first.withStart start :: rest

def pinStop (stop : Point K) : List (Cubic K) → List (Cubic K)
  | [] => []
  | [last] => [last.withStop stop]
  | first :: rest => first :: pinStop stop rest

/-- The joined curves of a run. Where the target begins or ends with it, so does the path. -/
def Run.pinned (start stop : Point K) (run : Run K) : List (Cubic K) :=
  let curves := stitchAll run.curves
  let curves := if run.fromStart then pinStart start curves else curves
  if run.toStop then pinStop stop curves else curves

def closeGaps (stop : Point K) (cursor : Point K) : List (Cubic K) → Path K
  | [] => BendPath.filler cursor stop
  | curve :: rest =>
      BendPath.filler cursor curve.p0 ++ .curved curve :: closeGaps stop curve.p3 rest

def connect (start stop : Point K) : List (Cubic K) → Path K
  | [] => [.straight start stop]
  | first :: rest => closeGaps stop start (first :: rest)

def draw (distance : Point K → Point K → K) (fitter : OffsetFitter K) (width : K)
    (target : Path K) (start stop : Point K) : Except OffsetFault (Path K) := do
  let followed ← (oriented distance target start stop).mapM (follow fitter width)
  .ok (connect start stop ((runs true followed).flatMap (Run.pinned start stop)))

end Parallel

end TransitMap
