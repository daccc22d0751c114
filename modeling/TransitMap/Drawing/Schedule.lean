import TransitMap.Network.Basic

/-!
The order in which curves are drawn: each behind the curves it depends on. Curves become ready one
after another, and the curve that has been ready longest is drawn next.
-/

namespace TransitMap

namespace Network

def dependencies (network : Network K) (curve : CurveId) : List CurveId :=
  ((network.curve? curve).map fun found => found.shape.dependencies).getD []

/-- The curves that depend on a curve, once for each time they do, the last declared first. -/
def dependents (network : Network K) (curve : CurveId) : List CurveId :=
  (network.curveIds.flatMap fun id =>
    ((network.dependencies id).filter (· == curve)).map fun _ => id).reverse

end Network

structure Schedule where
  /-- The curves drawn, the last of them first. -/
  drawn : List CurveId
  /-- The curves that can be drawn, in the order in which they became ready. -/
  ready : List CurveId
  pending : List Nat
  deriving DecidableEq, Repr

namespace Schedule

def waitsFor (schedule : Schedule) (curve : CurveId) : Nat := schedule.pending.getD curve.index 0

def start (network : Network K) : Schedule :=
  let ready := network.curveIds.filter fun curve => (network.dependencies curve).isEmpty
  ⟨[], ready, network.curveIds.map fun curve => (network.dependencies curve).length⟩

/-- Notes that one of the curves that `curve` waits for has been drawn. -/
def release (schedule : Schedule) (curve : CurveId) : Schedule :=
  let waits := schedule.waitsFor curve - 1
  let released := { schedule with pending := schedule.pending.set curve.index waits }
  if waits = 0 then { released with ready := released.ready ++ [curve] } else released

/-- Draws curves until none is ready, `steps` at most. -/
def run (network : Network K) : Nat → Schedule → Schedule
  | 0, schedule => schedule
  | steps + 1, schedule =>
      match schedule.ready with
      | [] => schedule
      | curve :: rest =>
          run network steps ((network.dependents curve).foldl release
            { schedule with drawn := curve :: schedule.drawn, ready := rest })

/-- All curves in the order in which they are drawn, or the curves that wait for ever. -/
def order (network : Network K) : Except (List CurveId) (List CurveId) :=
  let last := run network network.curves.length (start network)
  if last.drawn.length < network.curves.length then
    .error (network.curveIds.filter fun curve => last.waitsFor curve != 0)
  else .ok last.drawn.reverse

end Schedule

end TransitMap
