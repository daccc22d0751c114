import TransitMap.Network.Basic

/-!
The order in which lines are drawn: each line one layer above the highest of the lines it has to
cover. Lines are searched depth first along the overlaps, and a line that comes too early in the
order found that way is part of a cycle.
-/

namespace TransitMap.Stacking

def above (overlaps : List Overlap) (line : LineId) : List LineId :=
  (overlaps.filter fun overlap => overlap.below == line).map Overlap.above

def below (overlaps : List Overlap) (line : LineId) : List LineId :=
  (overlaps.filter fun overlap => overlap.above == line).map Overlap.below

/-- A depth-first search. -/
structure Search where
  seen : List LineId
  finished : List LineId
  deriving DecidableEq, Repr

namespace Search

def empty : Search := ⟨[], []⟩

/-- Visits a line and then all lines above it that have not been seen. A line above itself is
returned. A search of depth zero visits nothing; the number of lines is depth enough. -/
def visit (overlaps : List Overlap) : Nat → Search → LineId → Except LineId Search
  | 0, search, _ => .ok search
  | depth + 1, search, line =>
      if search.seen.contains line then .ok search
      else if (above overlaps line).contains line then .error line
      else do
        let marked := { search with seen := line :: search.seen }
        let search ← (above overlaps line).foldlM (visit overlaps depth) marked
        .ok { search with finished := line :: search.finished }

end Search

/-- A line under one of the lines of a list that comes neither before that line nor is marked. -/
def misplaced? (overlaps : List Overlap) (marked : List LineId) : List LineId → Option LineId
  | [] => none
  | line :: rest =>
      match (below overlaps line).find? fun lower => !(line :: marked).contains lower with
      | some lower => some lower
      | none => misplaced? overlaps (line :: marked) rest

/-- The lines in an order in which each comes behind all lines under it, or a line of a cycle. -/
def order (overlaps : List Overlap) (lines : List LineId) : Except LineId (List LineId) := do
  let search ← lines.foldlM (Search.visit overlaps lines.length) .empty
  match misplaced? overlaps [] search.finished with
  | some line => .error line
  | none => .ok search.finished

/-- The layer of a line: one above the highest line under it. The lowest layer is one. -/
def layer (overlaps : List Overlap) (layers : List Nat) (line : LineId) : Nat :=
  (below overlaps line).foldl (fun highest lower => max highest (layers.getD lower.index 0 + 1)) 1

def stackUp (overlaps : List Overlap) (order : List LineId) (layers : List Nat) : List Nat :=
  order.foldl (fun layers line => layers.set line.index (layer overlaps layers line)) layers

def layers (overlaps : List Overlap) (lines : List LineId) : Except LineId (List Nat) := do
  let order ← order overlaps lines
  .ok (stackUp overlaps order (List.replicate lines.length 1))

end TransitMap.Stacking
