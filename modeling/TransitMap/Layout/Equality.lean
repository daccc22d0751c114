import TransitMap.Network.Basic

/-!
Linear equalities between the coordinates of stations, and the equalities that say that the
alignments of a network hold. Coordinates are numbered: a station has two successive numbers, one
for x and one for y.
-/

namespace TransitMap

/-- The number of a coordinate of a station. -/
def StationId.coordinate (station : StationId) : Component → Nat
  | .x => 2 * station.index
  | .y => 2 * station.index + 1

def Term.coordinate (term : Term) : Nat := term.station.coordinate term.component

/-- The terms have the sum `constant`. A term is the number of a coordinate with its coefficient. -/
structure Equality (K : Type) where
  terms : List (Nat × K)
  constant : K
  sourceLine : Nat
  deriving DecidableEq, Repr

namespace Equality

variable [Scalar K]

def addTerm (coordinate : Nat) (coefficient : K) : List (Nat × K) → List (Nat × K)
  | [] => [(coordinate, coefficient)]
  | term :: rest =>
      if term.1 = coordinate then (coordinate, term.2 + coefficient) :: rest
      else term :: addTerm coordinate coefficient rest

/-- The terms with those of the same coordinate added up where the first of them stands. -/
def merge (terms : List (Nat × K)) : List (Nat × K) :=
  terms.foldl (fun merged term => addTerm term.1 term.2 merged) []

def ofTerms (terms : List (Nat × K)) (constant : K) (sourceLine : Nat) : Equality K :=
  ⟨(merge terms).filter fun term => !(term.2 == 0), constant, sourceLine⟩

def coefficient (equality : Equality K) (coordinate : Nat) : K :=
  (equality.terms.lookup coordinate).getD 0

def difference (first second : Nat) (constant : K) (sourceLine : Nat) : Equality K :=
  ofTerms [(first, 1), (second, -1)] constant sourceLine

def onDiagonal (diagonal : Diagonal) (first second : StationId) (sourceLine : Nat) : Equality K :=
  let sign : K :=
    match diagonal with
    | .rising => 1
    | .falling => -1
  ofTerms
    [(first.coordinate .x, 1), (second.coordinate .x, -1), (first.coordinate .y, sign),
      (second.coordinate .y, -sign)]
    0 sourceLine

/-- The coordinates of `first` exceed those of `second`; the y coordinates come first. -/
def offset (first second : StationId) (x y : K) (sourceLine : Nat) : List (Equality K) :=
  [difference (first.coordinate .y) (second.coordinate .y) y sourceLine,
    difference (first.coordinate .x) (second.coordinate .x) x sourceLine]

/-- The station `first` lies relative to `second` as the relation says, one line width apart. -/
def ofRelation (width : K) (relation : Relation) (first second : StationId) (sourceLine : Nat) :
    List (Equality K) :=
  let side := Scalar.floorSide width
  match relation with
  | .above => (offset first second 0 (-width) sourceLine).reverse
  | .below => (offset second first 0 (-width) sourceLine).reverse
  | .left => offset first second (-width) 0 sourceLine
  | .right => offset second first (-width) 0 sourceLine
  | .aboveRight => offset first second side (-side) sourceLine
  | .belowLeft => offset second first side (-side) sourceLine
  | .aboveLeft => offset first second (-side) (-side) sourceLine
  | .belowRight => offset second first (-side) (-side) sourceLine
  | .exact => (offset first second 0 0 sourceLine).reverse

/-- One item for each two consecutive stations. -/
def consecutive (item : StationId → StationId → α) : List StationId → List α
  | first :: second :: rest => item first second :: consecutive item (second :: rest)
  | _ => []

def ofRule (width : K) (sourceLine : Nat) : AlignmentRule → List (Equality K)
  | .axis axis stations =>
      let component : Component :=
        match axis with
        | .vertical => .x
        | .horizontal => .y
      consecutive (fun first second =>
        difference (first.coordinate component) (second.coordinate component) 0 sourceLine) stations
  | .diagonal diagonal stations =>
      consecutive (fun first second => onDiagonal diagonal first second sourceLine) stations
  | .sameStation relation pairs =>
      pairs.flatMap fun pair => ofRelation width relation pair.1 pair.2 sourceLine
  | .equal left right =>
      [ofTerms ((left.map fun term => (term.coordinate, 1)) ++
        right.map fun term => (term.coordinate, -1)) 0 sourceLine]

end Equality

def Network.equalities [Scalar K] (network : Network K) (width : K) : List (Equality K) :=
  network.alignments.flatMap fun alignment =>
    Equality.ofRule width alignment.sourceLine alignment.rule

end TransitMap
