import TransitMap.Layout.Placement

/-!
Whole numbers near given values for which equalities still hold. The coordinates that are no pivots
are rounded, and the pivots follow from them, the last row first: a row has no pivot of a row before
it.
-/

namespace TransitMap.Snapping

variable [Scalar K]

/-- Parts smaller than this are noise. -/
def precision : K := Scalar.ofNat 1000000

def denoise (value : K) : K := Scalar.round (value * precision) / precision

def snap (value : K) : K := Scalar.round (denoise value)

/-- What the coordinates besides the pivot add to its row. The sum starts at the zero that leaves
the sign of another zero as it is. -/
def others (values : List K) (pivot : PivotRow K) : K :=
  ((pivot.row.coefficients.zip values).zipIdx.filter fun entry =>
    entry.2 != pivot.coordinate).foldl (fun sum entry => sum + entry.1.1 * entry.1.2) (-0)

def pivotValue (values : List K) (pivot : PivotRow K) : K :=
  pivot.row.constant - others values pivot

def fix (values : List K) (pivot : PivotRow K) : List K :=
  values.set pivot.coordinate (snap (pivotValue values pivot))

/-- The coordinates that are no pivots, rounded; the pivots are zero for now. -/
def free (pivots : List (PivotRow K)) (values : List K) : List K :=
  values.zipIdx.map fun entry =>
    if pivots.any fun pivot => pivot.coordinate == entry.2 then 0 else snap entry.1

/-- Whole numbers near `values` for which the equalities hold as far as they can. -/
def integral (values : List K) (equalities : List (Equality K)) :
    Except (PlacementFault K) (List K) := do
  let pivots ← Placement.reduced values.length equalities
  .ok (pivots.foldr (fun pivot values => fix values pivot) (free pivots values))

end TransitMap.Snapping
