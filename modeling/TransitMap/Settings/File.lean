import TransitMap.Data.Value
import TransitMap.Settings

namespace TransitMap.Settings

def greatestSamples : Int := 18446744073709551615

def natural? (greatest : Int) (value : Value) : Option Nat :=
  (value.whole? 0 greatest).map Int.toNat

def override? (value : Value) : Option IdentifierOverride := do
  let [line, station, identifier] ← value.allFields? ["line", "station", "id"] | none
  some ⟨← line.text?, ← station.text?, ← identifier.text?⟩

def withGeometry (settings : Settings Float) (value : Value) : Option (Settings Float) := do
  let [scaleFactor, lineWidth] ← value.fields? ["scale_factor", "line_width"] | none
  let scaleFactor ← Value.orDefault settings.scaleFactor Value.real? scaleFactor
  let lineWidth ← Value.orDefault settings.lineWidth (natural? greatestWidth) lineWidth
  some { settings with scaleFactor, lineWidth }

def withSolver (settings : Settings Float) (value : Value) : Option (Settings Float) := do
  let [weight] ← value.fields? ["alignment_point_weight"] | none
  let alignmentPointWeight ←
    Value.orDefault settings.alignmentPointWeight Value.real? weight
  some { settings with alignmentPointWeight }

def withEndpoint (settings : Settings Float) (value : Value) : Option (Settings Float) := do
  let [lengthFactor] ← value.fields? ["length_factor"] | none
  let lengthFactor ← Value.orDefault settings.lengthFactor Value.real? lengthFactor
  some { settings with lengthFactor }

def withCurves (settings : Settings Float) (value : Value) : Option (Settings Float) := do
  let [samples] ← value.fields? ["offset_samples"] | none
  let offsetSamples ← Value.orDefault settings.offsetSamples (natural? greatestSamples) samples
  some { settings with offsetSamples }

def overrides? (value : Value) : Option (List IdentifierOverride) := do
  let items ← value.list?
  items.mapM override?

def withStationIds (settings : Settings Float) (value : Value) : Option (Settings Float) := do
  let [overrides] ← value.fields? ["overrides"] | none
  let overrides ← Value.orDefault settings.overrides overrides? overrides
  some { settings with overrides }

def withSection (change : Settings Float → Value → Option (Settings Float))
    (settings : Settings Float) : Option Value → Option (Settings Float)
  | none => some settings
  | some value => change settings value

def ofValue? (value : Value) : Option (Settings Float) := do
  let [geometry, solver, endpoint, curves, stationIds] ←
    value.fields? ["geometry", "solver", "endpoint", "curves", "station_ids"] | none
  let settings ← withSection withGeometry default geometry
  let settings ← withSection withSolver settings solver
  let settings ← withSection withEndpoint settings endpoint
  let settings ← withSection withCurves settings curves
  withSection withStationIds settings stationIds

end TransitMap.Settings
