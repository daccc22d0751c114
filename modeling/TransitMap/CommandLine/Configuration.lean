import TransitMap.CommandLine.FileAccess
import TransitMap.CommandLine.Options
import TransitMap.Data.Toml
import TransitMap.Settings.File

namespace TransitMap

structure LookupPaths where
  templates : Option String
  colors : Option String
  stationIds : Option String
  deriving DecidableEq, Repr

namespace LookupPaths

def empty : LookupPaths := ⟨none, none, none⟩

def path? : Option Value → Option (Option String)
  | none => some none
  | some value => value.text?.map some

/-- The least of the whole numbers that may stand among the paths, those of 128 bits. -/
def leastNumber : Int := -170141183460469231731687303715884105728

def greatestNumber : Int := 340282366920938463463374607431768211455

/-- The paths in the values of a table, which may hold other values besides, or in a list that gives
all of them first. -/
def ofValue? : Value → Option LookupPaths
  | .record fields =>
      if !(Value.record fields).isReadable leastNumber greatestNumber then none
      else do
        let [templates, colors, stationIds] ←
          (Value.record fields).fields? ["templates", "colors", "station_ids"] | none
        some ⟨← path? templates, ← path? colors, ← path? stationIds⟩
  | .list (templates :: colors :: stationIds :: _) =>
      return ⟨← path? (some templates), ← path? (some colors), ← path? (some stationIds)⟩
  | _ => none

def inside (directory : String) (paths : LookupPaths) : LookupPaths :=
  ⟨paths.templates.map (FilePath.join directory), paths.colors.map (FilePath.join directory),
    paths.stationIds.map (FilePath.join directory)⟩

end LookupPaths

structure Configuration where
  settings : Settings Float
  lookups : LookupPaths
  deriving Repr

namespace Configuration

def default : Configuration := ⟨Settings.default, .empty⟩

def leastNumber : Int := -9223372036854775808

def greatestNumber : Int := 18446744073709551615

/-- Whether all can be read of a field, be it a setting or not. The lookup paths are read apart. -/
def isReadable (field : String × Value) : Bool :=
  field.1 == "inputs" || field.2.isReadable leastNumber greatestNumber

def read? (directory text : String) : Option Configuration := do
  let .record fields ← Toml.read? text | none
  let value ← if fields.all isReadable then some (Value.record fields) else none
  let settings ← Settings.ofValue? value
  let [inputs] ← value.fields? ["inputs"] | none
  let lookups ← Value.orDefault .empty LookupPaths.ofValue? inputs
  some ⟨settings, lookups.inside directory⟩

def localPath : String := "metromap/config.toml"

def userPath (configurations : String) : String :=
  FilePath.join configurations "metromap/config.toml"

structure Resolved where
  settings : Settings Float
  templates : String
  colors : String
  stationIds : String

def adjusted (settings : Settings Float) (options : Options) : Settings Float :=
  { settings with
    scaleFactor := options.scaleFactor.getD settings.scaleFactor
    lineWidth := options.lineWidth.getD settings.lineWidth }

def pick (option file : Option String) (lookup : Lookup) : Except ConfigurationFault String :=
  match option.or file with
  | some path => .ok path
  | none => .error (.noLookup lookup)

def resolve (configuration : Configuration) (options : Options) :
    Except ConfigurationFault Resolved := do
  let settings := adjusted configuration.settings options
  match settings.fault? with
  | some fault => .error (.outOfRange fault)
  | none => do
      let templates ← pick options.templates configuration.lookups.templates .templates
      let colors ← pick options.colors configuration.lookups.colors .colors
      let stationIds ← pick options.stationIds configuration.lookups.stationIds .stationIds
      .ok ⟨settings, templates, colors, stationIds⟩

end Configuration

end TransitMap
