import TransitMap.CommandLine.Configuration
import TransitMap.Data.Json
import TransitMap.Drawing.TemplateFile
import TransitMap.Rendering
import TransitMap.StationIds.File

namespace TransitMap.Run

variable [Monad m]

abbrev Step (m : Type → Type) := ExceptT Failure m

def ofFile (result : m (Except FileFault α)) : Step m α :=
  ExceptT.mk do return (← result).mapError .file

def readConfiguration (access : FileAccess m) (path : String) : Step m Configuration := do
  if !(← access.isPresent path) then throw (.configuration (.missing path))
  let text ← ofFile (access.readText path)
  match Configuration.read? (FilePath.directory path) text with
  | some configuration => return configuration
  | none => throw (.configuration (.unreadable path))

def findConfiguration (access : FileAccess m) : List String → Step m Configuration
  | [] => return Configuration.default
  | path :: others => do
      if ← access.isPresent path then readConfiguration access path
      else findConfiguration access others

def configuration (access : FileAccess m) (configurations : Option String) (options : Options) :
    Step m Configuration :=
  match options.config with
  | some path => readConfiguration access path
  | none =>
      findConfiguration access
        (Configuration.localPath :: (configurations.map Configuration.userPath).toList)

def readLookup (access : FileAccess m) (decode : Value → Option α) (path : String) :
    Step m α := do
  let text ← ofFile (access.readText path)
  match Json.read? text >>= decode with
  | some found => return found
  | none => throw .lookup

/-- Makes a map. `configurations` is the directory of a user's configurations. -/
def main (access : FileAccess m) (configurations : Option String) (options : Options) :
    Step m Unit := do
  let configuration ← configuration access configurations options
  let resolved ← ExceptT.mk (pure ((configuration.resolve options).mapError .configuration))
  let templates ← readLookup access Templates.ofValue? resolved.templates
  let stationIds ← readLookup access StationIds.ofValue? resolved.stationIds
  let palette ← readLookup access Palette.ofValue? resolved.colors
  let source ← ofFile (access.readText options.networkPath)
  let document ← ExceptT.mk
    (pure (Rendering.run resolved.settings ⟨stationIds, templates, palette⟩ source))
  ofFile (access.writeText options.outputPath document.write)

end TransitMap.Run
