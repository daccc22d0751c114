import TransitMap.Data.Value
import TransitMap.StationIds

namespace TransitMap.StationIds

def entry? (value : Value) : Option ((String × String) × String) := do
  let [name, line, identifier] ← value.allFields? ["name", "metroLine", "id"] | none
  some ((← line.text?, ← name.text?), ← identifier.text?)

/-- Enters the entries of a list one after another; a later one for the same station wins. -/
def ofEntries (entries : List ((String × String) × String)) : StationIds :=
  entries.foldl (fun ids entry => ids.insert entry.1.1 entry.1.2 entry.2) empty

def ofValue? (value : Value) : Option StationIds := do
  let items ← value.list?
  ofEntries <$> items.mapM entry?

end TransitMap.StationIds
