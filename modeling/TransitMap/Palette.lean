import TransitMap.Data.Entries
import TransitMap.Data.Value

namespace TransitMap

structure Palette where
  colors : List (String × String)
  deriving DecidableEq, Repr

namespace Palette

def empty : Palette := ⟨[]⟩

def insert (palette : Palette) (line color : String) : Palette :=
  ⟨Entries.assign line color palette.colors⟩

def color? (palette : Palette) (line : String) : Option String := palette.colors.lookup line

theorem color?_insert_self (palette : Palette) (line color : String) :
    (palette.insert line color).color? line = some color := by
  simp [color?, insert, Entries.lookup_assign_self]

def entry? (value : Value) : Option (String × String) := do
  let [name, color] ← value.allFields? ["name", "color"] | none
  some (← name.text?, ← color.text?)

/-- Enters the entries of a list one after another; the last one for a line counts. -/
def ofEntries (entries : List (String × String)) : Palette :=
  entries.foldl (fun palette entry => palette.insert entry.1 entry.2) empty

def ofValue? (value : Value) : Option Palette := do
  let items ← value.list?
  ofEntries <$> items.mapM entry?

end Palette

end TransitMap
