import TransitMap.Data.Entries

namespace TransitMap

structure StationIds where
  table : List ((String × String) × String)
  overrides : List ((String × String) × String)
  deriving DecidableEq, Repr

namespace StationIds

def empty : StationIds := ⟨[], []⟩

def insert (ids : StationIds) (line station identifier : String) : StationIds :=
  { ids with table := Entries.assign (line, station) identifier ids.table }

def override (ids : StationIds) (line station identifier : String) : StationIds :=
  { ids with overrides := Entries.assign (line, station) identifier ids.overrides }

def size (ids : StationIds) : Nat := ids.table.length

def isEmpty (ids : StationIds) : Bool := ids.table.isEmpty && ids.overrides.isEmpty

def find? (ids : StationIds) (line station : String) : Option String :=
  (ids.overrides.lookup (line, station)).orElse fun _ => ids.table.lookup (line, station)

theorem find?_override (ids : StationIds) (line station identifier : String) :
    (ids.override line station identifier).find? line station = some identifier := by
  simp [find?, override, Entries.lookup_assign_self]

end StationIds

end TransitMap
