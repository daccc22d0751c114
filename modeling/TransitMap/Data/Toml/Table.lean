import TransitMap.Data.Entries
import TransitMap.Data.Value

namespace TransitMap.Toml

/-- How a table came about. -/
inductive Origin where
  | path
  | dotted
  | header
  deriving DecidableEq, Repr

inductive Node where
  | value (value : Value)
  | table (origin : Origin) (entries : List (String × Node))
  /-- Tables under one header, the last of them first. -/
  | tables (items : List (List (String × Node)))
  deriving Repr, Inhabited

abbrev Table := List (String × Node)

namespace Table

/-- Changes the table that a header path leads to; a list of tables leads to its last one. -/
def enter (change : Table → Option Table) : List String → Table → Option Table
  | [], table => change table
  | key :: path, table =>
      match table.lookup key with
      | none => do
          let inner ← enter change path []
          some (Entries.assign key (.table .path inner) table)
      | some (.table origin entries) => do
          let inner ← enter change path entries
          some (Entries.assign key (.table origin inner) table)
      | some (.tables (last :: earlier)) => do
          let inner ← enter change path last
          some (Entries.assign key (.tables (inner :: earlier)) table)
      | some (.tables []) | some (.value _) => none

def add (key : String) (value : Value) (table : Table) : Option Table :=
  if (table.lookup key).isSome then none else some (table ++ [(key, .value value)])

/-- Adds an entry under a dotted key. The tables on its way may have come about by the paths of
headers, but from then on they count as made by dotted keys. The last one of a list of tables may be
on the way, but the entry does not go into it. -/
def addDotted (value : Value) : List String → Table → Option Table
  | [], _ => none
  | [key], table => table.add key value
  | first :: path, table =>
      match table.lookup first with
      | none => do
          let inner ← addDotted value path []
          some (Entries.assign first (.table .dotted inner) table)
      | some (.table .header _) => none
      | some (.table _ entries) => do
          let inner ← addDotted value path entries
          some (Entries.assign first (.table .dotted inner) table)
      | some (.tables (last :: earlier)) =>
          if path.length = 1 then none
          else do
            let inner ← addDotted value path last
            some (Entries.assign first (.tables (inner :: earlier)) table)
      | some (.tables []) | some (.value _) => none

/-- Opens the table of a header, which may so far only have been part of the paths of others. -/
def openTable (key : String) (table : Table) : Option Table :=
  match table.lookup key with
  | none => some (Entries.assign key (.table .header []) table)
  | some (.table .path entries) => some (Entries.assign key (.table .header entries) table)
  | _ => none

def openItem (key : String) (table : Table) : Option Table :=
  match table.lookup key with
  | none => some (Entries.assign key (.tables [[]]) table)
  | some (.tables items) => some (Entries.assign key (.tables ([] :: items)) table)
  | _ => none

end Table

mutual

def Node.toValue : Node → Value
  | .value value => value
  | .table _ entries => .record (fieldsOf entries)
  | .tables items => .list (recordsOf items).reverse

def fieldsOf : List (String × Node) → List (String × Value)
  | [] => []
  | (key, node) :: rest => (key, node.toValue) :: fieldsOf rest

def recordsOf : List (List (String × Node)) → List Value
  | [] => []
  | entries :: rest => .record (fieldsOf entries) :: recordsOf rest

end

end TransitMap.Toml
