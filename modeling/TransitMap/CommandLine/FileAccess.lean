import TransitMap.Failure

namespace TransitMap

structure FileAccess (m : Type → Type) where
  isPresent : String → m Bool
  readText : String → m (Except FileFault String)
  writeText : String → String → m (Except FileFault Unit)

namespace FilePath

def isAbsolute (path : String) : Bool := path.toList.head? == some '/'

def directory (path : String) : String :=
  let above := (path.toList.reverse.dropWhile (· != '/')).dropWhile (· == '/')
  if above.isEmpty && isAbsolute path then "/" else String.ofList above.reverse

def join (directory path : String) : String :=
  if isAbsolute path || directory.isEmpty then path
  else if directory.toList.getLast? == some '/' then directory ++ path
  else directory ++ "/" ++ path

end FilePath

/-- Files by the names on their paths from the working directory. A name `..` leads to the directory
above, and the root has the name `/`. -/
structure FileTree where
  files : List (List String × String)
  deriving DecidableEq, Repr

namespace FileTree

inductive Place where
  | directory (names : List String)
  | file (names : List String) (content : String)
  deriving DecidableEq, Repr

def isAbove (names : List String) : Bool := names.all (· == "..") || names == ["/"]

def above (names : List String) : List String :=
  if names == ["/"] then names
  else if isAbove names then names ++ [".."]
  else names.dropLast

def isDirectory (tree : FileTree) (names : List String) : Bool :=
  isAbove names || tree.files.any fun entry => names.isPrefixOf entry.1 && names != entry.1

def place? (tree : FileTree) (names : List String) : Option Place :=
  match tree.files.lookup names with
  | some content => some (.file names content)
  | none => if tree.isDirectory names then some (.directory names) else none

def parts (path : String) : List String := path.splitOn "/"

def base (path : String) : List String := if FilePath.isAbsolute path then ["/"] else []

def isIdle (part : String) : Bool := part.isEmpty || part == "."

def greatestName : Nat := 255

def greatestPath : Nat := 4095

def child (tree : FileTree) (names : List String) (name : String) :
    Except FileFault (Option Place) :=
  if greatestName < name.utf8ByteSize then .error .nameTooLong
  else .ok (tree.place? (names ++ [name]))

def follow (tree : FileTree) : Place → List String → Except FileFault Place
  | place, [] => .ok place
  | .file _ _, _ :: _ => .error .notDirectory
  | .directory names, part :: rest =>
      if isIdle part then follow tree (.directory names) rest
      else if part == ".." then follow tree (.directory (above names)) rest
      else do
        match ← tree.child names part with
        | some place => follow tree place rest
        | none => .error .missing

def start (path : String) : Except FileFault Place :=
  if path.toList.contains '\x00' then .error .zeroByte
  else if path.isEmpty then .error .missing
  else if greatestPath < path.utf8ByteSize then .error .nameTooLong
  else .ok (.directory (base path))

def find (tree : FileTree) (path : String) : Except FileFault Place := do
  tree.follow (← start path) (parts path)

def isPresent (tree : FileTree) (path : String) : Bool := (tree.find path).isOk

def read (tree : FileTree) (path : String) : Except FileFault String := do
  match ← tree.find path with
  | .file _ content => .ok content
  | .directory _ => .error .directory

/-- The file that stays empty, whatever is written to it. -/
def nullDevice : List String := ["/", "dev", "null"]

def put (tree : FileTree) (names : List String) (content : String) : FileTree :=
  if names == nullDevice then tree
  else ⟨(tree.files.filter fun entry => entry.1 != names) ++ [(names, content)]⟩

/-- The name that a path ends with, unless it can only be the name of a directory. -/
def fileName? (path : String) : Option String :=
  match (parts path).getLast? with
  | some name => if isIdle name || name == ".." then none else some name
  | none => none

def parentParts (path : String) : List String :=
  ((parts path).reverse.dropWhile String.isEmpty).drop 1 |>.reverse

def write (tree : FileTree) (path content : String) : Except FileFault FileTree := do
  match ← tree.follow (← start path) (parentParts path), fileName? path with
  | .file _ _, _ => .error .notDirectory
  | .directory _, none => .error .directory
  | .directory names, some name =>
      match ← tree.child names name with
      | some (.directory _) => .error .directory
      | some (.file _ _) | none => .ok (tree.put (names ++ [name]) content)

def namesOf (path : String) : List String :=
  (parts path).foldl
    (fun names part =>
      if isIdle part then names else if part == ".." then above names else names ++ [part])
    (base path)

def ofFiles (files : List (String × String)) : FileTree :=
  files.foldl (fun tree file => tree.put (namesOf file.1) file.2) ⟨[(nullDevice, "")]⟩

def access : FileAccess (StateM FileTree) where
  isPresent path := return (← get).isPresent path
  readText path := return (← get).read path
  writeText path content := do
    match (← get).write path content with
    | .ok tree => set tree; return .ok ()
    | .error fault => return .error fault

end FileTree

end TransitMap
