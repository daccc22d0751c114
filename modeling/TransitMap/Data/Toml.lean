import TransitMap.Data.Toml.Table
import TransitMap.Data.Toml.Text

namespace TransitMap.Toml

/-- The greatest number of lists and inline tables within each other, and of parts of a key. -/
def greatestDepth : Nat := 80

def isScalarChar (c : Char) : Bool :=
  c.isAlphanum || c == '+' || c == '-' || c == '_' || c == '.' || c == ':'

/-- The text of a scalar and what follows. A blank may stand between a date and a time. -/
def scalarText (text : List Char) : List Char × List Char :=
  let first := text.takeWhile isScalarChar
  match isDate first, text.dropWhile isScalarChar with
  | true, ' ' :: c :: rest =>
      if c.isDigit then
        (first ++ ' ' :: (c :: rest).takeWhile isScalarChar, (c :: rest).dropWhile isScalarChar)
      else (first, ' ' :: c :: rest)
  | _, rest => (first, rest)

mutual

/-- The value a text starts with, with at most `depth` lists and inline tables within each other.
The fuel bounds the number of values. -/
def value? : Nat → Nat → List Char → Option (Value × List Char)
  | 0, _, _ => none
  | fuel + 1, depth, text =>
      match text, depth with
      | '"' :: _, _ | '\'' :: _, _ =>
          (text? text).map fun (read, rest) => (.text (String.ofList read), rest)
      | '[' :: rest, depth + 1 =>
          (items? fuel depth rest).map fun (items, rest) => (.list items, rest)
      | '{' :: rest, depth + 1 => do
          let (table, rest) ← entries? fuel depth [] rest
          some (.record (fieldsOf table), rest)
      | '[' :: _, 0 | '{' :: _, 0 => none
      | other, _ => do
          let (scalar, rest) := scalarText other
          some (← scalar? scalar, rest)

def items? : Nat → Nat → List Char → Option (List Value × List Char)
  | 0, _, _ => none
  | fuel + 1, depth, text =>
      match skipTrivia false text with
      | ']' :: rest => some ([], rest)
      | start => do
          let (value, rest) ← value? fuel depth start
          match skipTrivia false rest with
          | ']' :: rest => some ([value], rest)
          | ',' :: rest => do
              let (values, rest) ← items? fuel depth rest
              some (value :: values, rest)
          | _ => none

/-- The entries of an inline table, added to those before them; a comma may stand behind the last
one. Lines may end anywhere but within a key. -/
def entries? : Nat → Nat → Table → List Char → Option (Table × List Char)
  | 0, _, _, _ => none
  | fuel + 1, depth, table, text =>
      match skipTrivia false text with
      | '}' :: rest => some (table, rest)
      | start => do
          let (keys, rest) ← keys? greatestDepth start
          let '=' :: rest := skipTrivia false rest | none
          let (value, rest) ← value? fuel depth (skipTrivia false rest)
          let table ← Table.addDotted value keys table
          match skipTrivia false rest with
          | '}' :: rest => some (table, rest)
          | ',' :: rest => entries? fuel depth table rest
          | _ => none

end

structure Document where
  root : Table
  current : List String

def Document.openHeader (document : Document) (keys : List String)
    (opening : String → Table → Option Table) : Option Document := do
  let last ← keys.getLast?
  let root ← Table.enter (opening last) keys.dropLast document.root
  some ⟨root, keys⟩

def statement? (document : Document) (text : List Char) : Option (Document × List Char) :=
  match text with
  | '[' :: '[' :: rest => do
      let (keys, rest) ← keys? greatestDepth rest
      let ']' :: ']' :: rest := rest | none
      some (← document.openHeader keys Table.openItem, ← lineEnd? rest)
  | '[' :: rest => do
      let (keys, rest) ← keys? greatestDepth rest
      let ']' :: rest := rest | none
      some (← document.openHeader keys Table.openTable, ← lineEnd? rest)
  | _ => do
      let (keys, rest) ← keys? greatestDepth text
      let '=' :: rest := rest | none
      let (value, rest) ← value? (2 * rest.length + 2) greatestDepth (skipBlank rest)
      let root ← Table.enter (Table.addDotted value keys) document.current document.root
      some (⟨root, document.current⟩, ← lineEnd? rest)

def statements? : Nat → Document → List Char → Option Document
  | 0, _, _ => none
  | fuel + 1, document, text =>
      match skipTrivia false text with
      | [] => some document
      | start => do
          let (document, rest) ← statement? document start
          statements? fuel document rest

/-- The value of a whole text; a byte order mark may stand in front of it. -/
def read? (text : String) : Option Value := do
  let chars := match text.toList with
    | '\uFEFF' :: rest => rest
    | other => other
  let document ← statements? (chars.length + 1) ⟨[], []⟩ chars
  some (.record (fieldsOf document.root))

end TransitMap.Toml
