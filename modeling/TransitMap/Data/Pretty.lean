namespace TransitMap.Json

inductive Tree where
  | flag (value : Bool)
  | whole (value : Int)
  | text (value : String)
  | list (items : List Tree)
  | record (entries : List (String × Tree))
  deriving Repr

def hexDigitOf (value : Nat) : Char := (Nat.toDigits 16 value).headD '0'

def escaped (c : Char) : List Char :=
  match c with
  | '"' => ['\\', '"']
  | '\\' => ['\\', '\\']
  | '\x08' => ['\\', 'b']
  | '\t' => ['\\', 't']
  | '\n' => ['\\', 'n']
  | '\x0c' => ['\\', 'f']
  | '\r' => ['\\', 'r']
  | other =>
      if other.toNat < 0x20 then
        ['\\', 'u', '0', '0', hexDigitOf (other.toNat / 16), hexDigitOf (other.toNat % 16)]
      else [other]

def quoted (text : String) : String :=
  "\"" ++ String.ofList (text.toList.flatMap escaped) ++ "\""

def newline (depth : Nat) : String := "\n" ++ String.ofList (List.replicate (2 * depth) ' ')

def bracketed (opening closing : String) (depth : Nat) (parts : List String) : String :=
  if parts.isEmpty then opening ++ closing
  else
    let inner := newline (depth + 1)
    opening ++ inner ++ String.intercalate ("," ++ inner) parts ++ newline depth ++ closing

mutual

def Tree.pretty (depth : Nat) : Tree → String
  | .flag value => if value then "true" else "false"
  | .whole value => toString value
  | .text value => quoted value
  | .list items => bracketed "[" "]" depth (prettyItems (depth + 1) items)
  | .record entries => bracketed "\x7b" "\x7d" depth (prettyEntries (depth + 1) entries)

def prettyItems (depth : Nat) : List Tree → List String
  | [] => []
  | item :: rest => item.pretty depth :: prettyItems depth rest

def prettyEntries (depth : Nat) : List (String × Tree) → List String
  | [] => []
  | (name, value) :: rest =>
      (quoted name ++ ": " ++ value.pretty depth) :: prettyEntries depth rest

end

def Tree.write (tree : Tree) : String := tree.pretty 0

end TransitMap.Json
