import TransitMap.Data.Toml.Scalar

namespace TransitMap.Toml

def isBlank (c : Char) : Bool := c == ' ' || c == '\t'

def skipBlank (text : List Char) : List Char := text.dropWhile isBlank

def isPlain (c : Char) : Bool := c == '\t' || (0x20 ≤ c.toNat && c.toNat != 0x7F)

def skipTrivia (inComment : Bool) : List Char → List Char
  | [] => []
  | '\r' :: '\n' :: rest => skipTrivia false rest
  | '\n' :: rest => skipTrivia false rest
  | c :: rest =>
      if inComment then if isPlain c then skipTrivia true rest else c :: rest
      else if isBlank c then skipTrivia false rest
      else if c == '#' then skipTrivia true rest
      else c :: rest

/-- What follows the end of a line, which may hold a comment. -/
def lineEnd? (text : List Char) : Option (List Char) :=
  let rest :=
    match skipBlank text with
    | '#' :: comment => comment.dropWhile isPlain
    | other => other
  match rest with
  | [] => some []
  | '\n' :: rest => some rest
  | '\r' :: '\n' :: rest => some rest
  | _ => none

def charOf? (digits : List Char) : Option Char :=
  let code := ofDigits 16 digits
  if digits.all isHexDigit && (code < 0xD800 || (0xDFFF < code && code < 0x110000)) then
    some (Char.ofNat code)
  else none

def escape? : Char → Option Char
  | 'b' => some '\x08'
  | 't' => some '\t'
  | 'n' => some '\n'
  | 'f' => some '\x0c'
  | 'r' => some '\r'
  | 'e' => some '\x1b'
  | '"' => some '"'
  | '\\' => some '\\'
  | _ => none

def push (c : Char) (read : List Char × List Char) : List Char × List Char := (c :: read.1, read.2)

def quoted? : List Char → Option (List Char × List Char)
  | [] => none
  | '"' :: rest => some ([], rest)
  | '\\' :: 'x' :: a :: b :: rest => do
      let c ← charOf? [a, b]
      push c <$> quoted? rest
  | '\\' :: 'u' :: a :: b :: c :: d :: rest => do
      let c ← charOf? [a, b, c, d]
      push c <$> quoted? rest
  | '\\' :: 'U' :: a :: b :: c :: d :: e :: f :: g :: h :: rest => do
      let c ← charOf? [a, b, c, d, e, f, g, h]
      push c <$> quoted? rest
  | '\\' :: c :: rest => do
      let c ← escape? c
      push c <$> quoted? rest
  | c :: rest => if isPlain c && c != '\\' then push c <$> quoted? rest else none

def literal? : List Char → Option (List Char × List Char)
  | [] => none
  | '\'' :: rest => some ([], rest)
  | c :: rest => if isPlain c then push c <$> literal? rest else none

def endsLine (text : List Char) : Bool :=
  match skipBlank text with
  | '\n' :: _ => true
  | '\r' :: '\n' :: _ => true
  | _ => false

def quotedLines? (joining : Bool) : List Char → Option (List Char × List Char)
  | [] => none
  | '"' :: '"' :: '"' :: '"' :: '"' :: rest => some (['"', '"'], rest)
  | '"' :: '"' :: '"' :: '"' :: rest => some (['"'], rest)
  | '"' :: '"' :: '"' :: rest => some ([], rest)
  | '\\' :: 'x' :: a :: b :: rest => do
      let c ← charOf? [a, b]
      push c <$> quotedLines? false rest
  | '\\' :: 'u' :: a :: b :: c :: d :: rest => do
      let c ← charOf? [a, b, c, d]
      push c <$> quotedLines? false rest
  | '\\' :: 'U' :: a :: b :: c :: d :: e :: f :: g :: h :: rest => do
      let c ← charOf? [a, b, c, d, e, f, g, h]
      push c <$> quotedLines? false rest
  | '\\' :: c :: rest =>
      if endsLine (c :: rest) then quotedLines? true rest
      else do
        let c ← escape? c
        push c <$> quotedLines? false rest
  | '\r' :: '\n' :: rest =>
      if joining then quotedLines? true rest
      else (push '\r' ∘ push '\n') <$> quotedLines? false rest
  | c :: rest =>
      if joining && (isBlank c || c == '\n') then quotedLines? true rest
      else if (isPlain c || c == '\n') && c != '\\' then push c <$> quotedLines? false rest
      else none

def literalLines? : List Char → Option (List Char × List Char)
  | [] => none
  | '\'' :: '\'' :: '\'' :: '\'' :: '\'' :: rest => some (['\'', '\''], rest)
  | '\'' :: '\'' :: '\'' :: '\'' :: rest => some (['\''], rest)
  | '\'' :: '\'' :: '\'' :: rest => some ([], rest)
  | '\r' :: '\n' :: rest => (push '\r' ∘ push '\n') <$> literalLines? rest
  | c :: rest => if isPlain c || c == '\n' then push c <$> literalLines? rest else none

def skipLineEnd : List Char → List Char
  | '\n' :: rest => rest
  | '\r' :: '\n' :: rest => rest
  | other => other

def text? : List Char → Option (List Char × List Char)
  | '"' :: '"' :: '"' :: rest => quotedLines? false (skipLineEnd rest)
  | '\'' :: '\'' :: '\'' :: rest => literalLines? (skipLineEnd rest)
  | '"' :: rest => quoted? rest
  | '\'' :: rest => literal? rest
  | _ => none

def isBareKeyChar (c : Char) : Bool := c.isAlphanum || c == '-' || c == '_'

def key? (text : List Char) : Option (String × List Char) :=
  let read :=
    match text with
    | '"' :: rest => quoted? rest
    | '\'' :: rest => literal? rest
    | other =>
        match other.takeWhile isBareKeyChar with
        | [] => none
        | name => some (name, other.dropWhile isBareKeyChar)
  read.map fun (name, rest) => (String.ofList name, rest)

def keys? : Nat → List Char → Option (List String × List Char)
  | 0, _ => none
  | fuel + 1, text => do
      let (key, rest) ← key? (skipBlank text)
      match skipBlank rest with
      | '.' :: rest => do
          let (keys, rest) ← keys? fuel rest
          some (key :: keys, rest)
      | rest => some ([key], rest)

end TransitMap.Toml
