import TransitMap.Source.Token
import TransitMap.Text.Split

namespace TransitMap

inductive ArgumentKind where
  | word
  | quoted
  deriving DecidableEq, Repr

structure Argument where
  kind : ArgumentKind
  text : List Char
  span : Span
  deriving DecidableEq, Repr

namespace Argument

def string (argument : Argument) : String := String.ofList argument.text

def located (argument : Argument) : Located String := ⟨argument.string, argument.span⟩

def textStart (argument : Argument) : Nat :=
  match argument.kind with
  | .word => argument.span.start
  | .quoted => argument.span.start + 1

end Argument

def trimmedAt (start : Nat) (text : List Char) : Located (List Char) :=
  let leading := Text.byteLength (text.takeWhile Text.isBlank)
  let item := Text.trim text
  ⟨item, .between (start + leading) (start + leading + Text.byteLength item)⟩

def itemsAt (separator : Char) (start : Nat) : List (List Char) → List (Located (List Char))
  | [] => []
  | piece :: rest =>
      trimmedAt start piece ::
        itemsAt separator (start + Text.byteLength piece + separator.utf8Size) rest

def Argument.items (argument : Argument) (separator : Char) : List (Located (List Char)) :=
  itemsAt separator argument.textStart (Text.pieces separator argument.text)

/-- A source line that is not empty. Its first argument is its keyword, whether quoted or not. -/
structure Statement where
  line : Nat
  head : Argument
  operands : List Argument
  deriving DecidableEq, Repr

structure Origin where
  span : Span
  line : Nat
  deriving DecidableEq, Repr

def Origin.diagnostic (origin : Origin) (complaint : Complaint) (span : Span) : Diagnostic :=
  complaint.diagnostic span (some origin.line)

namespace Statement

def keyword (statement : Statement) : String := statement.head.string

def span (statement : Statement) : Span :=
  statement.head.span.union (statement.operands.getLastD statement.head).span

def origin (statement : Statement) : Origin := ⟨statement.span, statement.line⟩

def diagnostic (statement : Statement) (complaint : Complaint) (span : Span) : Diagnostic :=
  statement.origin.diagnostic complaint span

def wrongCount (statement : Statement) (expected : Nat) (usage : Usage) : Diagnostic :=
  let complaint : Complaint :=
    if statement.operands.length > expected then .trailingArguments statement.keyword usage
    else .missingArguments statement.keyword usage
  statement.diagnostic complaint statement.span

def word (statement : Statement) (argument : Argument) (usage : Usage) :
    Except Diagnostic Argument :=
  match argument.kind with
  | .word => .ok argument
  | .quoted => .error (statement.diagnostic (.notAWord argument.string usage) argument.span)

def quoted (statement : Statement) (argument : Argument) (usage : Usage) :
    Except Diagnostic Argument :=
  match argument.kind with
  | .quoted => .ok argument
  | .word => .error (statement.diagnostic (.notQuoted argument.string usage) argument.span)

def names (statement : Statement) (argument : Argument) (least : Nat) (usage : Usage) :
    Except Diagnostic (List (Located (List Char))) := do
  let argument ← statement.quoted argument usage
  let items := argument.items ','
  match items.find? fun item => item.value.isEmpty with
  | some item => .error (statement.diagnostic .emptyStationName item.span)
  | none =>
      if items.length < least then
        .error (statement.diagnostic (.tooFewStations least items.length usage) argument.span)
      else .ok items

def pair (statement : Statement) (argument : Argument) (usage : Usage) :
    Except Diagnostic (Located (List Char) × Located (List Char)) := do
  match ← statement.names argument 2 usage with
  | [first, second] => .ok (first, second)
  | items => .error (statement.diagnostic (.notAPair items.length usage) argument.span)

def ofArguments (line : Nat) : List Argument → List Statement
  | [] => []
  | head :: operands => [⟨line, head, operands⟩]

/-- The statements of tokens that continue the line `line`, of which `arguments` are read. -/
def group (line : Nat) (arguments : List Argument) : List (Located Token) → List Statement
  | [] => ofArguments line arguments
  | ⟨.word text, span⟩ :: rest => group line (arguments ++ [⟨.word, text, span⟩]) rest
  | ⟨.quoted text, span⟩ :: rest => group line (arguments ++ [⟨.quoted, text, span⟩]) rest
  | ⟨.comment _, _⟩ :: rest | ⟨.blank, _⟩ :: rest => group line arguments rest
  | ⟨.newline, _⟩ :: rest => ofArguments line arguments ++ group (line + 1) [] rest

def ofTokens (tokens : List (Located Token)) : List Statement := group 1 [] tokens

end Statement

end TransitMap
