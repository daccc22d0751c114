import TransitMap.Source.Span

namespace TransitMap

inductive ErrorCode where
  | unterminatedQuote
  | unexpectedCharacter
  | unknownStatement
  | wrongArguments
  | invalidCoordinate
  | invalidShape
  | invalidEndpoint
  | invalidRelation
  | malformedTerm
  | malformedReference
  | noActiveLine
  | unknownStation
  | unknownLine
  | unknownCurve
  | duplicateLine
  | duplicateStation
  | missingStationId
  | curveWithoutEdge
  | duplicateCurve
  | orphanStation
  | shapeMismatch
  | invalidTarget
  deriving DecidableEq, Repr

namespace ErrorCode

def all : List ErrorCode :=
  [unterminatedQuote, unexpectedCharacter, unknownStatement, wrongArguments, invalidCoordinate,
    invalidShape, invalidEndpoint, invalidRelation, malformedTerm, malformedReference, noActiveLine,
    unknownStation, unknownLine, unknownCurve, duplicateLine, duplicateStation, missingStationId,
    curveWithoutEdge, duplicateCurve, orphanStation, shapeMismatch, invalidTarget]

/-- The code by its number: `E0` for characters, `E1` for statements, `E2` for references and `E3`
for the network as a whole. -/
def text : ErrorCode → String
  | unterminatedQuote => "E001"
  | unexpectedCharacter => "E002"
  | unknownStatement => "E100"
  | wrongArguments => "E101"
  | invalidCoordinate => "E102"
  | invalidShape => "E103"
  | invalidEndpoint => "E104"
  | invalidRelation => "E105"
  | malformedTerm => "E106"
  | malformedReference => "E107"
  | noActiveLine => "E108"
  | unknownStation => "E200"
  | unknownLine => "E201"
  | unknownCurve => "E202"
  | duplicateLine => "E203"
  | duplicateStation => "E204"
  | missingStationId => "E205"
  | curveWithoutEdge => "E206"
  | duplicateCurve => "E207"
  | orphanStation => "E300"
  | shapeMismatch => "E301"
  | invalidTarget => "E302"

def ofText? (text : String) : Option ErrorCode := all.find? fun code => code.text == text

def description : ErrorCode → String
  | unterminatedQuote => "unterminated quoted string"
  | unexpectedCharacter => "unexpected character"
  | unknownStatement => "unrecognized statement"
  | wrongArguments => "wrong number of arguments"
  | invalidCoordinate => "invalid integer coordinate"
  | invalidShape => "invalid curve shape"
  | invalidEndpoint => "invalid endpoint type"
  | invalidRelation => "invalid same-station direction"
  | malformedTerm => "malformed equal term"
  | malformedReference => "malformed station reference"
  | noActiveLine => "statement requires an active line"
  | unknownStation => "unknown station"
  | unknownLine => "unknown line"
  | unknownCurve => "unknown curve"
  | duplicateLine => "duplicate line"
  | duplicateStation => "duplicate station"
  | missingStationId => "missing station id"
  | curveWithoutEdge => "curve without edge"
  | duplicateCurve => "duplicate curve"
  | orphanStation => "orphan station"
  | shapeMismatch => "parallel shape mismatch"
  | invalidTarget => "invalid curve target"

theorem mem_all (code : ErrorCode) : code ∈ all := by
  cases code <;> decide

end ErrorCode

/-- A remark on a place in the source. A primary label marks the offending text, the others related
places. -/
structure Label where
  span : Span
  message : String
  isPrimary : Bool
  deriving DecidableEq, Repr

structure Diagnostic where
  code : ErrorCode
  /-- The source line of the statement, counted from one; the characters of a line have none. -/
  line : Option Nat
  message : String
  labels : List Label
  help : Option String
  deriving DecidableEq, Repr

namespace Diagnostic

def about (code : ErrorCode) (span : Span) (message : String) : Diagnostic :=
  ⟨code, none, message, [⟨span, code.description, true⟩], none⟩

def onLine (diagnostic : Diagnostic) (line : Nat) : Diagnostic :=
  { diagnostic with line := some line }

def withRelated (diagnostic : Diagnostic) (span : Span) (message : String) : Diagnostic :=
  { diagnostic with labels := diagnostic.labels ++ [⟨span, message, false⟩] }

def withHelp (diagnostic : Diagnostic) (help : String) : Diagnostic :=
  { diagnostic with help := some help }

def headline (diagnostic : Diagnostic) : String :=
  match diagnostic.line with
  | some line => "line " ++ toString line ++ ": " ++ diagnostic.message
  | none => diagnostic.message

def text (diagnostic : Diagnostic) : String :=
  "error[" ++ diagnostic.code.text ++ "]: " ++ diagnostic.headline

def summary : List Diagnostic → String
  | [] => ""
  | [only] => only.text
  | first :: rest => first.text ++ " (+" ++ toString rest.length ++ " more)"

end Diagnostic

end TransitMap
