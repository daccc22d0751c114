import TransitMap.Bend
import TransitMap.Source.Diagnostic

namespace TransitMap

/-- The form of a statement, for the advice that goes with a complaint. -/
inductive Usage where
  | line
  | multiLine
  | station
  | edges
  | curve
  | sequence
  | join
  | parallelCurve
  | endpoint
  | list
  | sameStation
  | equal
  | overlap
  deriving DecidableEq, Repr

def Usage.text : Usage → String
  | line => "line <name>:"
  | multiLine => "multi-line:"
  | station => "station \"<name>\" <x> <y>"
  | edges => "edges \"<station>, <station>, ...\""
  | curve => "curve \"<from>, <to>\" <direction>,<direction> [parallelto <line>]"
  | sequence => "curve \"<from>, <to>\" special \"<from>, ..., <to>\" \"<shape> : ...\""
  | join => "curve \"<from>, <to>\" special of \"<a>, <b>\" \"<b>, <c>\" ..."
  | parallelCurve => "parallelto curve \"<line>: <from>, <to>\""
  | endpoint => "endpoint \"<station>\" <type>[:<half>]"
  | list => "<alignment> \"<station>, <station>, ...\""
  | sameStation => "same-station \"<line>: <station>\" <direction> \"<line>: <station>\""
  | equal => "equal \"<station>.x + ...\" \"<station>.y + ...\""
  | overlap => "zindex <line> above|below <line>"

inductive ShapeFault where
  | noComma
  | unknownDirection (text : String)
  | notATurn
  deriving DecidableEq, Repr

def ShapeFault.text : ShapeFault → String
  | noComma => "expected two directions separated by `,`"
  | unknownDirection text => "unknown direction `" ++ text ++ "`"
  | notATurn => "not a 90° or 135° turn"

inductive Complaint where
  | unterminatedQuote
  | unexpectedCharacter
  | unknownStatement (keyword : String)
  | trailingArguments (keyword : String) (usage : Usage)
  | missingArguments (keyword : String) (usage : Usage)
  | notAWord (text : String) (usage : Usage)
  | notQuoted (text : String) (usage : Usage)
  | notAnInteger (text : String)
  | emptyStationName
  | emptyLineName
  | tooFewStations (least found : Nat) (usage : Usage)
  | notAPair (found : Nat) (usage : Usage)
  | outsideLine (keyword : String)
  | lineTwice (line : String)
  | stationTwice (station line : String)
  | noStationId (station line : String)
  | unknownStation (station line : String)
  | unknownLine (line : String)
  | invalidShape (text : String) (fault : ShapeFault)
  | undrawableBend (bend : Bend)
  | parallelSpecial
  | sequenceShapes (stations shapes : Nat)
  | sequenceEnds (start stop : String)
  | unknownEndpoint (text : String)
  | foreignHalf (text axis : String) (halves : Direction × Direction)
  | unknownRelation (text : String)
  | malformedTerm (text : String)
  | notAboveOrBelow (text : String)
  | notCurveKeyword (text : String)
  | malformedCurveReference (text : String)
  | unqualifiedStation (text : String)
  | stationWithoutLine (station : String)
  | unknownCurve (start stop line : String)
  | curveWithoutEdge (start stop line : String)
  | curveTwice (start stop : String)
  | orphanStation (station line : String)
  | parallelToItself
  | shapeMismatch (shape target : Bend)
  | joinOfItself
  | brokenJoin (start stop expected : String)
  | joinEndsElsewhere (found expected : String)
  deriving DecidableEq, Repr

namespace Complaint

def code : Complaint → ErrorCode
  | unterminatedQuote => .unterminatedQuote
  | unexpectedCharacter => .unexpectedCharacter
  | unknownStatement _ => .unknownStatement
  | trailingArguments .. | missingArguments .. | notAWord .. | notQuoted .. | emptyStationName
  | emptyLineName | tooFewStations .. | notAPair .. | parallelSpecial | sequenceShapes ..
  | sequenceEnds .. | notAboveOrBelow _ | notCurveKeyword _ => .wrongArguments
  | notAnInteger _ => .invalidCoordinate
  | outsideLine _ => .noActiveLine
  | lineTwice _ => .duplicateLine
  | stationTwice .. => .duplicateStation
  | noStationId .. => .missingStationId
  | unknownStation .. => .unknownStation
  | unknownLine _ => .unknownLine
  | invalidShape .. | undrawableBend _ => .invalidShape
  | unknownEndpoint _ | foreignHalf .. => .invalidEndpoint
  | unknownRelation _ => .invalidRelation
  | malformedTerm _ => .malformedTerm
  | malformedCurveReference _ | unqualifiedStation _ | stationWithoutLine _ => .malformedReference
  | unknownCurve .. => .unknownCurve
  | curveWithoutEdge .. => .curveWithoutEdge
  | curveTwice .. => .duplicateCurve
  | orphanStation .. => .orphanStation
  | shapeMismatch .. => .shapeMismatch
  | parallelToItself | joinOfItself | brokenJoin .. | joinEndsElsewhere .. => .invalidTarget

def quote (text : String) : String := "`" ++ text ++ "`"

def message : Complaint → String
  | unterminatedQuote => "unterminated quoted string"
  | unexpectedCharacter => "unexpected character"
  | unknownStatement keyword => "unrecognized statement " ++ quote keyword
  | trailingArguments keyword _ => "unexpected trailing arguments after " ++ quote keyword
  | missingArguments keyword _ => "missing arguments for " ++ quote keyword
  | notAWord text _ => "expected a bare word, found " ++ quote text
  | notQuoted text _ => "expected a quoted string, found " ++ quote text
  | notAnInteger text => quote text ++ " is not an integer coordinate"
  | emptyStationName => "empty station name"
  | emptyLineName => "line name is empty"
  | tooFewStations least found _ =>
      "expected at least " ++ toString least ++ " stations, found " ++ toString found
  | notAPair found _ => "expected exactly 2 stations, found " ++ toString found
  | outsideLine keyword => quote keyword ++ " must appear inside a line"
  | lineTwice line => "line " ++ quote line ++ " is declared twice"
  | stationTwice station line =>
      "station " ++ quote station ++ " is declared twice on line " ++ quote line
  | noStationId station line => "no station id for " ++ quote station ++ " on line " ++ quote line
  | unknownStation station line => "unknown station " ++ quote station ++ " on line " ++ quote line
  | unknownLine line => "unknown line " ++ quote line
  | invalidShape text fault => "invalid curve shape " ++ quote text ++ ": " ++ fault.text
  | undrawableBend bend => "invalid curve shape " ++ quote bend.text
  | parallelSpecial => "only sharp and wide curves can be parallel to another curve"
  | sequenceShapes stations shapes =>
      toString stations ++ " stations need " ++ toString (stations - 1) ++ " shapes, found " ++
        toString shapes
  | sequenceEnds start stop =>
      "the station sequence must run from " ++ quote start ++ " to " ++ quote stop
  | unknownEndpoint text => "unknown endpoint type " ++ quote text
  | foreignHalf text axis _ => quote text ++ " is not a half of a " ++ quote axis ++ " endpoint"
  | unknownRelation text => "unknown same-station relation " ++ quote text
  | malformedTerm text => "malformed term " ++ quote text
  | notAboveOrBelow text => "expected `above` or `below`, found " ++ quote text
  | notCurveKeyword text => "expected `curve`, found " ++ quote text
  | malformedCurveReference text => "malformed curve reference " ++ quote text
  | unqualifiedStation text => "expected `line: station`, found " ++ quote text
  | stationWithoutLine station => "station " ++ quote station ++ " needs a line"
  | unknownCurve start stop line =>
      "no curve between " ++ quote start ++ " and " ++ quote stop ++ " on line " ++ quote line
  | curveWithoutEdge start stop line =>
      "curve between " ++ quote start ++ " and " ++ quote stop ++
        ", but they are not connected on line " ++ quote line
  | curveTwice start stop =>
      "a curve between " ++ quote start ++ " and " ++ quote stop ++ " is already declared"
  | orphanStation station line =>
      "station " ++ quote station ++ " is not connected to any other station on line " ++ quote line
  | parallelToItself => "a curve cannot be parallel to itself"
  | shapeMismatch shape target =>
      "shape " ++ quote shape.text ++ " differs from the " ++ quote target.text ++
        " shape of the curve it follows"
  | joinOfItself => "a joined curve cannot contain itself"
  | brokenJoin start stop expected =>
      "joined curve " ++ quote (start ++ ", " ++ stop) ++ " does not start at " ++ quote expected
  | joinEndsElsewhere found expected =>
      "joined curves end at " ++ quote found ++ " instead of " ++ quote expected

def help? : Complaint → Option String
  | unterminatedQuote => some "add a closing `\"` before the end of the line or any `#`"
  | unknownStatement _ =>
      some ("statements start with `line`, `station`, `alignment-point`, `edges`, `curve`, " ++
        "`endpoint`, an alignment keyword, `same-station`, `equal`, `zindex` or `multi-line:`")
  | trailingArguments _ usage | missingArguments _ usage | notAWord _ usage | notQuoted _ usage
  | tooFewStations _ _ usage | notAPair _ usage => some ("expected " ++ quote usage.text)
  | outsideLine _ => some "add a `line <name>:` header before this statement"
  | noStationId .. => some "add an entry to the station-id file or a `[station_ids]` override"
  | invalidShape .. =>
      some "shapes are `special` or two directions such as `right,down` or `up,up-right`"
  | parallelSpecial => some "declare the path with `special of` and make its parts parallel"
  | unknownEndpoint _ =>
      some ("endpoint types are `horizontal`, `vertical`, `up-right`, `down-right`, `up-left` " ++
        "and `down-left`")
  | foreignHalf _ axis halves =>
      some ("use " ++ quote (axis ++ ":" ++ halves.1.keyword) ++ " or " ++
        quote (axis ++ ":" ++ halves.2.keyword))
  | unknownRelation _ =>
      some ("directions are `above`, `below`, `left`, `right`, `above-left`, `above-right`, " ++
        "`below-left`, `below-right` and `exact`")
  | malformedTerm _ =>
      some "terms look like `station.x` or `station.y`; write `\\.` for a dot in a name"
  | notAboveOrBelow _ => some ("expected " ++ quote Usage.overlap.text)
  | notCurveKeyword _ | malformedCurveReference _ =>
      some ("expected " ++ quote Usage.parallelCurve.text)
  | unqualifiedStation _ =>
      some "outside a line, stations are named with their line, e.g. `red: Bank`"
  | curveWithoutEdge start stop _ =>
      some ("add " ++ quote ("edges \"" ++ start ++ ", " ++ stop ++ "\"") ++ " to the line")
  | orphanStation .. => some "add the station to an `edges` list"
  | shapeMismatch _ target => some ("use " ++ quote target.text ++ " for both curves")
  | _ => none

def diagnostic (complaint : Complaint) (span : Span) (line : Option Nat) : Diagnostic :=
  { Diagnostic.about complaint.code span complaint.message with line, help := complaint.help? }

end Complaint

end TransitMap
