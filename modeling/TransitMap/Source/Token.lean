import TransitMap.Source.Complaint
import TransitMap.Text.Blank
import TransitMap.Text.Bytes

/-!
The tokens of a network source: words, quoted strings, comments, white space and line ends, which
together cover the text. A string may not hold a quote, a line end or a `#`.
-/

namespace TransitMap

inductive Token where
  | word (text : List Char)
  | quoted (text : List Char)
  | comment (text : List Char)
  | blank
  | newline
  deriving DecidableEq, Repr

namespace Token

def isWordChar (c : Char) : Bool :=
  !Text.isBlank c && !Text.isControl c && c != '"' && c != '#'

def isQuotedChar (c : Char) : Bool := c != '"' && c != '\n' && c != '#'

def isCommentChar (c : Char) : Bool := c != '\n'

def isBlankChar (c : Char) : Bool := Text.isBlank c && c != '\n'

end Token

/-- A piece of the source as it is read: a token, or a complaint about text that is none. -/
inductive Piece where
  | token (read : Located Token)
  | fault (complaint : Complaint) (span : Span)
  deriving DecidableEq, Repr

namespace Piece

def token? : Piece → Option (Located Token)
  | token read => some read
  | fault .. => none

def diagnostic? : Piece → Option Diagnostic
  | token _ => none
  | fault complaint span => some (complaint.diagnostic span none)

private theorem length_dropWhile_le (p : Char → Bool) (text : List Char) :
    (text.dropWhile p).length ≤ text.length :=
  (List.dropWhile_sublist p).length_le

/-- The pieces of a text that starts at a place of the source. After a string without its closing
quote reading goes on where the string had to end, after a character that starts no token behind
that character. -/
def scan (start : Nat) : List Char → List Piece
  | [] => []
  | c :: rest =>
      if c = '"' then
        let body := rest.takeWhile Token.isQuotedChar
        let bodyStop := start + 1 + Text.byteLength body
        match remaining : rest.dropWhile Token.isQuotedChar with
        | '"' :: after =>
            token ⟨.quoted body, .between start (bodyStop + 1)⟩ :: scan (bodyStop + 1) after
        | after => fault .unterminatedQuote (.between start bodyStop) :: scan bodyStop after
      else if c = '#' then
        let body := rest.takeWhile Token.isCommentChar
        let stop := start + 1 + Text.byteLength body
        token ⟨.comment body, .between start stop⟩ :: scan stop (rest.dropWhile Token.isCommentChar)
      else if c = '\n' then
        token ⟨.newline, .between start (start + 1)⟩ :: scan (start + 1) rest
      else if Token.isBlankChar c then
        let stop := start + c.utf8Size + Text.byteLength (rest.takeWhile Token.isBlankChar)
        token ⟨.blank, .between start stop⟩ :: scan stop (rest.dropWhile Token.isBlankChar)
      else if Token.isWordChar c then
        let body := c :: rest.takeWhile Token.isWordChar
        let stop := start + Text.byteLength body
        token ⟨.word body, .between start stop⟩ :: scan stop (rest.dropWhile Token.isWordChar)
      else
        fault .unexpectedCharacter (.between start (start + 1)) :: scan (start + c.utf8Size) rest
  termination_by text => text.length
  decreasing_by
    all_goals simp_wf
    · have bound := length_dropWhile_le Token.isQuotedChar rest
      simp [remaining] at bound
      omega
    · have bound := length_dropWhile_le Token.isQuotedChar rest
      simp [remaining] at bound
      omega
    · have bound := length_dropWhile_le Token.isCommentChar rest
      omega
    · have bound := length_dropWhile_le Token.isBlankChar rest
      omega
    · have bound := length_dropWhile_le Token.isWordChar rest
      omega

end Piece

/-- The tokens of a source, or everything that keeps it from having any. -/
def tokenize (source : List Char) : Except (List Diagnostic) (List (Located Token)) :=
  let pieces := Piece.scan 0 source
  match pieces.filterMap Piece.diagnostic? with
  | [] => .ok (pieces.filterMap Piece.token?)
  | diagnostics => .error diagnostics

end TransitMap
