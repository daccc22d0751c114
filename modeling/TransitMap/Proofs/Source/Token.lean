import Mathlib.Data.List.TakeWhile
import TransitMap.Source.Token

namespace TransitMap

namespace Token

def IsSpelled (text : List Char) : Token → Prop
  | word body =>
      text = body ∧ body ≠ [] ∧
        ∀ c ∈ body, Text.isBlank c = false ∧ Text.isControl c = false ∧ c ≠ '"' ∧ c ≠ '#'
  | quoted body => text = '"' :: body ++ ['"'] ∧ ∀ c ∈ body, c ≠ '"' ∧ c ≠ '\n' ∧ c ≠ '#'
  | comment body => text = '#' :: body ∧ ∀ c ∈ body, c ≠ '\n'
  | blank => text ≠ [] ∧ ∀ c ∈ text, Text.isBlank c = true ∧ c ≠ '\n'
  | newline => text = ['\n']

def StopsAt (c : Char) : Token → Prop
  | word _ => isWordChar c = false
  | blank => isBlankChar c = false
  | comment _ => isCommentChar c = false
  | quoted _ | newline => True

/-- A string that is not closed ends here. -/
def BreaksOff (c : Char) : Prop := isQuotedChar c = false ∧ c ≠ '"'

structure IsForeign (c : Char) : Prop where
  notQuote : c ≠ '"'
  notMark : c ≠ '#'
  notNewline : c ≠ '\n'
  notBlank : isBlankChar c = false
  notWord : isWordChar c = false

variable {token : Token} {text : List Char} {c : Char}

theorem isSpelled_word {body : List Char} :
    (word body).IsSpelled text ↔ text = body ∧ body ≠ [] ∧ ∀ c ∈ body, isWordChar c = true := by
  simp [IsSpelled, isWordChar, and_assoc]

theorem isSpelled_quoted {body : List Char} :
    (quoted body).IsSpelled text ↔
      text = '"' :: body ++ ['"'] ∧ ∀ c ∈ body, isQuotedChar c = true := by
  simp [IsSpelled, isQuotedChar, and_assoc]

theorem isSpelled_comment {body : List Char} :
    (comment body).IsSpelled text ↔ text = '#' :: body ∧ ∀ c ∈ body, isCommentChar c = true := by
  simp [IsSpelled, isCommentChar]

theorem isSpelled_blank :
    blank.IsSpelled text ↔ text ≠ [] ∧ ∀ c ∈ text, isBlankChar c = true := by
  simp [IsSpelled, isBlankChar]

theorem IsSpelled.ne_nil (spelled : token.IsSpelled text) : text ≠ [] := by
  cases token with
  | word body =>
      obtain ⟨rfl, nonempty, -⟩ := spelled
      exact nonempty
  | quoted body => simp [spelled.1]
  | comment body => simp [spelled.1]
  | blank => exact spelled.1
  | newline => simp [show text = ['\n'] from spelled]

theorem isBlankChar_of_isWordChar (isWord : isWordChar c = true) : isBlankChar c = false := by
  simp only [isWordChar, Bool.and_eq_true, Bool.not_eq_true'] at isWord
  simp [isBlankChar, isWord]

theorem stopsAt_newline (token : Token) : token.StopsAt '\n' := by
  cases token with
  | word body => exact (by decide : isWordChar '\n' = false)
  | blank => exact (by decide : isBlankChar '\n' = false)
  | comment body => exact (by decide : isCommentChar '\n' = false)
  | quoted body => trivial
  | newline => trivial

theorem breaksOff_newline : BreaksOff '\n' := ⟨by decide, by decide⟩

end Token

namespace Piece

variable {start : Nat} {token : Token} {text own body rest : List Char} {c : Char}

private theorem takeWhile_eq {p : Char → Bool} (rest : List Char) (inside : ∀ c ∈ body, p c = true)
    (stops : ∀ c ∈ rest.head?, p c = false) :
    (body ++ rest).takeWhile p = body ∧ (body ++ rest).dropWhile p = rest := by
  rw [List.takeWhile_append_of_pos inside, List.dropWhile_append_of_pos inside]
  cases rest with
  | nil => simp
  | cons c rest => simp [stops c rfl]

private theorem stops_dropWhile (p : Char → Bool) (text : List Char) :
    ∀ c ∈ (text.dropWhile p).head?, p c = false := by
  intro c member
  rw [← List.find?_not_eq_head?_dropWhile] at member
  simpa using List.find?_some member

@[simp] theorem scan_nil (start : Nat) : scan start [] = [] := by
  rw [scan]

private theorem byteLength_quote (body : List Char) :
    Text.byteLength ('"' :: body) = 1 + Text.byteLength body := rfl

theorem scan_append (start : Nat) (spelled : token.IsSpelled own)
    (stops : ∀ c ∈ rest.head?, token.StopsAt c) :
    scan start (own ++ rest) =
      .token ⟨token, .between start (start + Text.byteLength own)⟩ ::
        scan (start + Text.byteLength own) rest := by
  cases token with
  | word body =>
      obtain ⟨rfl, nonempty, chars⟩ := Token.isSpelled_word.mp spelled
      obtain ⟨c, others, rfl⟩ := List.exists_cons_of_ne_nil nonempty
      obtain ⟨isWord, inside⟩ := List.forall_mem_cons.mp chars
      obtain ⟨taken, dropped⟩ := takeWhile_eq rest inside stops
      have apart : ∀ other, Token.isWordChar other = false → c ≠ other := by
        rintro other notWord rfl
        exact absurd isWord (by simp [notWord])
      have notBlank := Token.isBlankChar_of_isWordChar isWord
      rw [List.cons_append, scan, if_neg (apart '"' (by decide)), if_neg (apart '#' (by decide)),
        if_neg (apart '\n' (by decide)), if_neg (by simp [notBlank]), if_pos isWord, taken, dropped]
  | quoted body =>
      obtain ⟨rfl, inside⟩ := Token.isSpelled_quoted.mp spelled
      obtain ⟨taken, dropped⟩ := takeWhile_eq ('"' :: rest) inside (by simp [Token.isQuotedChar])
      have isText : ('"' :: body ++ ['"']) ++ rest = '"' :: (body ++ '"' :: rest) := by simp
      have stop : start + 1 + Text.byteLength body + 1 =
          start + Text.byteLength ('"' :: body ++ ['"']) := by
        rw [Text.byteLength_append, byteLength_quote, byteLength_quote, Text.byteLength]
        omega
      rw [isText, scan, if_pos rfl]
      split
      · next after found =>
          obtain ⟨-, rfl⟩ := List.cons.inj (dropped.symm.trans found)
          simp only [taken, stop]
      · next other => exact absurd dropped (other rest)
  | comment body =>
      obtain ⟨rfl, inside⟩ := Token.isSpelled_comment.mp spelled
      obtain ⟨taken, dropped⟩ := takeWhile_eq rest inside stops
      have mark : Char.utf8Size '#' = 1 := rfl
      rw [List.cons_append, scan, if_neg (by decide), if_pos rfl, taken, dropped, Text.byteLength,
        mark, ← Nat.add_assoc]
  | blank =>
      obtain ⟨nonempty, chars⟩ := Token.isSpelled_blank.mp spelled
      obtain ⟨c, others, rfl⟩ := List.exists_cons_of_ne_nil nonempty
      obtain ⟨isBlank, inside⟩ := List.forall_mem_cons.mp chars
      obtain ⟨taken, dropped⟩ := takeWhile_eq rest inside stops
      have apart : ∀ other, Token.isBlankChar other = false → c ≠ other := by
        rintro other notBlank rfl
        exact absurd isBlank (by simp [notBlank])
      rw [List.cons_append, scan, if_neg (apart '"' (by decide)), if_neg (apart '#' (by decide)),
        if_neg (apart '\n' (by decide)), if_pos isBlank, taken, dropped, Text.byteLength,
        ← Nat.add_assoc]
  | newline =>
      obtain rfl := spelled
      rw [List.cons_append, scan, if_neg (by decide), if_neg (by decide), if_pos rfl]
      rfl

/-- Behind a string that is not closed, reading goes on where the string had to end. -/
theorem scan_opened (start : Nat) (inside : ∀ c ∈ body, Token.isQuotedChar c = true)
    (stops : ∀ c ∈ rest.head?, Token.BreaksOff c) :
    scan start ('"' :: body ++ rest) =
      .fault .unterminatedQuote (.between start (start + Text.byteLength ('"' :: body))) ::
        scan (start + Text.byteLength ('"' :: body)) rest := by
  obtain ⟨taken, dropped⟩ := takeWhile_eq rest inside fun c member => (stops c member).1
  rw [List.cons_append, scan, if_pos rfl, byteLength_quote, ← Nat.add_assoc]
  split
  · next after found =>
      obtain rfl := dropped.symm.trans found
      exact absurd rfl (stops '"' rfl).2
  · simp only [taken, dropped]

theorem scan_foreign (start : Nat) (rest : List Char) (isForeign : Token.IsForeign c) :
    scan start (c :: rest) =
      .fault .unexpectedCharacter (.between start (start + 1)) ::
        scan (start + c.utf8Size) rest := by
  rw [scan, if_neg isForeign.notQuote, if_neg isForeign.notMark, if_neg isForeign.notNewline,
    if_neg (by simp [isForeign.notBlank]), if_neg (by simp [isForeign.notWord])]

/-- What holds of the empty text and of every text if it holds behind its first piece holds of all
texts. -/
theorem scan_induction {motive : List Char → Prop} (nil : motive [])
    (append : ∀ token own rest, Token.IsSpelled own token →
      (∀ c ∈ rest.head?, token.StopsAt c) → motive rest → motive (own ++ rest))
    (opened : ∀ body rest, (∀ c ∈ body, Token.isQuotedChar c = true) →
      (∀ c ∈ rest.head?, Token.BreaksOff c) → motive rest → motive ('"' :: body ++ rest))
    (foreign : ∀ c rest, Token.IsForeign c → motive rest → motive (c :: rest))
    (text : List Char) : motive text := by
  generalize isStart : 0 = start
  clear isStart
  fun_induction scan start text
  case case1 => exact nil
  case case2 rest body stop after closed ih =>
      have isText : '"' :: body ++ ['"'] ++ after = '"' :: rest := by
        rw [List.append_assoc, List.cons_append, List.singleton_append, ← closed,
          List.takeWhile_append_dropWhile]
      exact isText ▸ append (.quoted body) _ after
        (Token.isSpelled_quoted.mpr ⟨rfl, fun c member => List.mem_takeWhile_imp member⟩)
        (fun _ _ => trivial) ih
  case case3 rest body stop unclosed ih =>
      have isText : '"' :: body ++ rest.dropWhile Token.isQuotedChar = '"' :: rest :=
        congrArg ('"' :: ·) List.takeWhile_append_dropWhile
      refine isText ▸ opened body _ (fun c member => List.mem_takeWhile_imp member)
        (fun c member => ?_) ih
      refine ⟨stops_dropWhile _ rest c member, ?_⟩
      rintro rfl
      obtain ⟨after, isRest⟩ := List.head?_eq_some_iff.mp member
      exact unclosed after isRest
  case case4 rest body stop _ ih =>
      have isText : '#' :: body ++ rest.dropWhile Token.isCommentChar = '#' :: rest :=
        congrArg ('#' :: ·) List.takeWhile_append_dropWhile
      exact isText ▸ append (.comment body) _ _
        (Token.isSpelled_comment.mpr ⟨rfl, fun c member => List.mem_takeWhile_imp member⟩)
        (stops_dropWhile _ rest) ih
  case case5 rest _ _ ih =>
      exact append .newline ['\n'] rest rfl (fun _ _ => trivial) ih
  case case6 c rest _ _ _ isBlank stop ih =>
      have isText : c :: rest.takeWhile Token.isBlankChar ++ rest.dropWhile Token.isBlankChar =
          c :: rest := congrArg (c :: ·) List.takeWhile_append_dropWhile
      exact isText ▸ append .blank _ _
        (Token.isSpelled_blank.mpr ⟨by simp, List.forall_mem_cons.mpr
          ⟨isBlank, fun d member => List.mem_takeWhile_imp member⟩⟩)
        (stops_dropWhile _ rest) ih
  case case7 c rest _ _ _ _ isWord body stop ih =>
      have isText : body ++ rest.dropWhile Token.isWordChar = c :: rest :=
        congrArg (c :: ·) List.takeWhile_append_dropWhile
      exact isText ▸ append (.word body) _ _
        (Token.isSpelled_word.mpr ⟨rfl, by simp [body], List.forall_mem_cons.mpr
          ⟨isWord, fun d member => List.mem_takeWhile_imp member⟩⟩)
        (stops_dropWhile _ rest) ih
  case case8 c rest notQuote notMark notNewline notBlank notWord ih =>
      exact foreign c rest
        ⟨notQuote, notMark, notNewline, by simpa using notBlank, by simpa using notWord⟩ ih

end Piece

namespace Piece

variable {start : Nat} {token : Token} {text own rest : List Char} {tokens : List (Located Token)}

theorem map_token?_eq_self {pieces : List Piece} (noFault : pieces.filterMap diagnostic? = []) :
    (pieces.filterMap token?).map Piece.token = pieces := by
  induction pieces with
  | nil => rfl
  | cons piece rest ih =>
      cases piece with
      | token read => exact congrArg (Piece.token read :: ·) (ih noFault)
      | fault complaint span => cases noFault

end Piece

def lexicalFaults (source : List Char) : List Diagnostic :=
  match tokenize source with
  | .ok _ => []
  | .error diagnostics => diagnostics

variable {source : List Char}

theorem tokenize_eq_ok_iff {tokens : List (Located Token)} :
    tokenize source = .ok tokens ↔ Piece.scan 0 source = tokens.map Piece.token := by
  unfold tokenize
  generalize Piece.scan 0 source = pieces
  dsimp only
  constructor
  · intro read
    split at read
    · next noFault =>
        obtain rfl := Except.ok.inj read
        exact (Piece.map_token?_eq_self noFault).symm
    · cases read
  · rintro rfl
    have noFault : (tokens.map Piece.token).filterMap Piece.diagnostic? = [] := by
      simp [Piece.diagnostic?]
    rw [noFault]
    simp [List.filterMap_map, Function.comp_def, Piece.token?]

theorem lexicalFaults_eq (source : List Char) :
    lexicalFaults source = (Piece.scan 0 source).filterMap Piece.diagnostic? := by
  unfold lexicalFaults tokenize
  dsimp only
  split
  · next read =>
    split at read
    · next noFault => exact noFault.symm
    · cases read
  · next read =>
    split at read
    · cases read
    · exact (Except.error.inj read).symm

theorem lexicalFaults_eq_nil_iff :
    lexicalFaults source = [] ↔ ∃ tokens, tokenize source = .ok tokens := by
  simp only [tokenize_eq_ok_iff]
  rw [lexicalFaults_eq]
  constructor
  · exact fun noFault => ⟨_, (Piece.map_token?_eq_self noFault).symm⟩
  · rintro ⟨tokens, read⟩
    simp [read, Piece.diagnostic?]

end TransitMap
