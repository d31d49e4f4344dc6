import JavaLex.Literal.Numeral
import JavaLex.Literal.Quoted

/-! # Lexemes

A lexeme is what the front of a translated text reads as, together with the number of characters
it takes. Reading looks at characters only, never at how they were spelled; what is wrong with a
lexeme is located by the index of a character within it. `size_read_pos` says that every lexeme
takes at least one character.
-/

namespace JavaLex

open Charset

/-- A cause with the index, within a lexeme, of the character it stands at. -/
structure Fault where
  cause : Cause
  index : Nat
  recoverable : Bool
deriving DecidableEq, Repr, Inhabited

def Fault.of (cause : Cause) (index : Nat) : Fault :=
  ⟨cause, index, cause.isRecoverable⟩

inductive Outcome where
  /-- A token of the given kind, with its value if it is a literal. -/
  | token (kind : Kind) (value : Option Literal)
  /-- An identifier or a reserved word, which its text will tell apart. -/
  | word
  | comment (style : CommentStyle)
  /-- No token, for the given reasons. -/
  | faulty (faults : List Fault)
deriving DecidableEq, Repr, Inhabited

structure Lexeme where
  outcome : Outcome
  size : Nat
deriving DecidableEq, Repr, Inhabited

namespace Lexeme

/-! ## Comments -/

/-- A line comment after its two slashes. -/
def lineComment (text : List Char) : Lexeme :=
  ⟨.comment .line, (text.takeWhile (!isLineTerminator ·)).length + 2⟩

/-- Characters through the first star-slash. -/
def closing? : List Char → Option Nat
  | [] => none
  | c :: rest =>
      if c == '*' && rest.head? == some '/' then some 2 else (closing? rest).map (· + 1)

/-- The style of a block comment after its slash-star: one more star opens a documentation
comment, unless the comment is empty. -/
def blockStyle : List Char → CommentStyle
  | '*' :: '/' :: _ => .block
  | '*' :: _ => .javadoc
  | _ => .block

def blockComment (text : List Char) : Lexeme :=
  match closing? text with
  | some size => ⟨.comment (blockStyle text), size + 2⟩
  | none => ⟨.faulty [.of .unterminatedComment 0], text.length + 2⟩

/-! ## Literals -/

/-- A string literal after its opening quote. A string that the end of the line cuts off is
recoverable; one that the end of the text cuts off is not. -/
def string (text : List Char) : Lexeme :=
  let body := Quoted.body 1 text
  let illegal := body.illegal.map fun (index, c) => Fault.of (.illegalEscape c) index
  let outcome : Outcome :=
    match body.stop, illegal with
    | .quote, [] => .token .stringLiteral (some (.string (String.ofList body.value)))
    | .quote, faults => .faulty faults
    | .lineEnd, faults => .faulty (⟨.unterminatedString, 0, true⟩ :: faults)
    | .inputEnd, faults => .faulty (.of .unterminatedString 0 :: faults)
  ⟨outcome, body.size + 1⟩

/-- A character literal after its opening quote. -/
def character (text : List Char) : Lexeme :=
  let (result, size) := Quoted.character text
  let outcome : Outcome :=
    match result with
    | .ok value => .token .charLiteral (some (.char value))
    | .error .malformed => .faulty [.of .malformedCharacter 0]
    | .error (.illegalEscape c) => .faulty [.of (.illegalEscape c) 1]
  ⟨outcome, size + 1⟩

/-- A numeric literal from its first character on. -/
def number (text : List Char) : Lexeme :=
  let (result, size) := Numeral.scan text
  match result with
  | .ok (kind, value) => ⟨.token kind (some value), size⟩
  | .error cause => ⟨.faulty [.of cause 0], size⟩

/-! ## Everything else -/

/-- A word after its first character. -/
def word (text : List Char) : Lexeme :=
  ⟨.word, (text.takeWhile isIdentifierPart).length + 1⟩

/-- The longest operator at the front, or one character that starts no token. -/
def symbol (c : Char) (rest : List Char) : Lexeme :=
  match Operator.longest? (c :: rest) with
  | some found => ⟨.token (.operator found) none, found.size⟩
  | none => ⟨.faulty [.of (.unexpectedCharacter c) 0], 1⟩

/-- A malformed escape after its backslash: its letters and at most four hexadecimal digits. It
has no fault beyond the mark of its cell. -/
def malformedEscape (text : List Char) : Lexeme :=
  let marks := (text.takeWhile (· == 'u')).length
  let digits := ((text.drop marks).take 4).takeWhile (isDigitOf 16)
  ⟨.faulty [], marks + digits.length + 1⟩

/-- The lexeme at the front of the text `c :: rest`, where no malformed escape and no separating
character stands. -/
def read (c : Char) (rest : List Char) : Lexeme :=
  if c == '/' && rest.head? == some '/' then lineComment rest.tail
  else if c == '/' && rest.head? == some '*' then blockComment rest.tail
  else if c == '"' then string rest
  else if c == '\'' then character rest
  else if c.isDigit || (c == '.' && rest.head?.any Char.isDigit) then number (c :: rest)
  else if isIdentifierStart c then word rest
  else symbol c rest

/-! ## Progress -/

theorem size_string_pos (text : List Char) : 0 < (string text).size := by
  simp [string]

theorem size_character_pos (text : List Char) : 0 < (character text).size := by
  simp [character]

theorem size_lineComment_pos (text : List Char) : 0 < (lineComment text).size := by
  simp [lineComment]

theorem size_blockComment_pos (text : List Char) : 0 < (blockComment text).size := by
  unfold blockComment
  split <;> simp

theorem size_word_pos (text : List Char) : 0 < (word text).size := by
  simp [word]

theorem size_malformedEscape_pos (text : List Char) : 0 < (malformedEscape text).size := by
  simp [malformedEscape]

theorem size_symbol_pos (c : Char) (rest : List Char) : 0 < (symbol c rest).size := by
  unfold symbol
  split
  · exact Operator.size_pos _
  · simp

theorem size_number_pos {c : Char} {rest : List Char}
    (start : (c.isDigit || (c == '.' && rest.head?.any Char.isDigit)) = true) :
    0 < (number (c :: rest)).size := by
  have positive : 0 < (Numeral.read (c :: rest)).size := Numeral.size_read_pos (by grind)
  have taken := Numeral.size_le_scan (c :: rest)
  unfold number
  split
  split <;> simp_all <;> omega

theorem size_read_pos (c : Char) (rest : List Char) : 0 < (read c rest).size := by
  unfold read
  split
  · exact size_lineComment_pos _
  split
  · exact size_blockComment_pos _
  split
  · exact size_string_pos _
  split
  · exact size_character_pos _
  split
  · exact size_number_pos ‹_›
  split
  · exact size_word_pos _
  · exact size_symbol_pos _ _

end Lexeme

end JavaLex
