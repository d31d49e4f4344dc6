import JavaLex.Charset.Spelling
import JavaLex.Source.Position

/-! # Lexical errors -/

namespace JavaLex

/-- Why a stretch of source text forms no token. -/
inductive Cause where
  /-- A backslash and `u` without the four digits of a character. -/
  | malformedEscape
  | unterminatedComment
  | malformedNumber
  /-- A number too large for its type, or one that rounds to zero. -/
  | numberOutOfRange
  | unterminatedString
  | malformedCharacter
  /-- An unknown escape sequence in a string or character literal. -/
  | illegalEscape (c : Char)
  /-- A character that starts no token. -/
  | unexpectedCharacter (c : Char)
deriving DecidableEq, Repr, Inhabited

def Cause.message : Cause → String
  | malformedEscape => "illegal unicode escape"
  | unterminatedComment => "unclosed comment"
  | malformedNumber => "malformed numeric literal"
  | numberOutOfRange => "numeric literal out of range"
  | unterminatedString => "unclosed string literal"
  | malformedCharacter => "malformed character literal"
  | illegalEscape c =>
      "illegal escape character '" ++ String.ofList (Charset.messageSpelling c) ++ "'"
  | unexpectedCharacter c =>
      "illegal character: '\\u" ++ String.ofList (Charset.paddedHex 4 c.toNat) ++ "'"

/-- Scanning resumes after the cause, unless nothing says where the next token starts. -/
def Cause.isRecoverable : Cause → Bool
  | unterminatedComment | unterminatedString => false
  | _ => true

structure LexicalError where
  cause : Cause
  position : Position
  recoverable : Bool
deriving DecidableEq, Repr, Inhabited

def LexicalError.of (cause : Cause) (position : Position) : LexicalError :=
  ⟨cause, position, cause.isRecoverable⟩

/-- The error as one line, `line:column: message`. -/
def LexicalError.message (error : LexicalError) : String :=
  error.position.label ++ ": " ++ error.cause.message

end JavaLex
