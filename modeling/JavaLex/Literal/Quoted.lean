import JavaLex.Charset.Digit
import JavaLex.Charset.Identifier

/-! # String and character literals

Both kinds of literal hold characters and escape sequences up to a closing quote on the same line.
An illegal escape sequence in a string is passed over, so that the closing quote is still found.
Unicode escapes do not occur here, because they are translated before.
-/

namespace JavaLex.Quoted

open Charset

def simpleEscape? : Char → Option Char
  | 'b' => some '\x08'
  | 't' => some '\t'
  | 'n' => some '\n'
  | 'f' => some '\x0c'
  | 'r' => some '\r'
  | 's' => some ' '
  | '"' => some '"'
  | '\'' => some '\''
  | '\\' => some '\\'
  | _ => none

/-- An escape sequence after its backslash: the character it stands for, or the one that makes it
illegal, with the characters it takes. An octal sequence has three digits only if the first is at
most three. A backslash at the end of a line is itself illegal. -/
def escape (text : List Char) : Except Char Char × Nat :=
  match text with
  | [] => (.error '\\', 0)
  | c :: _ =>
      if isLineTerminator c then
        (.error '\\', 0)
      else if isDigitOf 8 c then
        let limit := if valueOf 8 [c] ≤ 3 then 3 else 2
        let digits := (text.take limit).takeWhile (isDigitOf 8)
        (.ok (Char.ofNat (valueOf 8 digits)), digits.length)
      else
        match simpleEscape? c with
        | some decoded => (.ok decoded, 1)
        | none => (.error c, 1)

inductive Stop where
  | quote
  | lineEnd
  | inputEnd
deriving DecidableEq, Repr, Inhabited

/-- The body of a string literal: its characters, the illegal escape sequences with the indices
of their backslashes, what ends it, and the characters it takes with the closing quote. -/
structure Body where
  value : List Char
  illegal : List (Nat × Char)
  stop : Stop
  size : Nat
deriving Repr, Inhabited

/-- Reads the body of a string literal whose first character has the given index. -/
def body (index : Nat) : List Char → Body
  | [] => ⟨[], [], .inputEnd, 0⟩
  | c :: rest =>
      if c == '"' then
        ⟨[], [], .quote, 1⟩
      else if isLineTerminator c then
        ⟨[], [], .lineEnd, 0⟩
      else if c == '\\' then
        let sequence := escape rest
        let tail := body (index + 1 + sequence.2) (rest.drop sequence.2)
        match sequence.1 with
        | .ok decoded =>
            { tail with value := decoded :: tail.value, size := tail.size + 1 + sequence.2 }
        | .error illegal =>
            { tail with
              illegal := (index, illegal) :: tail.illegal
              size := tail.size + 1 + sequence.2 }
      else
        let tail := body (index + 1) rest
        { tail with value := c :: tail.value, size := tail.size + 1 }
termination_by text => text.length

/-- Characters through the next single quote on the line, or none if there is no such quote. -/
def closingSize (text : List Char) : Nat :=
  let size := (text.takeWhile fun c => c != '\'' && !isLineTerminator c).length
  if text[size]? == some '\'' then size + 1 else 0

inductive CharacterFault where
  | malformed
  | illegalEscape (c : Char)
deriving DecidableEq, Repr, Inhabited

/-- A character literal after its opening quote: the character it denotes or why there is none,
with the characters it takes. The character has to fit one UTF-16 code unit. -/
def character (text : List Char) : Except CharacterFault Char × Nat :=
  match text with
  | [] => (.error .malformed, 0)
  | c :: rest =>
      if isLineTerminator c then
        (.error .malformed, 0)
      else if c == '\'' then
        (.error .malformed, 1)
      else
        let unit : Except Char Char × Nat :=
          if c == '\\' then ((escape rest).1, (escape rest).2 + 1) else (.ok c, 1)
        let after := text.drop unit.2
        match unit.1 with
        | .error illegal => (.error (.illegalEscape illegal), unit.2 + closingSize after)
        | .ok value =>
            if value.toNat ≤ 0xffff && after.head? == some '\'' then
              (.ok value, unit.2 + 1)
            else
              (.error .malformed, unit.2 + closingSize after)

end JavaLex.Quoted
