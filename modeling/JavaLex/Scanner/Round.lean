import JavaLex.Scanner

/-! # Scanning in rounds

A call of a scanner makes rounds, each past one lexeme, until a round gives a token; a whole scan
makes calls until one of them gives the sentinel. Here both are loops with a limit that give nothing
once the limit is reached. Which characters make up a word is a parameter, and a word has as many
characters as go on with one, its first character included, so it may have none.
-/

namespace JavaLex

open Charset

/-- The characters that start a word, and those that go on with one. -/
structure WordClasses where
  starts : Char → Bool
  continues : Char → Bool

namespace WordClasses

/-- The classes that two identifier properties give. Below U+0080 they are spelled out; above, the
properties are completed by currency signs, connecting punctuation and control characters. -/
def ofProperties (starting continuing : Ranges) : WordClasses where
  starts c :=
    if c.toNat < 0x80 then
      c.isAlpha || c == '_' || c == '$'
    else
      starting.covers c.toNat || currency.covers c.toNat || connector.covers c.toNat
  continues c :=
    if c.toNat < 0x80 then
      c.isAlphanum || c == '_' || c == '$' || ignorable.covers c.toNat
    else
      continuing.covers c.toNat || currency.covers c.toNat || connector.covers c.toNat ||
        ignorable.covers c.toNat

def identifier : WordClasses := ⟨isIdentifierStart, isIdentifierPart⟩

/-- Every character that starts a word goes on with one. -/
def Closed (classes : WordClasses) : Prop :=
  ∀ c, classes.starts c = true → classes.continues c = true

end WordClasses

namespace Lexeme

/-- The text `c :: rest` begins with a comment, a string, a character or a number. -/
def opensOther (c : Char) (rest : List Char) : Bool :=
  (c == '/' && (rest.head? == some '/' || rest.head? == some '*')) || c == '"' || c == '\'' ||
    c.isDigit || (c == '.' && rest.head?.any Char.isDigit)

def wordIn (classes : WordClasses) (text : List Char) : Lexeme :=
  ⟨.word, (text.takeWhile classes.continues).length⟩

/-- The lexeme at the front of the text `c :: rest`, with words of the given characters. -/
def readIn (classes : WordClasses) (c : Char) (rest : List Char) : Lexeme :=
  if opensOther c rest then read c rest
  else if classes.starts c then wordIn classes (c :: rest)
  else symbol c rest

end Lexeme

/-- The lexeme at a cursor that stands before `c :: rest`, with words of the given characters. -/
def Cursor.lexemeIn (classes : WordClasses) (cursor : Cursor) (c : Char) (rest : List Char) :
    Lexeme :=
  if cursor.atMalformed then Lexeme.malformedEscape rest else Lexeme.readIn classes c rest

namespace Scanner

variable (classes : WordClasses)

/-- One round of a call: past the separating characters and the lexeme after them. It gives a token
unless the lexeme is skipped. -/
def round (scanner : Scanner) : Option Token × Scanner :=
  match scanner.atLexeme.chars with
  | [] =>
      (some (.eof scanner.atLexeme.position),
        { scanner with cursor := scanner.atLexeme, exhausted := true })
  | c :: rest => scanner.accept scanner.atLexeme (scanner.atLexeme.lexemeIn classes c rest)

def rounds? (scanner : Scanner) : Nat → Option (Token × Scanner)
  | 0 => none
  | limit + 1 =>
      match scanner.round classes with
      | (some token, later) => some (token, later)
      | (none, later) => later.rounds? limit

def next? (limit : Nat) (scanner : Scanner) : Option (Token × Scanner) :=
  if scanner.exhausted then
    some (.eof scanner.source.endPosition, scanner)
  else
    scanner.rounds? classes limit

def remaining? (limit : Nat) (scanner : Scanner) : Nat → Option (List Token × Scanner)
  | 0 => none
  | calls + 1 =>
      match scanner.next? classes limit with
      | none => none
      | some (token, later) =>
          if token.isEof then
            some ([token], later)
          else
            (later.remaining? limit calls).map fun (tokens, last) => (token :: tokens, last)

end Scanner

end JavaLex
