import JavaLex.Error
import JavaLex.Token.Kind
import JavaLex.Token.Literal

/-! # Tokens

A token keeps its translated text and where the raw text has it. A compound operator can be split
after its first character, for a parser that closes nested type arguments; a token written with
escapes cannot, because its span is then wider than its text.
-/

namespace JavaLex

structure Token where
  kind : Kind
  /-- The text after escapes are translated. -/
  text : String
  /-- The bytes of the raw text. -/
  span : Span
  line : Nat
  column : Nat
  /-- The value of a literal. -/
  value : Option Literal
  /-- The error of a token that is none. -/
  error : Option LexicalError
  /-- The index of an identifier's name. -/
  name : Option Nat
deriving DecidableEq, Repr, Inhabited

namespace Token

def plain (kind : Kind) (text : String) (span : Span) (start : Position) : Token :=
  ⟨kind, text, span, start.line, start.column, none, none, none⟩

def eof (place : Position) : Token :=
  plain .eof "" ⟨place.offset, place.offset⟩ place

def ofError (error : LexicalError) (text : String) (span : Span) (start : Position) : Token :=
  { plain .error text span start with error := some error }

def position (token : Token) : Position :=
  ⟨token.span.start, token.line, token.column⟩

def isEof (token : Token) : Bool :=
  token.kind == .eof

def occursIn (word : List Char) : List Char → Bool
  | [] => word.isEmpty
  | c :: rest => word.isPrefixOf (c :: rest) || occursIn word rest

/-- A documentation comment with a deprecation tag. -/
def isDeprecated (token : Token) : Bool :=
  token.kind == .comment .javadoc && occursIn "@deprecated".toList token.text.toList

/-- The first character of a compound operator and the rest of it, as tokens. -/
def split? (token : Token) : Option (Token × Token) :=
  match token.kind with
  | .operator symbol =>
      if symbol.size < 2 || token.span.size != symbol.size then
        none
      else do
        let head ← Operator.ofChars? (symbol.chars.take 1)
        let tail ← Operator.ofChars? (symbol.chars.drop 1)
        let middle := token.span.start + 1
        some
          (plain (.operator head) head.spelling ⟨token.span.start, middle⟩ token.position,
            plain (.operator tail) tail.spelling ⟨middle, token.span.stop⟩
              ⟨middle, token.line, token.column + 1⟩)
  | _ => none

end Token

end JavaLex
