/-! # Operators and separators

Operators are matched by maximal munch over a fixed table. The table is not closed under leading
parts: three dots are an operator and two are not.
-/

namespace JavaLex

inductive Operator where
  | leftParen | rightParen | leftBrace | rightBrace | leftBracket | rightBracket | semicolon
  | comma | dot | ellipsis | atSign | colonColon | assign | greaterThan | lessThan | bang | tilde
  | question | colon | arrow | equalEqual | greaterThanEqual | lessThanEqual | notEqual
  | ampersandAmpersand | pipePipe | plusPlus | minusMinus | plus | minus | star | slash
  | ampersand | pipe | caret | percent | leftShift | rightShift | unsignedRightShift
  | plusAssign | minusAssign | starAssign | slashAssign | ampersandAssign | pipeAssign
  | caretAssign | percentAssign | leftShiftAssign | rightShiftAssign | unsignedRightShiftAssign
deriving DecidableEq, Repr, Inhabited

namespace Operator

def spelling : Operator → String
  | leftParen => "("
  | rightParen => ")"
  | leftBrace => "\x7b"
  | rightBrace => "\x7d"
  | leftBracket => "["
  | rightBracket => "]"
  | semicolon => ";"
  | comma => ","
  | dot => "."
  | ellipsis => "..."
  | atSign => "@"
  | colonColon => "::"
  | assign => "="
  | greaterThan => ">"
  | lessThan => "<"
  | bang => "!"
  | tilde => "~"
  | question => "?"
  | colon => ":"
  | arrow => "->"
  | equalEqual => "=="
  | greaterThanEqual => ">="
  | lessThanEqual => "<="
  | notEqual => "!="
  | ampersandAmpersand => "&&"
  | pipePipe => "||"
  | plusPlus => "++"
  | minusMinus => "--"
  | plus => "+"
  | minus => "-"
  | star => "*"
  | slash => "/"
  | ampersand => "&"
  | pipe => "|"
  | caret => "^"
  | percent => "%"
  | leftShift => "<<"
  | rightShift => ">>"
  | unsignedRightShift => ">>>"
  | plusAssign => "+="
  | minusAssign => "-="
  | starAssign => "*="
  | slashAssign => "/="
  | ampersandAssign => "&="
  | pipeAssign => "|="
  | caretAssign => "^="
  | percentAssign => "%="
  | leftShiftAssign => "<<="
  | rightShiftAssign => ">>="
  | unsignedRightShiftAssign => ">>>="

def name : Operator → String
  | leftParen => "LeftParen"
  | rightParen => "RightParen"
  | leftBrace => "LeftBrace"
  | rightBrace => "RightBrace"
  | leftBracket => "LeftBracket"
  | rightBracket => "RightBracket"
  | semicolon => "Semicolon"
  | comma => "Comma"
  | dot => "Dot"
  | ellipsis => "Ellipsis"
  | atSign => "At"
  | colonColon => "ColonColon"
  | assign => "Assign"
  | greaterThan => "GreaterThan"
  | lessThan => "LessThan"
  | bang => "Bang"
  | tilde => "Tilde"
  | question => "Question"
  | colon => "Colon"
  | arrow => "Arrow"
  | equalEqual => "EqualEqual"
  | greaterThanEqual => "GreaterThanEqual"
  | lessThanEqual => "LessThanEqual"
  | notEqual => "NotEqual"
  | ampersandAmpersand => "AmpersandAmpersand"
  | pipePipe => "PipePipe"
  | plusPlus => "PlusPlus"
  | minusMinus => "MinusMinus"
  | plus => "Plus"
  | minus => "Minus"
  | star => "Star"
  | slash => "Slash"
  | ampersand => "Ampersand"
  | pipe => "Pipe"
  | caret => "Caret"
  | percent => "Percent"
  | leftShift => "LeftShift"
  | rightShift => "RightShift"
  | unsignedRightShift => "UnsignedRightShift"
  | plusAssign => "PlusAssign"
  | minusAssign => "MinusAssign"
  | starAssign => "StarAssign"
  | slashAssign => "SlashAssign"
  | ampersandAssign => "AmpersandAssign"
  | pipeAssign => "PipeAssign"
  | caretAssign => "CaretAssign"
  | percentAssign => "PercentAssign"
  | leftShiftAssign => "LeftShiftAssign"
  | rightShiftAssign => "RightShiftAssign"
  | unsignedRightShiftAssign => "UnsignedRightShiftAssign"

def all : List Operator :=
  [leftParen, rightParen, leftBrace, rightBrace, leftBracket, rightBracket, semicolon, comma,
   dot, ellipsis, atSign, colonColon, assign, greaterThan, lessThan, bang, tilde, question, colon,
   arrow, equalEqual, greaterThanEqual, lessThanEqual, notEqual, ampersandAmpersand, pipePipe,
   plusPlus, minusMinus, plus, minus, star, slash, ampersand, pipe, caret, percent, leftShift,
   rightShift, unsignedRightShift, plusAssign, minusAssign, starAssign, slashAssign,
   ampersandAssign, pipeAssign, caretAssign, percentAssign, leftShiftAssign, rightShiftAssign,
   unsignedRightShiftAssign]

/-- Separators, which group and divide and do not compute. -/
def isSeparator : Operator → Bool
  | leftParen | rightParen | leftBrace | rightBrace | leftBracket | rightBracket
  | semicolon | comma | dot | ellipsis | atSign | colonColon => true
  | _ => false

def chars (operator : Operator) : List Char :=
  operator.spelling.toList

def ofChars? (text : List Char) : Option Operator :=
  all.find? (·.chars == text)

def ofSpelling? (text : String) : Option Operator :=
  ofChars? text.toList

def maxSize : Nat := 4

/-- The operator spelled by the longest leading part of `text`. -/
def longest? (text : List Char) : Option Operator :=
  [4, 3, 2, 1].findSome? fun size => ofChars? (text.take size)

def isStart (c : Char) : Bool :=
  all.any (·.chars.head? == some c)

def size (operator : Operator) : Nat :=
  operator.chars.length

theorem mem_all (operator : Operator) : operator ∈ all := by
  cases operator <;> decide

theorem size_pos (operator : Operator) : 0 < operator.size := by
  cases operator <;> decide

theorem size_le_maxSize (operator : Operator) : operator.size ≤ maxSize := by
  cases operator <;> decide

end Operator

end JavaLex
