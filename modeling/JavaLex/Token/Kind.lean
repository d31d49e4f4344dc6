import JavaLex.Token.Keyword
import JavaLex.Token.Operator

/-! # Kinds of tokens -/

namespace JavaLex

inductive CommentStyle where
  /-- From two slashes to the end of the line. -/
  | line
  /-- Between slash-star and star-slash. -/
  | block
  /-- A block comment that opens with two stars. -/
  | javadoc
deriving DecidableEq, Repr, Inhabited

def CommentStyle.name : CommentStyle → String
  | line => "Line"
  | block => "Block"
  | javadoc => "Javadoc"

inductive Kind where
  | identifier
  | keyword (word : Keyword)
  | intLiteral
  | longLiteral
  | floatLiteral
  | doubleLiteral
  | charLiteral
  | stringLiteral
  | booleanLiteral
  | nullLiteral
  | operator (symbol : Operator)
  | comment (style : CommentStyle)
  /-- The sentinel after the last token. -/
  | eof
  /-- Source text that forms no token. -/
  | error
deriving DecidableEq, Repr, Inhabited

inductive Category where
  | identifier
  | keyword
  | integer
  | floating
  | string
  | character
  | boolean
  | null
  | operator
  | punctuation
  | comment
  | eof
  | error
deriving DecidableEq, Repr, Inhabited

namespace Kind

/-- The only spelling of a keyword, operator or separator. -/
def fixedText? : Kind → Option String
  | keyword word => some word.spelling
  | operator symbol => some symbol.spelling
  | _ => none

def category : Kind → Category
  | identifier => .identifier
  | keyword _ => .keyword
  | intLiteral | longLiteral => .integer
  | floatLiteral | doubleLiteral => .floating
  | charLiteral => .character
  | stringLiteral => .string
  | booleanLiteral => .boolean
  | nullLiteral => .null
  | operator symbol => if symbol.isSeparator then .punctuation else .operator
  | comment _ => .comment
  | eof => .eof
  | error => .error

def isKeyword : Kind → Bool
  | keyword _ => true
  | _ => false

def isOperator : Kind → Bool
  | operator _ => true
  | _ => false

def isLiteral : Kind → Bool
  | intLiteral | longLiteral | floatLiteral | doubleLiteral | charLiteral | stringLiteral
  | booleanLiteral | nullLiteral => true
  | _ => false

def name : Kind → String
  | identifier => "Identifier"
  | keyword word => word.name
  | intLiteral => "IntLiteral"
  | longLiteral => "LongLiteral"
  | floatLiteral => "FloatLiteral"
  | doubleLiteral => "DoubleLiteral"
  | charLiteral => "CharLiteral"
  | stringLiteral => "StringLiteral"
  | booleanLiteral => "BooleanLiteral"
  | nullLiteral => "NullLiteral"
  | operator symbol => symbol.name
  | comment style => "Comment(" ++ style.name ++ ")"
  | eof => "Eof"
  | error => "Error"

/-- How a message mentions a kind: fixed text in quotes, anything else by description. -/
def label : Kind → String
  | identifier => "<identifier>"
  | keyword word => "'" ++ word.spelling ++ "'"
  | intLiteral => "<int literal>"
  | longLiteral => "<long literal>"
  | floatLiteral => "<float literal>"
  | doubleLiteral => "<double literal>"
  | charLiteral => "<character>"
  | stringLiteral => "<string>"
  | booleanLiteral => "BooleanLiteral"
  | nullLiteral => "NullLiteral"
  | operator symbol => "'" ++ symbol.spelling ++ "'"
  | comment _ => "<comment>"
  | eof => "<end of input>"
  | error => "<bad symbol>"

def all : List Kind :=
  [identifier] ++ Keyword.all.map keyword ++
    [intLiteral, longLiteral, floatLiteral, doubleLiteral, charLiteral, stringLiteral,
      booleanLiteral, nullLiteral] ++
    Operator.all.map operator ++
    [comment .line, comment .block, comment .javadoc, eof, error]

def ofName? (text : String) : Option Kind :=
  all.find? (·.name == text)

end Kind

end JavaLex
