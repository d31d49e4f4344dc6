import JavaLex.Token.Kind
import JavaLex.Token.Literal

/-! # Reserved words

Words that cannot be identifiers: the keywords, the underscore unless it is allowed, and the words
`true`, `false` and `null`, which are literals.
-/

namespace JavaLex.Reserved

def table (allowUnderscore : Bool) : List (String × Kind) :=
  Keyword.words.map (fun word => (word.spelling, .keyword word)) ++
    (if allowUnderscore then [] else [(Keyword.underscore.spelling, .keyword .underscore)]) ++
    [("true", .booleanLiteral), ("false", .booleanLiteral), ("null", .nullLiteral)]

def lookup? (allowUnderscore : Bool) (text : String) : Option Kind :=
  ((table allowUnderscore).find? (·.1 == text)).map (·.2)

def classify (allowUnderscore : Bool) (text : String) : Kind × Option Literal :=
  match lookup? allowUnderscore text with
  | some .booleanLiteral => (.booleanLiteral, some (.bool (text == "true")))
  | some .nullLiteral => (.nullLiteral, some .null)
  | some kind => (kind, none)
  | none => (.identifier, none)

/-- Every reserved word, in code point order. -/
def words (allowUnderscore : Bool) : List String :=
  ((table allowUnderscore).map (·.1)).mergeSort fun a b => decide (a ≤ b)

end JavaLex.Reserved
