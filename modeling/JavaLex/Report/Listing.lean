import JavaLex.Charset.Spelling
import JavaLex.Report.Style
import JavaLex.Scanner

/-! # Token listings

One line for each token, `line:column  Kind  text`, and one closing line for a unit. Texts are
spelled so that none breaks its line.
-/

namespace JavaLex

def Token.listed (token : Token) : String :=
  String.ofList (Charset.listing token.text.toList)

def listingLine (place kind text : String) : String :=
  place ++ "  " ++ padRight 24 kind ++ " " ++ text ++ "\n"

def Token.plainLine (token : Token) : String :=
  listingLine (padLeft 8 token.position.label) token.kind.name token.listed

def Token.colouredLine (token : Token) : String :=
  listingLine (Style.dimmed.wrap (padLeft 8 token.position.label)) token.kind.name
    (paint token.kind.category token.listed)

def listTokens (coloured : Bool) (tokens : List Token) : String :=
  String.join ((tokens.filter (!·.isEof)).map fun token =>
    if coloured then token.colouredLine else token.plainLine)

def ScannedUnit.tokenCount (unit : ScannedUnit) : Nat :=
  (unit.tokens.filter (!·.isEof)).length

/-- The closing line of a unit: its name, the number of tokens and the number of errors. -/
def ScannedUnit.summary (unit : ScannedUnit) : String :=
  let status :=
    if unit.hasErrors then Style.red.wrap (toString unit.errors.length ++ " error(s)")
    else Style.green.wrap "ok"
  Style.brightCyan.wrap "==>" ++ " " ++ styled [.white, .bold] unit.source.name ++ ": " ++
    toString unit.tokenCount ++ " tokens, " ++ status ++ "\n"

end JavaLex
