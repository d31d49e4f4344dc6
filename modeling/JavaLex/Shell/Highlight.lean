import JavaLex.Report.Style
import JavaLex.Scanner
import JavaLex.Shell.Command

/-! # Highlighting

What a session shows while a line is typed: its tokens in colour.
-/

namespace JavaLex

def SourceUnit.ofChars (text : List Char) : SourceUnit :=
  ⟨SourceUnit.anonymous, String.ofList text⟩

def paintTokens (offset : Nat) (text : List Char) : List Token → String
  | [] => String.ofList text
  | token :: tokens =>
      let gap := token.span.start - offset
      let rest := dropBytes gap text
      String.ofList (takeBytes gap text) ++
        paint token.kind.category (String.ofList (takeBytes token.span.size rest)) ++
        paintTokens token.span.stop (dropBytes token.span.size rest) tokens

/-- A line in colour: a command as a whole, source text token by token. -/
def highlight (options : Options) (line : List Char) : String :=
  if (Command.parse? line).isSome then
    Style.magenta.wrap (String.ofList line)
  else
    let unit := (SourceUnit.ofChars line).tokenize { options with keepComments := true }
    paintTokens 0 line (unit.tokens.filter (!·.isEof))

end JavaLex
