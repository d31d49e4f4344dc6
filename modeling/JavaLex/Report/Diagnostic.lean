import JavaLex.Report.Style
import JavaLex.Scanner

/-! # Diagnostics

An error is shown with the source line it stands on and a caret below the character at its column.
-/

namespace JavaLex

/-- The blanks before a caret: as wide as the characters before its column, with their tabs. -/
def caretIndent (line : List Char) (column : Nat) : List Char :=
  (line.take (column - 1)).map fun c => if c == '\t' then '\t' else ' '

def SourceUnit.diagnostic (source : SourceUnit) (error : LexicalError) : String :=
  let heading :=
    source.name ++ ":" ++ error.position.label ++ ": " ++ styled [.red, .bold] "error" ++ ": " ++
      error.cause.message ++ "\n"
  match source.lineText? error.position.line with
  | none => heading
  | some line =>
      heading ++ "    " ++ String.ofList line ++ "\n" ++
        "    " ++ String.ofList (caretIndent line error.position.column) ++
          styled [.red, .bold] "^" ++ "\n"

def ScannedUnit.diagnostics (unit : ScannedUnit) : String :=
  String.join (unit.errors.map unit.source.diagnostic)

end JavaLex
