import JavaLex.Shell.Session

/-! # Invocations

The program tokenizes a piece of code, some files, or what is typed in a session. Its exit status
says whether everything was read and free of lexical errors.
-/

namespace JavaLex

structure Invocation where
  /-- Code to tokenize, which wins over everything else. -/
  code : Option String
  /-- Files to tokenize, unless a session is asked for. -/
  paths : List String
  interactive : Bool
  options : Options
  /-- Units are shown by their closing lines only. -/
  summary : Bool
deriving DecidableEq, Repr, Inhabited

structure RunResult where
  transcript : Transcript
  clean : Bool
deriving DecidableEq, Repr, Inhabited

def RunResult.status (result : RunResult) : Nat :=
  if result.clean then 0 else 1

namespace Invocation

/-- Shows a unit: its tokens unless only the closing line is wanted, that line, and its errors. -/
def showUnit (invocation : Invocation) (source : SourceUnit) : RunResult :=
  let unit := source.tokenize invocation.options
  let listing := if invocation.summary then "" else listTokens false unit.tokens
  ⟨⟨listing ++ unit.summary, unit.diagnostics⟩, !unit.hasErrors⟩

/-- Shows what was loaded: first the paths that could not be read, then the units, in order. -/
def showLoaded (invocation : Invocation) (loaded : List (Except LoadError SourceUnit)) :
    RunResult :=
  let errors := loaded.filterMap fun
    | .error error => some error
    | .ok _ => none
  let shown := loaded.filterMap fun
    | .ok source => some (invocation.showUnit source)
    | .error _ => none
  ⟨⟨String.join (shown.map (·.transcript.out)),
      String.join (errors.map LoadError.report) ++ String.join (shown.map (·.transcript.err))⟩,
    errors.isEmpty && shown.all (·.clean)⟩

def run (invocation : Invocation) (directory : Directory) (input : List Char) : RunResult :=
  match invocation.code with
  | some code => invocation.showUnit ⟨"<eval>", code⟩
  | none =>
      if !invocation.paths.isEmpty && !invocation.interactive then
        invocation.showLoaded (invocation.paths.map directory.load)
      else
        ⟨Session.run .piped directory invocation.options input, true⟩

end Invocation

end JavaLex
