import JavaLex.Files
import JavaLex.Report.Diagnostic
import JavaLex.Report.Listing
import JavaLex.Shell.LineEditor
import JavaLex.Shell.OpenInput

/-! # Interactive sessions

A session answers the submissions that a line editor reads for it. A submission is a command, or
source text whose tokens are shown. The session ends at the exit command or at the end of the input.
-/

namespace JavaLex

structure Transcript where
  out : String
  err : String
deriving DecidableEq, Repr, Inhabited

namespace Transcript

def empty : Transcript := ⟨"", ""⟩

def output (text : String) : Transcript := ⟨text, ""⟩

def failure (text : String) : Transcript := ⟨"", text⟩

protected def append (first second : Transcript) : Transcript :=
  ⟨first.out ++ second.out, first.err ++ second.err⟩

instance : Append Transcript := ⟨Transcript.append⟩

end Transcript

def LoadError.report (error : LoadError) : String :=
  styled [.red, .bold] "Error" ++ ": " ++ error.message ++ "\n"

/-! ## Answers -/

def version : String := "0.1.0"

def banner : String :=
  "\n  " ++ styled [.white, .bold] "Javelin Java Lexer" ++ " " ++ Style.dimmed.wrap "v" ++ " " ++
    Style.brightYellow.wrap version ++ "\n  " ++
    Style.dimmed.wrap "Type Java code to see its tokens" ++ "\n\n  " ++
    Style.dimmed.wrap "Type" ++ " " ++ Style.cyan.wrap ".help" ++ " " ++
    Style.dimmed.wrap "for available commands" ++ "\n\n"

def helpLine (style : Style) (entry : String × String) : String :=
  "  " ++ style.wrap (padRight 16 entry.1) ++ " " ++ Style.dimmed.wrap entry.2 ++ "\n"

def keyGuide : List (String × String) :=
  [("Ctrl+C", "Cancel current input"), ("Ctrl+D", "Exit REPL"), ("Tab", "Autocomplete")]

def helpText : String :=
  "\n" ++ styled [.white, .bold] "REPL Commands:" ++ "\n\n" ++
    String.join (Command.guide.map (helpLine .cyan)) ++
    "\n" ++ styled [.white, .bold] "Keyboard Shortcuts:" ++ "\n\n" ++
    String.join (keyGuide.map (helpLine .yellow)) ++ "\n"

def versionText : String :=
  "\n" ++ styled [.brightCyan, .bold] "Javelin" ++ ": " ++ Style.yellow.wrap version ++ "\n\n"

def clearScreen : String := "\x1b[2J\x1b[H"

def missingPath : String :=
  styled [.red, .bold] "Error" ++ ": " ++ Style.cyan.wrap ".load" ++ " " ++
    Style.dimmed.wrap "requires a file path" ++ "\n"

def endOfInput : String :=
  Style.dimmed.wrap "^D" ++ "\n"

/-! ## Sessions -/

structure Session where
  options : Options
  /-- Submissions tokenized so far. -/
  count : Nat
deriving DecidableEq, Repr, Inhabited

inductive Reply where
  | print (transcript : Transcript)
  /-- Scan the unit and show it. -/
  | scan (source : SourceUnit)
  /-- Read the unit at the path and show it. -/
  | load (path : String)
  | exit
deriving DecidableEq, Repr

namespace Session

def start (options : Options) : Session := ⟨options, 0⟩

def showUnit (session : Session) (source : SourceUnit) : Transcript :=
  let unit := source.tokenize session.options
  ⟨listTokens true unit.tokens, unit.diagnostics⟩

def showLoaded (session : Session) : Except LoadError SourceUnit → Transcript
  | .ok source => session.showUnit source
  | .error error => .failure error.report

def toggleComments (session : Session) : Session :=
  { session with
    options := { session.options with keepComments := !session.options.keepComments } }

def commentsText (session : Session) : String :=
  Style.dimmed.wrap "comments:" ++ " " ++
    Style.yellow.wrap (if session.options.keepComments then "on" else "off") ++ "\n"

def nextUnit (session : Session) (text : List Char) : SourceUnit :=
  ⟨"<repl:" ++ toString (session.count + 1) ++ ">", String.ofList text⟩

def obey (session : Session) (argument : Option (List Char)) : Command → Reply × Session
  | .help => (.print (.output helpText), session)
  | .exit => (.exit, session)
  | .clear => (.print (.output clearScreen), session)
  | .version => (.print (.output versionText), session)
  | .load =>
      match argument with
      | some path => (.load (String.ofList path), session)
      | none => (.print (.failure missingPath), session)
  | .comments =>
      (.print (.output session.toggleComments.commentsText), session.toggleComments)

/-- Answers a submission; blank ones have no answer. -/
def respond (session : Session) (text : List Char) : Reply × Session :=
  if (Charset.trim text).isEmpty then
    (.print .empty, session)
  else
    match Command.parse? text with
    | some (command, argument) => session.obey argument command
    | none =>
        (.scan (session.nextUnit text), { session with count := session.count + 1 })

def writes (directory : Directory) (session : Session) : Reply → Transcript
  | .print transcript => transcript
  | .scan source => session.showUnit source
  | .load path => session.showLoaded (directory.load path)
  | .exit => .empty

/-- Answers submissions up to the exit command, or up to the end of the input. -/
def answer (directory : Directory) (session : Session) : List (List Char) → Transcript
  | [] => .output endOfInput
  | text :: texts =>
      match session.respond text with
      | (.exit, _) => .empty
      | (reply, later) => session.writes directory reply ++ later.answer directory texts

def run (editor : LineEditor) (directory : Directory) (options : Options) (input : List Char) :
    Transcript :=
  .output banner ++
    (start options).answer directory (editor.submissions (isIncomplete options) input) ++
    .output "\n"

end Session

end JavaLex
