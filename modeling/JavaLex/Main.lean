import JavaLex.Shell.Arguments

/-! # The program

Reads files and standard input, and leaves everything else to the library.
-/

namespace JavaLex

def Transcript.emit (transcript : Transcript) : IO Unit := do
  IO.print transcript.out
  IO.eprint transcript.err
  (← IO.getStdout).flush

def FileError.ofSystem : IO.Error → FileError
  | .inappropriateType _ code _ => if code == 21 then .isDirectory else .notDirectory
  | .invalidArgument _ code _ => if code == 22 then .holdsNul else .nameTooLong
  | _ => .notFound

def readUnit (path : String) : IO (Except LoadError SourceUnit) := do
  try
    let content ← IO.FS.readBinFile path
    match Directory.decode content with
    | .ok text => return .ok ⟨path, text⟩
    | .error cause => return .error ⟨path, cause⟩
  catch error =>
    return .error ⟨path, .ofSystem error⟩

partial def converse (session : Session) (pending : List Char) : IO Unit := do
  let line ← (← IO.getStdin).getLine
  match InputLine.first? line.toList with
  | none => IO.print endOfInput
  | some (line, _) =>
      let text := pending ++ line.text
      if isIncomplete session.options text then
        converse session (text ++ line.terminator)
      else
        match session.respond text with
        | (.exit, _) => return
        | (.print transcript, later) =>
            transcript.emit
            converse later []
        | (.scan source, later) =>
            (session.showUnit source).emit
            converse later []
        | (.load path, later) =>
            (session.showLoaded (← readUnit path)).emit
            converse later []

def Invocation.perform (invocation : Invocation) : IO Nat := do
  match invocation.code with
  | some code =>
      let result := invocation.showUnit ⟨"<eval>", code⟩
      result.transcript.emit
      return result.status
  | none =>
      if !invocation.paths.isEmpty && !invocation.interactive then
        let result := invocation.showLoaded (← invocation.paths.mapM readUnit)
        result.transcript.emit
        return result.status
      else
        IO.print banner
        converse (.start invocation.options) []
        IO.println ""
        return 0

end JavaLex

def main (arguments : List String) : IO UInt32 := do
  match JavaLex.Invocation.bare.withArguments arguments with
  | .ok invocation => return (← invocation.perform).toUInt32
  | .error error =>
      IO.eprintln ("error: " ++ error.message)
      return 2
