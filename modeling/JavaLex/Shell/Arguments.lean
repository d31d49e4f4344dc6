import JavaLex.Shell.Invocation

/-! # Command line arguments -/

namespace JavaLex

inductive ArgumentError where
  | unknown (argument : String)
  | missingValue (option : String)
deriving DecidableEq, Repr, Inhabited

def ArgumentError.message : ArgumentError → String
  | unknown argument => "unexpected argument '" ++ argument ++ "'"
  | missingValue option => "a value is required for '" ++ option ++ "'"

namespace Invocation

def bare : Invocation := ⟨none, [], false, .usual, false⟩

def inlineValue? (option argument : String) : Option String :=
  let start := option.toList ++ ['=']
  if start.isPrefixOf argument.toList then
    some (String.ofList (argument.toList.drop start.length))
  else
    none

/-- Adds arguments to an invocation. After two dashes every argument is a path. -/
def withArguments (invocation : Invocation) :
    List String → Except ArgumentError Invocation
  | [] => .ok invocation
  | argument :: rest =>
      if argument == "--" then
        .ok { invocation with paths := invocation.paths ++ rest }
      else if argument == "-e" || argument == "--eval" then
        match rest with
        | code :: rest => { invocation with code := some code }.withArguments rest
        | [] => .error (.missingValue argument)
      else if argument == "-i" || argument == "--interactive" || argument == "--repl" then
        { invocation with interactive := true }.withArguments rest
      else if argument == "--keep-comments" then
        { invocation with
          options := { invocation.options with keepComments := true } }.withArguments rest
      else if argument == "--allow-underscore" then
        { invocation with
          options := { invocation.options with allowUnderscore := true } }.withArguments rest
      else if argument == "--summary" then
        { invocation with summary := true }.withArguments rest
      else if argument == "--verbose" then
        invocation.withArguments rest
      else
        match inlineValue? "--eval" argument with
        | some code => { invocation with code := some code }.withArguments rest
        | none =>
            if argument.toList.head? == some '-' && argument != "-" then
              .error (.unknown argument)
            else
              { invocation with paths := invocation.paths ++ [argument] }.withArguments rest

end Invocation

end JavaLex
