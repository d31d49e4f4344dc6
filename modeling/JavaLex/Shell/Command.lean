import JavaLex.Charset.Blank

/-! # Commands of a session

A command is a dot and a name, in either case of letters, and perhaps an argument after white
space. Anything else is source text.
-/

namespace JavaLex

inductive Command where
  | help
  | exit
  | clear
  | version
  | load
  | comments
deriving DecidableEq, Repr, Inhabited

namespace Command

def guide : List (String × String) :=
  [(".help", "Show this help message"),
   (".exit", "Exit the REPL"),
   (".clear", "Clear the screen"),
   (".version", "Show version information"),
   (".load <file>", "Tokenize a Java source file"),
   (".comments", "Toggle emitting comments as tokens")]

def ofName? (name : String) : Option Command :=
  match name with
  | "help" | "h" | "?" => some help
  | "exit" | "quit" | "q" => some exit
  | "clear" | "cls" => some clear
  | "version" | "v" => some version
  | "load" | "l" => some load
  | "comments" | "c" => some comments
  | _ => none

/-- The command that a text gives, with its argument. Names hold ASCII letters only, so only those
are taken to lower case. -/
def parse? (text : List Char) : Option (Command × Option (List Char)) :=
  match Charset.trim text with
  | '.' :: rest =>
      let name := rest.takeWhile (!Charset.isWhiteSpace ·)
      let argument := Charset.trim (rest.drop name.length)
      (ofName? (String.ofList (name.map Char.toLower))).map fun command =>
        (command, if argument.isEmpty then none else some argument)
  | _ => none

end Command

end JavaLex
