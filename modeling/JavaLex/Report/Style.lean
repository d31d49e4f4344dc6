import JavaLex.Token.Kind

/-! # Terminal colours

A style wraps a text between two control sequences. Styles nest, and an empty text keeps its
sequences.
-/

namespace JavaLex

inductive Style where
  | red | green | yellow | blue | magenta | cyan | white | brightCyan | brightYellow
  | bold | dimmed | underline
deriving DecidableEq, Repr, Inhabited

namespace Style

def opening : Style → Nat
  | bold => 1
  | dimmed => 2
  | underline => 4
  | red => 31
  | green => 32
  | yellow => 33
  | blue => 34
  | magenta => 35
  | cyan => 36
  | white => 37
  | brightYellow => 93
  | brightCyan => 96

/-- The number that switches a style off: effects end together, colours return to the usual one. -/
def closing : Style → Nat
  | bold | dimmed | underline => 0
  | _ => 39

def sequence (code : Nat) : String :=
  "\x1b[" ++ toString code ++ "m"

def wrap (style : Style) (text : String) : String :=
  sequence style.opening ++ text ++ sequence style.closing

end Style

/-- A text in several styles, the first one innermost. -/
def styled (styles : List Style) (text : String) : String :=
  styles.foldl (fun text style => style.wrap text) text

def Category.styles : Category → List Style
  | .keyword => [.magenta, .bold]
  | .integer | .floating => [.yellow]
  | .string | .character => [.green]
  | .boolean | .null => [.blue]
  | .operator => [.cyan]
  | .punctuation => [.yellow, .dimmed]
  | .comment => [.dimmed]
  | .error => [.red, .underline]
  | .identifier | .eof => []

def paint (category : Category) (text : String) : String :=
  styled category.styles text

def padLeft (width : Nat) (text : String) : String :=
  String.ofList (List.replicate (width - text.length) ' ') ++ text

def padRight (width : Nat) (text : String) : String :=
  text ++ String.ofList (List.replicate (width - text.length) ' ')

end JavaLex
