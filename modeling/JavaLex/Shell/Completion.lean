import JavaLex.Charset.Alphanumeric
import JavaLex.Report.Style
import JavaLex.Shell.Command
import JavaLex.Source.Text
import JavaLex.Token.Reserved

/-! # Completion and hints

The word before the caret is completed from a fixed list: the reserved words, some common names
and the commands. The caret is a byte offset into the line. A word starts one byte after the first
byte of the separator before it; behind a separator of several bytes that is inside a character,
and there is neither completion nor hint.
-/

namespace JavaLex.Completion

/-- Names that are completed although they are not reserved. -/
def commonNames : List String :=
  ["String", "Object", "System", "System.out.println", "Integer", "List", "Map"]

def commandNames : List String :=
  Command.guide.map fun entry => String.ofList (entry.1.toList.takeWhile (· != ' '))

def words (allowUnderscore : Bool) : List String :=
  ((Reserved.words allowUnderscore ++ commonNames ++ commandNames).mergeSort
    fun a b => decide (a ≤ b)).eraseReps

def isWordPart (c : Char) : Bool :=
  Charset.alphanumeric.covers c.toNat || c == '_' || c == '$' || c == '.'

def wordStart (before : List Char) : Nat :=
  let kept := (before.reverse.dropWhile isWordPart).reverse
  match kept.getLast? with
  | none => 0
  | some separator => byteSize kept - separator.utf8Size + 1

/-- Where the word before the caret starts, if the caret is between characters. -/
def wordStart? (line : List Char) (caret : Nat) : Option Nat :=
  (slice? 0 caret line).map wordStart

def word? (line : List Char) (caret : Nat) : Option (List Char) := do
  let start ← wordStart? line caret
  slice? start caret line

/-- A word that begins with what is typed, and the rest of it. -/
structure Candidate where
  display : String
  replacement : String
deriving DecidableEq, Repr, Inhabited

def candidates (words : List String) (word : List Char) : List Candidate :=
  (words.filter fun entry => word.isPrefixOf entry.toList).map fun entry =>
    ⟨entry, String.ofList (entry.toList.drop word.length)⟩

/-- The completions at the caret; an empty word has none. -/
def complete? (words : List String) (line : List Char) (caret : Nat) : Option (List Candidate) :=
  (word? line caret).map fun word => if word.isEmpty then [] else candidates words word

def continuation? (words : List String) (word : List Char) : Option String :=
  (words.find? fun entry =>
      word.isPrefixOf entry.toList && word.length < entry.toList.length).map fun entry =>
    String.ofList (entry.toList.drop word.length)

/-- The hint shown after a caret at the end of the line, for a word of two bytes or more. -/
def hint? (words : List String) (line : List Char) (caret : Nat) : Option (Option String) :=
  if caret < byteSize line then
    some none
  else
    (word? line caret).map fun word =>
      if byteSize word < 2 then none else (continuation? words word).map Style.dimmed.wrap

end JavaLex.Completion
