import JavaLex.Scanner

/-! # Pending escapes

A scanner that does not look at the marks of its cells. It has a list of the malformed escapes of
its unit instead, in the order of their cells, and points to the first that it has not reported.
-/

namespace JavaLex

/-- The malformed escapes of a unit, each with the index of its cell. Those before `next` have been
reported. -/
structure PendingEscapes where
  escapes : List (Nat × LexicalError)
  next : Nat

namespace PendingEscapes

def reported (pending : PendingEscapes) : List (Nat × LexicalError) :=
  pending.escapes.take pending.next

/-- The next escape is the one at the index. -/
def isAt (pending : PendingEscapes) (index : Nat) : Bool :=
  pending.escapes[pending.next]?.any (·.1 == index)

/-- Moves the pointer past the escapes before `stop`, and gives their errors. -/
def take (pending : PendingEscapes) (stop : Nat) : List LexicalError × PendingEscapes :=
  match _found : pending.escapes[pending.next]? with
  | none => ([], pending)
  | some (index, error) =>
      if stop ≤ index then
        ([], pending)
      else
        let (errors, later) := take { pending with next := pending.next + 1 } stop
        (error :: errors, later)
termination_by pending.escapes.length - pending.next
decreasing_by
  have within := (List.getElem?_eq_some_iff.mp _found).choose
  omega

end PendingEscapes

/-- A scanner with the index of its cell and its pending escapes. -/
structure PendingScanner where
  base : Scanner
  index : Nat
  pending : PendingEscapes

namespace PendingScanner

def start (options : Options) (source : SourceUnit) (escapes : List (Nat × LexicalError)) :
    PendingScanner :=
  ⟨.start options source, 0, ⟨escapes, 0⟩⟩

def first (scanner : PendingScanner) : Nat :=
  scanner.index + Charset.blankSize scanner.base.cursor.chars

/-- The lexeme before `c :: rest`; the next escape is looked for among the pending ones. -/
def lexeme (scanner : PendingScanner) (c : Char) (rest : List Char) : Lexeme :=
  if scanner.pending.isAt scanner.first then Lexeme.malformedEscape rest else Lexeme.read c rest

/-- Moves past a lexeme. The escapes before its end are reported along with its own faults, in the
order of the raw text. -/
def accept (scanner : PendingScanner) (lexeme : Lexeme) : Option Token × PendingScanner :=
  let here := scanner.base.atLexeme
  let stop := scanner.first + lexeme.size
  let (escapes, pending) := scanner.pending.take stop
  let errors := (escapes ++ lexeme.outcome.faults.map (Fault.locate here)).mergeSort
    fun a b => a.position.offset ≤ b.position.offset
  let (token, later) := scanner.base.acceptWith here lexeme errors
  (token, ⟨later, stop, pending⟩)

theorem size_lexeme_pos (scanner : PendingScanner) (c : Char) (rest : List Char) :
    0 < (scanner.lexeme c rest).size := by
  unfold lexeme
  split
  · exact Lexeme.size_malformedEscape_pos rest
  · exact Lexeme.size_read_pos c rest

theorem length_chars_lt_of_accept {scanner later : PendingScanner} {token : Option Token} {c : Char}
    {rest : List Char} (chars : scanner.base.atLexeme.chars = c :: rest)
    (accepted : scanner.accept (scanner.lexeme c rest) = (token, later)) :
    later.base.cursor.chars.length < scanner.base.cursor.chars.length := by
  apply Scanner.length_chars_lt_of_cursor_eq chars (scanner.size_lexeme_pos c rest)
  obtain ⟨-, rfl⟩ := Prod.mk.inj accepted
  exact scanner.base.cursor_acceptWith _ _ _

def scan (scanner : PendingScanner) : Token × PendingScanner :=
  match _chars : scanner.base.atLexeme.chars with
  | [] =>
      (.eof scanner.base.atLexeme.position,
        ⟨{ scanner.base with cursor := scanner.base.atLexeme, exhausted := true }, scanner.first,
          scanner.pending⟩)
  | c :: rest =>
      match _accepted : scanner.accept (scanner.lexeme c rest) with
      | (some token, later) => (token, later)
      | (none, later) => later.scan
termination_by scanner.base.cursor.chars.length
decreasing_by exact length_chars_lt_of_accept _chars _accepted

def next (scanner : PendingScanner) : Token × PendingScanner :=
  if scanner.base.exhausted then (.eof scanner.base.source.endPosition, scanner) else scanner.scan

def calls (scanner : PendingScanner) : Nat → List Token × PendingScanner
  | 0 => ([], scanner)
  | count + 1 =>
      let (tokens, later) := scanner.calls count
      (tokens ++ [later.next.1], later.next.2)

end PendingScanner

end JavaLex
