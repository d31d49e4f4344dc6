import JavaLex.Lexeme
import JavaLex.Names
import JavaLex.Source.Cursor
import JavaLex.Source.Unit
import JavaLex.Token.Basic
import JavaLex.Token.Reserved

/-! # Scanning a source unit

A scanner hands out the tokens of a unit one by one, and the sentinel for ever after. The errors of
a token are those of its lexeme together with the malformed escapes within it, in source order; the
token carries the first. An error that is not recoverable ends the scan.
-/

namespace JavaLex

structure Options where
  /-- Comments are tokens. -/
  keepComments : Bool
  /-- A lone underscore is an identifier. -/
  allowUnderscore : Bool
deriving DecidableEq, Repr, Inhabited

/-- Comments are skipped and the underscore is reserved. -/
def Options.usual : Options := ⟨false, false⟩

def Outcome.faults : Outcome → List Fault
  | .faulty faults => faults
  | _ => []

def Cursor.lexeme (cursor : Cursor) (c : Char) (rest : List Char) : Lexeme :=
  if cursor.atMalformed then Lexeme.malformedEscape rest else Lexeme.read c rest

theorem Cursor.size_lexeme_pos (cursor : Cursor) (c : Char) (rest : List Char) :
    0 < (cursor.lexeme c rest).size := by
  unfold Cursor.lexeme
  split
  · exact Lexeme.size_malformedEscape_pos rest
  · exact Lexeme.size_read_pos c rest

/-- Everything wrong with a lexeme, in source order; at one place the escape comes first. -/
def Cursor.faults (cursor : Cursor) (lexeme : Lexeme) : List Fault :=
  ((cursor.malformedWithin lexeme.size).map (Fault.of .malformedEscape) ++
    lexeme.outcome.faults).mergeSort fun a b => a.index ≤ b.index

def Fault.locate (cursor : Cursor) (fault : Fault) : LexicalError :=
  ⟨fault.cause, (cursor.advance fault.index).position, fault.recoverable⟩

structure Scanner where
  source : SourceUnit
  options : Options
  cursor : Cursor
  /-- The names of the identifiers so far. -/
  names : NameTable
  /-- The errors so far, in source order. -/
  errors : List LexicalError
  /-- Only the sentinel is left. -/
  exhausted : Bool

namespace Scanner

def start (options : Options) (source : SourceUnit) : Scanner where
  source := source
  options := options
  cursor := Cursor.ofCells (Cell.translate source.chars)
  names := .empty
  errors := []
  exhausted := false

def lastErrorPosition? (scanner : Scanner) : Option Position :=
  scanner.errors.getLast?.map (·.position)

def acceptWord (scanner : Scanner) (token : Token) : Token × Scanner :=
  let (kind, value) := Reserved.classify scanner.options.allowUnderscore token.text
  if kind == .identifier then
    let (name, names) := scanner.names.intern token.text
    ({ token with kind := kind, name := some name }, { scanner with names := names })
  else
    ({ token with kind := kind, value := value }, scanner)

/-- Moves past a lexeme with the given errors, which gives a token unless it is a comment that is
skipped. -/
def acceptWith (scanner : Scanner) (here : Cursor) (lexeme : Lexeme)
    (errors : List LexicalError) : Option Token × Scanner :=
  let next := here.advance lexeme.size
  let text := String.ofList (here.chars.take lexeme.size)
  let span : Span := ⟨here.position.offset, next.position.offset⟩
  let scanner := { scanner with cursor := next }
  match errors with
  | first :: more =>
      (some (.ofError first text span here.position),
        { scanner with
          errors := scanner.errors ++ first :: more
          exhausted := !(first :: more).all (·.recoverable) })
  | [] =>
      match lexeme.outcome with
      | .token kind value =>
          (some { Token.plain kind text span here.position with value := value }, scanner)
      | .word =>
          let (token, scanner) :=
            scanner.acceptWord (.plain .identifier text span here.position)
          (some token, scanner)
      | .comment style =>
          if scanner.options.keepComments then
            (some (.plain (.comment style) text span here.position), scanner)
          else
            (none, scanner)
      | .faulty _ => (none, scanner)

def accept (scanner : Scanner) (here : Cursor) (lexeme : Lexeme) : Option Token × Scanner :=
  scanner.acceptWith here lexeme ((here.faults lexeme).map (Fault.locate here))

theorem cursor_acceptWith (scanner : Scanner) (here : Cursor) (lexeme : Lexeme)
    (errors : List LexicalError) :
    (scanner.acceptWith here lexeme errors).2.cursor = here.advance lexeme.size := by
  unfold acceptWith
  dsimp only
  split
  · rfl
  · split
    · rfl
    · unfold acceptWord
      dsimp only
      split <;> rfl
    · split <;> rfl
    · rfl

theorem cursor_accept (scanner : Scanner) (here : Cursor) (lexeme : Lexeme) :
    (scanner.accept here lexeme).2.cursor = here.advance lexeme.size :=
  scanner.cursor_acceptWith here lexeme _

def atLexeme (scanner : Scanner) : Cursor :=
  scanner.cursor.advance (Charset.blankSize scanner.cursor.chars)

theorem length_chars_lt_of_cursor_eq {scanner later : Scanner} {c : Char} {rest : List Char}
    {size : Nat} (chars : scanner.atLexeme.chars = c :: rest) (positive : 0 < size)
    (moved : later.cursor = scanner.atLexeme.advance size) :
    later.cursor.chars.length < scanner.cursor.chars.length := by
  have left : scanner.atLexeme.chars.length ≤ scanner.cursor.chars.length := by simp [atLexeme]
  rw [moved, Cursor.chars_advance, chars, List.length_drop, List.length_cons]
  rw [chars, List.length_cons] at left
  omega

theorem length_chars_lt_of_accept {scanner later : Scanner} {token : Option Token} {c : Char}
    {rest : List Char} (chars : scanner.atLexeme.chars = c :: rest)
    (accepted : scanner.accept scanner.atLexeme (scanner.atLexeme.lexeme c rest) = (token, later)) :
    later.cursor.chars.length < scanner.cursor.chars.length := by
  apply length_chars_lt_of_cursor_eq chars (scanner.atLexeme.size_lexeme_pos c rest)
  obtain ⟨-, rfl⟩ := Prod.mk.inj accepted
  exact scanner.cursor_accept _ _

def scan (scanner : Scanner) : Token × Scanner :=
  match _chars : scanner.atLexeme.chars with
  | [] =>
      (.eof scanner.atLexeme.position,
        { scanner with cursor := scanner.atLexeme, exhausted := true })
  | c :: rest =>
      match _accepted : scanner.accept scanner.atLexeme (scanner.atLexeme.lexeme c rest) with
      | (some token, later) => (token, later)
      | (none, later) => later.scan
termination_by scanner.cursor.chars.length
decreasing_by exact length_chars_lt_of_accept _chars _accepted

theorem length_chars_scan_lt (scanner : Scanner) (h : scanner.scan.1.isEof = false) :
    scanner.scan.2.cursor.chars.length < scanner.cursor.chars.length := by
  fun_induction scan scanner with
  | case1 scanner _ => simp [Token.eof, Token.isEof, Token.plain] at h
  | case2 scanner c rest chars token later accepted =>
      exact length_chars_lt_of_accept chars accepted
  | case3 scanner c rest chars later accepted ih =>
      exact Nat.lt_trans (ih h) (length_chars_lt_of_accept chars accepted)

/-- The next token; the sentinel once the scan is exhausted. -/
def next (scanner : Scanner) : Token × Scanner :=
  if scanner.exhausted then (.eof scanner.source.endPosition, scanner) else scanner.scan

def callsLeft (scanner : Scanner) : Nat :=
  if scanner.exhausted then 0 else scanner.cursor.chars.length + 1

theorem callsLeft_next_lt (scanner : Scanner) (h : scanner.next.1.isEof = false) :
    scanner.next.2.callsLeft < scanner.callsLeft := by
  unfold next at h ⊢
  split at h
  · simp [Token.eof, Token.isEof, Token.plain] at h
  · have shorter := scanner.length_chars_scan_lt h
    have bound : scanner.scan.2.callsLeft ≤ scanner.scan.2.cursor.chars.length + 1 := by
      unfold callsLeft
      split <;> omega
    simp_all [callsLeft]
    omega

/-- The tokens left, with the sentinel as the last, and the scan after them. -/
def remaining (scanner : Scanner) : List Token × Scanner :=
  match _next : scanner.next with
  | (token, later) =>
      if _ended : token.isEof then
        ([token], later)
      else
        let (tokens, last) := later.remaining
        (token :: tokens, last)
termination_by scanner.callsLeft
decreasing_by
  have := scanner.callsLeft_next_lt (by simp_all)
  simp_all

end Scanner

structure ScannedUnit where
  source : SourceUnit
  /-- The tokens, with the sentinel as the last. -/
  tokens : List Token
  /-- The errors in source order. -/
  errors : List LexicalError
  /-- The names of the identifiers. -/
  names : NameTable

def ScannedUnit.hasErrors (unit : ScannedUnit) : Bool :=
  !unit.errors.isEmpty

def Scanner.finish (scanner : Scanner) : ScannedUnit :=
  let (tokens, last) := scanner.remaining
  ⟨last.source, tokens, last.errors, last.names⟩

def SourceUnit.tokenize (source : SourceUnit) (options : Options) : ScannedUnit :=
  (Scanner.start options source).finish

def tokenizeStrict (text : String) : Except LexicalError (List Token) :=
  let unit := (SourceUnit.mk SourceUnit.anonymous text).tokenize .usual
  match unit.errors with
  | [] => .ok unit.tokens
  | error :: _ => .error error

end JavaLex
