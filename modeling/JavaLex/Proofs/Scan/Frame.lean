import JavaLex.Proofs.Front.LineEnd
import JavaLex.Proofs.Scan.Calls
import JavaLex.Proofs.Scan.Extent

/-! # A text within a longer one

A text that stands in a longer one, at its end or before a line feed, is scanned there as it is by
itself. Only the places are moved, and the indices of names differ.
-/

namespace JavaLex

open Charset

/-! ## Moved places -/

/-- How far into a longer text another one begins. -/
structure Shift where
  bytes : Nat
  lines : Nat
deriving DecidableEq, Repr

/-- The place in the longer text, where the other one begins at the start of a line. -/
def Position.moved (shift : Shift) (p : Position) : Position :=
  ⟨p.offset + shift.bytes, p.line + shift.lines, p.column⟩

def Span.moved (shift : Shift) (span : Span) : Span :=
  ⟨span.start + shift.bytes, span.stop + shift.bytes⟩

def LexicalError.moved (shift : Shift) (error : LexicalError) : LexicalError :=
  { error with position := error.position.moved shift }

def Token.moved (shift : Shift) (token : Token) : Token :=
  { token with
    span := token.span.moved shift
    line := token.line + shift.lines
    error := token.error.map (LexicalError.moved shift) }

def Token.nameless (token : Token) : Token :=
  { token with name := none }

theorem Position.after_moved (shift : Shift) (p : Position) (cell : Cell) (next : Option Cell) :
    (p.moved shift).after cell next = (p.after cell next).moved shift := by
  simp only [Position.after, Position.moved]
  split
  · simp [Nat.add_right_comm]
  split
  · simp [Nat.add_right_comm]
  split
  · split <;> simp [Nat.add_right_comm]
  · simp [Nat.add_right_comm]

/-! ## Cells at the end of a text -/

/-- The cell is the same at the end of a text and before a line feed: it is no substitute, which
separates tokens only at the end, and no carriage return that the line feed would follow. -/
structure Cell.Settled (cell : Cell) : Prop where
  substitute : cell.char ≠ Charset.substitute
  carriage : cell.char = '\r' → cell.isEscaped = true

theorem Cell.Settled.after_eq {cell : Cell} (settled : cell.Settled) (p : Position)
    (next other : Option Cell) : p.after cell next = p.after cell other := by
  by_cases escaped : cell.isEscaped = true
  · simp [Position.after, escaped]
  · have plain : (cell.char == '\r') = false := by
      apply beq_false_of_ne
      intro same
      exact escaped (settled.carriage same)
    simp [Position.after, plain]

/-- Where a text stands in a longer one: what follows it there, how far its places are moved, and
which errors were reported before it. -/
structure Frame where
  after : List Cell
  shift : Shift
  before : List LexicalError
  lineEnd : after = [] ∨ ∃ more, after = Cell.verbatim '\n' :: more

/-! ## Cursors -/

namespace Cursor

theorem size_lexeme_le (here : Cursor) {c : Char} {rest : List Char}
    (chars : here.chars = c :: rest) : (here.lexeme c rest).size ≤ here.cells.length := by
  have contained := (here.contained_lexeme c rest).size_le
  rwa [← List.length_cons (a := c), ← chars, here.chars_eq, List.length_map] at contained

/-- A cursor in a text and one at the same cell of the longer text. -/
structure Framed (frame : Frame) (inner outer : Cursor) : Prop where
  cells : outer.cells = inner.cells ++ frame.after
  position : outer.position = inner.position.moved frame.shift
  settled : frame.after = [] ∨ ∀ cell, inner.cells.getLast? = some cell → cell.Settled

namespace Framed

variable {frame : Frame} {inner outer : Cursor} {c : Char} {rest : List Char} {lexeme : Lexeme}

theorem chars (framed : Framed frame inner outer) :
    outer.chars = inner.chars ++ frame.after.map Cell.char := by
  rw [outer.chars_eq, inner.chars_eq, framed.cells, List.map_append]

theorem getLast?_chars_ne (framed : Framed frame inner outer) (more : frame.after ≠ []) :
    inner.chars.getLast? ≠ some substitute := by
  intro found
  rw [inner.chars_eq, List.getLast?_map] at found
  obtain ⟨cell, last, same⟩ := Option.map_eq_some_iff.mp found
  exact (framed.settled.resolve_left more cell last).substitute same

theorem step (framed : Framed frame inner outer) (more : inner.cells ≠ []) :
    Framed frame inner.step outer.step := by
  obtain ⟨cell, rest, cells⟩ := List.exists_cons_of_ne_nil more
  have others : outer.cells = cell :: (rest ++ frame.after) := by
    rw [framed.cells, cells, List.cons_append]
  constructor
  · simp [Cursor.step, cells, others]
  · have next : outer.position.after cell (rest ++ frame.after).head? =
        outer.position.after cell rest.head? := by
      cases rest with
      | cons other rest => rfl
      | nil =>
          rcases framed.settled with ends | settled
          · rw [ends]
            rfl
          · exact (settled cell (by rw [cells]; rfl)).after_eq _ _ _
    simp only [Cursor.step, cells, others]
    rw [next, framed.position, Position.after_moved]
  · refine framed.settled.imp_right fun settled last found => settled last ?_
    have left : inner.step.cells = rest := by simp [Cursor.step, cells]
    rw [left] at found
    rw [cells, List.getLast?_cons, found]
    rfl

theorem advance (framed : Framed frame inner outer) {count : Nat}
    (within : count ≤ inner.cells.length) :
    Framed frame (inner.advance count) (outer.advance count) := by
  induction count generalizing inner outer with
  | zero => exact framed
  | succ count ih =>
      have more : inner.cells ≠ [] := by
        rintro none
        simp [none] at within
      rw [advance_succ, advance_succ]
      apply ih (framed.step more)
      simp only [Cursor.step, List.length_tail]
      omega

theorem textOf (framed : Framed frame inner outer) (within : lexeme.size ≤ inner.cells.length) :
    outer.textOf lexeme = inner.textOf lexeme := by
  have length : lexeme.size ≤ inner.chars.length := by rwa [inner.chars_eq, List.length_map]
  rw [Cursor.textOf, Cursor.textOf, framed.chars, List.take_append_of_le_length length]

theorem spanOf (framed : Framed frame inner outer) (within : lexeme.size ≤ inner.cells.length) :
    outer.spanOf lexeme = (inner.spanOf lexeme).moved frame.shift := by
  rw [Cursor.spanOf, Cursor.spanOf, framed.position, (framed.advance within).position]
  rfl

theorem faults (framed : Framed frame inner outer) (within : lexeme.size ≤ inner.cells.length) :
    outer.faults lexeme = inner.faults lexeme := by
  rw [Cursor.faults, Cursor.faults, Cursor.malformedWithin, Cursor.malformedWithin, framed.cells,
    List.take_append_of_le_length within]

/-- A lexeme that goes on after the text would have a fault that ends the scan. -/
theorem lexeme_eq (framed : Framed frame inner outer) (chars : inner.chars = c :: rest)
    (recoverable : frame.after = [] ∨
      ∀ fault ∈ inner.faults (inner.lexeme c rest), fault.recoverable = true) :
    outer.lexeme c (rest ++ frame.after.map Cell.char) = inner.lexeme c rest := by
  have some : inner.cells ≠ [] := by
    rintro none
    rw [inner.chars_eq, none] at chars
    cases chars
  have marked : outer.atMalformed = inner.atMalformed := by
    obtain ⟨cell, cells, whole⟩ := List.exists_cons_of_ne_nil some
    rw [Cursor.atMalformed, Cursor.atMalformed, framed.cells, whole]
    rfl
  rcases frame.lineEnd with ends | ⟨more, goesOn⟩
  · rw [ends, List.map_nil, List.append_nil, Cursor.lexeme, Cursor.lexeme, marked]
  · have closed := recoverable.resolve_left (by rw [goesOn]; exact List.cons_ne_nil _ _)
    rw [goesOn, List.map_cons]
    unfold Cursor.lexeme at closed ⊢
    rw [marked]
    split
    · exact Lexeme.stopsAtLine_malformedEscape rest _
    · next unmarked =>
      rw [if_neg unmarked] at closed
      exact Lexeme.read_append_lineFeed
        (fun fault member => closed fault (mem_faults_iff.mpr (.inr member))) _

theorem errorsOf (framed : Framed frame inner outer) (chars : inner.chars = c :: rest) :
    outer.errorsOf (inner.lexeme c rest) =
      (inner.errorsOf (inner.lexeme c rest)).map (LexicalError.moved frame.shift) := by
  have within := inner.size_lexeme_le chars
  rw [Cursor.errorsOf, Cursor.errorsOf, framed.faults within, List.map_map]
  apply List.map_congr_left
  intro fault member
  have index := index_lt_of_mem_faults member
  have place := (framed.advance (Nat.le_of_lt (Nat.lt_of_lt_of_le index within))).position
  exact congrArg (fun place => LexicalError.mk fault.cause place fault.recoverable) place

end Framed

end Cursor

/-! ## Scanners -/

namespace Scanner

/-- A scanner of a text and one at the same cell of the longer text, with the same errors after
those before the text. -/
structure Framed (frame : Frame) (inner outer : Scanner) : Prop where
  cursor : inner.cursor.Framed frame outer.cursor
  options : outer.options = inner.options
  exhausted : outer.exhausted = inner.exhausted
  errors : outer.errors = frame.before ++ inner.errors.map (LexicalError.moved frame.shift)

namespace Framed

variable {frame : Frame} {inner outer later : Scanner} {c : Char} {rest : List Char}
  {result : Option Token}

theorem blankSize_eq (framed : Framed frame inner outer)
    (more : frame.after = [] ∨ inner.atLexeme.chars ≠ []) :
    blankSize outer.cursor.chars = blankSize inner.cursor.chars := by
  rw [framed.cursor.chars]
  rcases frame.lineEnd with ends | ⟨cells, goesOn⟩
  · rw [ends, List.map_nil, List.append_nil]
  · have left := more.resolve_left (by rw [goesOn]; exact List.cons_ne_nil _ _)
    have last := framed.cursor.getLast?_chars_ne (by rw [goesOn]; exact List.cons_ne_nil _ _)
    have less : blankSize inner.cursor.chars < inner.cursor.chars.length := by
      rw [Scanner.atLexeme, Cursor.chars_advance, ne_eq, List.drop_eq_nil_iff] at left
      omega
    rw [goesOn, List.map_cons]
    exact (blankSize_append_lineFeed _ last).trans (if_pos less)

theorem atLexeme (framed : Framed frame inner outer)
    (more : frame.after = [] ∨ inner.atLexeme.chars ≠ []) :
    inner.atLexeme.Framed frame outer.atLexeme := by
  rw [Scanner.atLexeme, Scanner.atLexeme, framed.blankSize_eq more]
  have length : inner.cursor.chars.length = inner.cursor.cells.length := by
    rw [inner.cursor.chars_eq, List.length_map]
  exact framed.cursor.advance (Nat.le_trans (blankSize_le _) (Nat.le_of_eq length))

theorem chars_advance_line (framed : Framed frame inner outer) {more : List Cell}
    (goesOn : frame.after = Cell.verbatim '\n' :: more) :
    (outer.cursor.advance (inner.cursor.cells.length + 1)).chars = more.map Cell.char := by
  rw [Cursor.chars_advance, outer.cursor.chars_eq, framed.cursor.cells, goesOn, ← List.map_drop,
    List.drop_append, List.drop_of_length_le (Nat.le_succ _), Nat.add_sub_cancel_left]
  rfl

/-- At the end of the text, the scanner of the longer one passes the line feed, too. -/
theorem atLexeme_of_line (framed : Framed frame inner outer) {more : List Cell}
    (goesOn : frame.after = Cell.verbatim '\n' :: more) (ended : inner.atLexeme.chars = []) :
    outer.atLexeme = (outer.cursor.advance (inner.cursor.cells.length + 1)).advance
      (blankSize (more.map Cell.char)) := by
  have last := framed.cursor.getLast?_chars_ne (by rw [goesOn]; exact List.cons_ne_nil _ _)
  have blank : ¬ blankSize inner.cursor.chars < inner.cursor.chars.length := by
    rw [Scanner.atLexeme, Cursor.chars_advance, List.drop_eq_nil_iff] at ended
    omega
  have passed : blankSize outer.cursor.chars =
      inner.cursor.chars.length + 1 + blankSize (more.map Cell.char) := by
    rw [framed.cursor.chars, goesOn, List.map_cons]
    exact (blankSize_append_lineFeed _ last).trans (if_neg blank)
  rw [Scanner.atLexeme, passed, Cursor.advance_add, inner.cursor.chars_eq, List.length_map]

/-- What a lexeme gives in the text, it gives in the longer text. -/
theorem accepts (framed : Framed frame inner outer) {here there : Cursor}
    (cursors : here.Framed frame there) (chars : here.chars = c :: rest)
    (accepts : Accepts inner here (here.lexeme c rest) result later) :
    ∃ result' later', Accepts outer there (here.lexeme c rest) result' later' ∧
      result'.map Token.nameless =
        result.map (fun token => token.nameless.moved frame.shift) ∧
      Framed frame later later' := by
  have within := here.size_lexeme_le chars
  have located := cursors.errorsOf chars
  generalize here.lexeme c rest = lexeme at accepts within located
  have text := cursors.textOf within
  have span := cursors.spanOf within
  have place := cursors.position
  have faults := cursors.faults within
  have moved : Framed frame { inner with cursor := here.advance lexeme.size }
      { outer with cursor := there.advance lexeme.size } :=
    ⟨cursors.advance within, framed.options, framed.exhausted, framed.errors⟩
  cases accepts with
  | @faulty first more errors =>
      rw [errors] at located
      have reported : outer.errors ++ (first :: more).map (LexicalError.moved frame.shift) =
          frame.before ++ (inner.errors ++ first :: more).map (LexicalError.moved frame.shift) := by
        rw [List.map_append, ← List.append_assoc, ← framed.errors]
      have fatal : ((first :: more).map (LexicalError.moved frame.shift)).all (·.recoverable) =
          (first :: more).all (·.recoverable) := List.all_map
      refine ⟨_, _, .faulty located, ?_,
        ⟨moved.cursor, framed.options, congrArg (fun all => !all) fatal, reported⟩⟩
      rw [text, span, place]
      rfl
  | token clean outcome =>
      refine ⟨_, _, .token (faults.trans clean) outcome, ?_, moved⟩
      rw [text, span, place]
      rfl
  | name clean outcome identifier =>
      rw [← framed.options, ← text] at identifier
      refine ⟨_, _, .name (faults.trans clean) outcome identifier, ?_,
        ⟨moved.cursor, framed.options, framed.exhausted, framed.errors⟩⟩
      rw [text, span, place]
      rfl
  | reserved clean outcome other classified =>
      rw [← framed.options, ← text] at classified
      refine ⟨_, _, .reserved (faults.trans clean) outcome other classified, ?_, moved⟩
      rw [text, span, place]
      rfl
  | comment clean outcome kept =>
      rw [← framed.options] at kept
      refine ⟨_, _, .comment (faults.trans clean) outcome kept, ?_, moved⟩
      rw [text, span, place]
      rfl
  | skipped clean outcome dropped =>
      rw [← framed.options] at dropped
      exact ⟨_, _, .skipped (faults.trans clean) outcome dropped, rfl, moved⟩

theorem passes (framed : Framed frame inner outer) {lexeme : Lexeme}
    (passes : Passes inner lexeme result later)
    (recoverable : frame.after = [] ∨
      ∀ fault ∈ inner.atLexeme.faults lexeme, fault.recoverable = true) :
    ∃ result' later', Passes outer lexeme result' later' ∧
      result'.map Token.nameless =
        result.map (fun token => token.nameless.moved frame.shift) ∧
      Framed frame later later' := by
  obtain ⟨going, ⟨c, rest, chars, rfl⟩, accepts⟩ := passes
  have cursors := framed.atLexeme (.inr (by rw [chars]; exact List.cons_ne_nil _ _))
  have starts := cursors.chars
  rw [chars, List.cons_append] at starts
  obtain ⟨result', later', accepts', same, after⟩ := framed.accepts cursors chars accepts
  exact ⟨result', later', ⟨framed.exhausted.trans going,
    ⟨c, _, starts, (cursors.lexeme_eq chars recoverable).symm⟩, accepts'⟩, same, after⟩

end Framed

end Scanner

end JavaLex
