import JavaLex.Proofs.Place.Cursor
import JavaLex.Proofs.Scan.Run

/-! # Places that a scan reports

Every token and every error of a scan carries the place of a cursor that the scan moved along the
cells of its unit. All of them are the places that the line map of the unit gives.
-/

namespace JavaLex

/-- A place with the line and column that the unit computes for its offset. -/
def SourceUnit.Computes (unit : SourceUnit) (p : Position) : Prop :=
  p = unit.position p.offset

theorem SourceUnit.computes_position (unit : SourceUnit) (offset : Nat) :
    unit.Computes (unit.position offset) := by
  unfold Computes position
  simp only [Nat.min_assoc, Nat.min_self]

theorem SourceUnit.computes_advance (unit : SourceUnit) (index : Nat) :
    unit.Computes (unit.cursor.advance index).position := by
  rw [position_advance_cursor]
  exact unit.computes_position _

theorem Token.position_eof (place : Position) : (Token.eof place).position = place := rfl

namespace Scanner

/-- The scanner stands before a cell of the unit that it scans. -/
structure StandsAt (unit : SourceUnit) (index : Nat) (scanner : Scanner) : Prop where
  source : scanner.source = unit
  cursor : scanner.cursor = unit.cursor.advance index

theorem standsAt_start (options : Options) (unit : SourceUnit) :
    StandsAt unit 0 (.start options unit) := ⟨rfl, rfl⟩

variable {unit : SourceUnit} {scanner later last : Scanner} {index : Nat} {c : Char}
  {rest : List Char} {result : Option Token} {tokens : List Token}

theorem StandsAt.atLexeme (stands : StandsAt unit index scanner) :
    scanner.atLexeme =
      unit.cursor.advance (index + Charset.blankSize scanner.cursor.chars) := by
  rw [Cursor.advance_add, ← stands.cursor]
  rfl

theorem StandsAt.accepts (stands : StandsAt unit index scanner) {lexeme : Lexeme}
    (accepts : Accepts scanner scanner.atLexeme lexeme result later) :
    StandsAt unit (index + Charset.blankSize scanner.cursor.chars + lexeme.size) later where
  source := accepts.source_eq.trans stands.source
  cursor := by rw [accepts.cursor_eq, stands.atLexeme, ← Cursor.advance_add]

theorem StandsAt.chars (stands : StandsAt unit index scanner) :
    scanner.cursor.chars = ((Cell.translate unit.chars).map Cell.char).drop index := by
  rw [stands.cursor, Cursor.chars_advance]
  rfl

theorem StandsAt.chars_atLexeme (stands : StandsAt unit index scanner) :
    scanner.atLexeme.chars = ((Cell.translate unit.chars).map Cell.char).drop
      (index + Charset.blankSize scanner.cursor.chars) := by
  rw [stands.atLexeme, Cursor.chars_advance]
  rfl

theorem StandsAt.length_eq (stands : StandsAt unit index scanner) {c : Char} {rest : List Char}
    (chars : scanner.atLexeme.chars = c :: rest) :
    index + Charset.blankSize scanner.cursor.chars + (rest.length + 1) =
      (Cell.translate unit.chars).length := by
  have length := congrArg List.length (chars.symm.trans stands.chars_atLexeme)
  simp only [List.length_cons, List.length_drop, List.length_map] at length
  omega

theorem StandsAt.length_le (stands : StandsAt unit index scanner)
    (ended : scanner.atLexeme.chars = []) :
    (Cell.translate unit.chars).length ≤ index + Charset.blankSize scanner.cursor.chars := by
  have left := stands.chars_atLexeme
  rw [ended] at left
  simpa using List.drop_eq_nil_iff.mp left.symm

private theorem computes_errorsOf (stands : StandsAt unit index scanner) {lexeme : Lexeme}
    {error : LexicalError} (member : error ∈ scanner.atLexeme.errorsOf lexeme) :
    unit.Computes error.position := by
  obtain ⟨fault, -, rfl⟩ := List.mem_map.mp member
  rw [stands.atLexeme, Fault.locate, ← Cursor.advance_add]
  exact unit.computes_advance _

private theorem computes_errors_accepts (stands : StandsAt unit index scanner) {lexeme : Lexeme}
    (accepts : Accepts scanner scanner.atLexeme lexeme result later)
    (before : ∀ error ∈ scanner.errors, unit.Computes error.position) :
    ∀ error ∈ later.errors, unit.Computes error.position := by
  intro error member
  rw [accepts.errors_eq] at member
  rcases List.mem_append.mp member with early | new
  · exact before error early
  · exact computes_errorsOf stands new

/-- A run from a cell of the unit reports places of the unit only. -/
theorem Run.computes (run : Run scanner tokens last) (stands : StandsAt unit index scanner)
    (before : ∀ error ∈ scanner.errors, unit.Computes error.position) :
    (∀ token ∈ tokens, unit.Computes token.position) ∧
      ∀ error ∈ last.errors, unit.Computes error.position := by
  induction run generalizing index with
  | exhausted =>
      refine ⟨fun token member => ?_, before⟩
      obtain rfl := List.mem_singleton.mp member
      rw [Token.position_eof, SourceUnit.endPosition, stands.source]
      exact unit.computes_position _
  | ended =>
      refine ⟨fun token member => ?_, before⟩
      obtain rfl := List.mem_singleton.mp member
      rw [Token.position_eof, stands.atLexeme]
      exact unit.computes_advance _
  | skipped _ _ accepts _ ih =>
      exact ih (stands.accepts accepts) (computes_errors_accepts stands accepts before)
  | token _ _ accepts _ ih =>
      obtain ⟨places, errors⟩ :=
        ih (stands.accepts accepts) (computes_errors_accepts stands accepts before)
      refine ⟨fun token member => ?_, errors⟩
      rcases List.mem_cons.mp member with rfl | later
      · rw [accepts.position_eq, stands.atLexeme]
        exact unit.computes_advance _
      · exact places token later

end Scanner

/-- The place that a cursor tracks, however it got where it is, is the one that the unit computes
from its line map, and its counters stay within the size of the text. So are the places of all
tokens and errors of a scan. -/
theorem places_agree (unit : SourceUnit) :
    (∀ moves : List CursorMove, ∃ index ≤ (Cell.translate unit.chars).length,
      ((MarkedCursor.start unit).run moves).cursor.cells =
          (Cell.translate unit.chars).drop index ∧
        ((MarkedCursor.start unit).run moves).cursor.position =
          unit.position (Cell.rawOffset (Cell.translate unit.chars) index) ∧
        ((MarkedCursor.start unit).run moves).cursor.position.offset =
          Cell.rawOffset (Cell.translate unit.chars) index ∧
        ((MarkedCursor.start unit).run moves).cursor.position.line ≤ unit.size + 1 ∧
        ((MarkedCursor.start unit).run moves).cursor.position.column ≤ unit.size + 1) ∧
      ∀ options : Options,
        (∀ token ∈ (unit.tokenize options).tokens,
          token.position = unit.position token.span.start) ∧
        ∀ error ∈ (unit.tokenize options).errors,
          error.position = unit.position error.position.offset := by
  constructor
  · intro moves
    obtain ⟨index, bound, here⟩ := MarkedCursor.within_run unit moves _ (.inl rfl)
    refine ⟨index, bound, ?_⟩
    rw [here]
    refine ⟨Cursor.cells_advance _ _, unit.position_advance_cursor index,
      unit.offset_advance_cursor index, ?_, ?_⟩
    · rw [unit.position_advance_cursor]
      exact unit.line_position_le _
    · rw [unit.position_advance_cursor]
      exact unit.column_position_le _
  · intro options
    obtain ⟨last, run, errors, -⟩ := unit.run_tokenize options
    obtain ⟨places, reported⟩ :=
      run.computes (Scanner.standsAt_start options unit) (fun _ none => by cases none)
    rw [errors]
    exact ⟨places, reported⟩

end JavaLex
