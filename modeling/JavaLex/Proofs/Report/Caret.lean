import JavaLex.Proofs.Scan.Errors
import JavaLex.Report.Diagnostic

/-! # Carets of diagnostics

A diagnostic shows a line and a caret below it. No error stands at the end of a line or of the
text, whatever is wrong with a lexeme, so the line that is shown holds the character at the place
of the error, and the caret stands below it.
-/

namespace JavaLex

open Charset

/-! ## Faults of a lexeme -/

/-- The fault stands at a character of the text that ends no line. -/
def Fault.Visible (text : List Char) (fault : Fault) : Prop :=
  ∃ c, text[fault.index]? = some c ∧ isLineTerminator c = false

namespace Quoted

theorem getElem?_of_mem_illegal {index place : Nat} {text : List Char} {c : Char}
    (member : (place, c) ∈ (body index text).illegal) :
    ∃ inner, place = index + inner ∧ text[inner]? = some '\\' := by
  fun_induction body index text with
  | case1 | case2 | case3 => cases member
  | case4 index d rest _ _ _ sequence tail decoded _ ih =>
      obtain ⟨inner, rfl, found⟩ := ih member
      rw [List.getElem?_drop] at found
      refine ⟨sequence.2 + inner + 1, by omega, ?_⟩
      rw [List.getElem?_cons_succ, found]
  | case5 index d rest _ _ backslash sequence tail illegal _ ih =>
      rcases List.mem_cons.mp member with first | later
      · obtain ⟨rfl, -⟩ := Prod.mk.inj first
        exact ⟨0, rfl, congrArg some (eq_of_beq backslash)⟩
      · obtain ⟨inner, rfl, found⟩ := ih later
        rw [List.getElem?_drop] at found
        refine ⟨sequence.2 + inner + 1, by omega, ?_⟩
        rw [List.getElem?_cons_succ, found]
  | case6 index d rest _ _ _ tail ih =>
      obtain ⟨inner, rfl, found⟩ := ih member
      exact ⟨inner + 1, by omega, by rw [List.getElem?_cons_succ, found]⟩

theorem head?_of_illegal {text : List Char} {c : Char} {size : Nat}
    (read : character text = (.error (.illegalEscape c), size)) : text.head? = some '\\' := by
  unfold character at read
  split at read
  · cases read
  next d rest =>
  split at read
  · cases read
  split at read
  · cases read
  by_cases backslash : (d == '\\') = true
  · rw [eq_of_beq backslash, List.head?_cons]
  · rw [if_neg backslash] at read
    dsimp only at read
    split at read <;> cases read

end Quoted

namespace Lexeme

theorem visible_first {c : Char} {rest : List Char} (plain : isLineTerminator c = false)
    (cause : Cause) (recoverable : Bool) : Fault.Visible (c :: rest) ⟨cause, 0, recoverable⟩ :=
  ⟨c, rfl, plain⟩

theorem visible_string (text : List Char) :
    ∀ fault ∈ (string text).outcome.faults, fault.Visible ('"' :: text) := by
  unfold string
  extract_lets body faults outcome
  have opening : ∀ cause recoverable, Fault.Visible ('"' :: text) ⟨cause, 0, recoverable⟩ :=
    visible_first (by decide)
  have illegal : ∀ fault ∈ faults, fault.Visible ('"' :: text) := by
    intro fault member
    obtain ⟨⟨index, c⟩, found, rfl⟩ := List.mem_map.mp member
    obtain ⟨inner, rfl, backslash⟩ := Quoted.getElem?_of_mem_illegal found
    refine ⟨'\\', ?_, by decide⟩
    change ('"' :: text)[1 + inner]? = _
    rw [Nat.add_comm, List.getElem?_cons_succ, backslash]
  unfold outcome
  split
  · simp [Outcome.faults]
  · exact illegal
  · exact List.forall_mem_cons.mpr ⟨opening _ _, illegal⟩
  · exact List.forall_mem_cons.mpr ⟨opening _ _, illegal⟩

theorem visible_character (text : List Char) :
    ∀ fault ∈ (character text).outcome.faults, fault.Visible ('\'' :: text) := by
  unfold character
  split
  next result size read =>
  dsimp only
  split
  · simp [Outcome.faults]
  · exact List.forall_mem_singleton.mpr (visible_first (by decide) _ _)
  · obtain ⟨more, rfl⟩ := List.head?_eq_some_iff.mp (Quoted.head?_of_illegal read)
    exact List.forall_mem_singleton.mpr ⟨'\\', rfl, by decide⟩

/-- Only strings and character literals have faults after their first character. -/
theorem ReadAs.visible {c : Char} {rest : List Char} {lexeme : Lexeme}
    (reads : ReadAs c rest lexeme) (plain : isLineTerminator c = false) :
    ∀ fault ∈ lexeme.outcome.faults, fault.Visible (c :: rest) := by
  have first : ∀ cause, ∀ fault ∈ [Fault.of cause 0], fault.Visible (c :: rest) :=
    fun cause => List.forall_mem_singleton.mpr (visible_first plain _ _)
  cases reads with
  | lineComment | word => exact fun fault none => by cases none
  | blockComment =>
      unfold Lexeme.blockComment
      split
      · simp [Outcome.faults]
      · exact first _
  | string => exact visible_string rest
  | character => exact visible_character rest
  | number =>
      unfold Lexeme.number
      split
      split
      · simp [Outcome.faults]
      · exact first _
  | symbol =>
      unfold Lexeme.symbol
      split
      · simp [Outcome.faults]
      · exact first _

end Lexeme

/-! ## Errors of a unit -/

namespace SourceUnit

variable {unit : SourceUnit}

def Shows (unit : SourceUnit) (place : Position) : Prop :=
  ∃ done c rest, unit.chars = done ++ c :: rest ∧ isLineTerminator c = false ∧
    place = unit.position (byteSize done) ∧ place.offset = byteSize done

/-- A cell that ends no line begins with a raw character that ends none. -/
theorem shows_advance {index : Nat} {c : Char}
    (found : ((Cell.translate unit.chars).map Cell.char)[index]? = some c)
    (plain : isLineTerminator c = false) : unit.Shows (unit.cursor.advance index).position := by
  obtain ⟨cell, here, rfl⟩ : ∃ cell, (Cell.translate unit.chars)[index]? = some cell ∧
      cell.char = c := by
    simpa [Option.map_eq_some_iff] using found
  obtain ⟨bound, same⟩ := List.getElem?_eq_some_iff.mp here
  obtain ⟨d, raw, written, apart⟩ : ∃ d raw, cell.raw = d :: raw ∧ isLineTerminator d = false := by
    rcases (cellAt_translate here).wellSpelled with verbatim | spells
    · exact ⟨cell.char, [], verbatim, plain⟩
    · obtain ⟨spelled, written⟩ := spells.cons
      exact ⟨'\\', spelled, written, by decide⟩
  have whole := Cell.append_raw_drop unit.chars index
  rw [List.drop_eq_getElem_cons bound, same, List.flatMap_cons, written, List.cons_append] at whole
  exact ⟨_, d, _, whole.symm, apart, unit.position_advance_cursor index,
    unit.offset_advance_cursor index⟩

end SourceUnit

namespace Scanner

variable {unit : SourceUnit} {scanner later : Scanner} {index : Nat} {lexeme : Lexeme}
  {result : Option Token}

theorem isBlank_of_atLexeme {c : Char} {rest : List Char}
    (chars : scanner.atLexeme.chars = c :: rest) : isBlank c = false := by
  rw [atLexeme, Cursor.chars_advance] at chars
  generalize scanner.cursor.chars = text at chars
  induction text with
  | nil => cases chars
  | cons d text ih =>
      unfold blankSize at chars
      split at chars
      · exact ih chars
      · next other =>
        obtain ⟨rfl, -⟩ := List.cons.inj chars
        simp_all

/-- Every error of a lexeme stands at a character of its unit that ends no line. -/
theorem Passes.shows (passes : Passes scanner lexeme result later)
    (stands : StandsAt unit index scanner) :
    ∀ error ∈ scanner.atLexeme.errorsOf lexeme, unit.Shows error.position := by
  intro error member
  obtain ⟨fault, found, rfl⟩ := List.mem_map.mp member
  obtain ⟨-, ⟨c, rest, chars, rfl⟩, -⟩ := passes
  have blank := isBlank_of_atLexeme chars
  have left := stands.chars_atLexeme
  have visible : fault.Visible scanner.atLexeme.chars := by
    rcases Cursor.mem_faults_iff.mp found with escape | own
    · obtain ⟨place, marked, rfl⟩ := List.mem_map.mp escape
      obtain ⟨-, cell, here, malformed⟩ := Cursor.mem_malformedWithin_iff.mp marked
      refine ⟨'\\', ?_, by decide⟩
      rw [stands.atLexeme, Cursor.cells_advance, List.getElem?_drop] at here
      have backslash := ((cellAt_translate here).char_of_malformed malformed).1
      rw [left, List.getElem?_drop, List.getElem?_map]
      exact (congrArg (Option.map Cell.char) here).trans (congrArg some backslash)
    · unfold Cursor.lexeme at own
      split at own
      · cases own
      · rw [chars]
        refine (Lexeme.readAs_read c rest).visible ?_ fault own
        simp only [isBlank, Bool.or_eq_false_iff] at blank
        exact blank.2
  obtain ⟨d, here, plain⟩ := visible
  rw [left, List.getElem?_drop] at here
  rw [stands.atLexeme, Fault.locate, ← Cursor.advance_add]
  exact SourceUnit.shows_advance here plain

theorem invariant_shows (unit : SourceUnit) :
    Invariant fun scanner => ∃ index, StandsWithin unit index scanner ∧
      ∀ error ∈ scanner.errors, unit.Shows error.position where
  passes := by
    rintro scanner later lexeme result ⟨index, stands, before⟩ passes
    obtain ⟨first, -, -, -, goesOn⟩ := stands.passes passes
    refine ⟨_, goesOn, ?_⟩
    rw [passes.accepts.errors_eq]
    exact List.forall_mem_append.mpr ⟨before, passes.shows stands.toStandsAt⟩
  ended := by
    rintro scanner ⟨index, stands, before⟩ - ended
    exact ⟨_, stands.atEnd ended, before⟩

end Scanner

theorem SourceUnit.shows_errors (unit : SourceUnit) (options : Options) :
    ∀ error ∈ (unit.tokenize options).errors, unit.Shows error.position := by
  obtain ⟨count, -, -, errors⟩ := unit.exists_calls_tokenize options
  obtain ⟨-, -, shown⟩ := (Scanner.invariant_shows unit).calls
    ⟨0, Scanner.standsWithin_start options unit, fun _ none => by cases none⟩ count
  rw [errors]
  exact shown

/-! ## The caret -/

theorem length_caretIndent {row : List Char} {column : Nat} (within : column - 1 ≤ row.length) :
    (caretIndent row column).length = column - 1 := by
  rw [caretIndent, List.length_map, List.length_take, Nat.min_eq_left within]

theorem getElem?_caretIndent {row : List Char} {column index : Nat} (before : index < column - 1) :
    (caretIndent row column)[index]? =
      row[index]?.map fun c => if c == '\t' then '\t' else ' ' := by
  rw [caretIndent, List.getElem?_map, List.getElem?_take, if_pos before]

/-- The caret of an error stands below the given character of the given line, which is the one at
the place of the error. -/
structure SourceUnit.PointsAt (unit : SourceUnit) (error : LexicalError) (row : List Char)
    (c : Char) : Prop where
  lineText : unit.lineText? error.position.line = some row
  column_pos : 0 < error.position.column
  column_lt : error.position.column - 1 < row.length
  below : row[error.position.column - 1]? = some c
  isBoundary : isBoundary unit.chars error.position.offset = true
  raw : (dropBytes error.position.offset unit.chars).head? = some c
  indent : (caretIndent row error.position.column).length = error.position.column - 1
  blank : ∀ index < error.position.column - 1,
    (caretIndent row error.position.column)[index]? =
      some (if row[index]? = some '\t' then '\t' else ' ')
  shown : unit.diagnostic error =
    unit.name ++ ":" ++ error.position.label ++ ": " ++ styled [.red, .bold] "error" ++ ": " ++
      error.cause.message ++ "\n" ++
      "    " ++ String.ofList row ++ "\n" ++
      "    " ++ String.ofList (caretIndent row error.position.column) ++
        styled [.red, .bold] "^" ++ "\n"

theorem SourceUnit.Shows.exists_pointsAt {unit : SourceUnit} {error : LexicalError}
    (stands : unit.Shows error.position) : ∃ row c, unit.PointsAt error row c := by
  obtain ⟨done, c, rest, whole, plain, place, offset⟩ := stands
  obtain ⟨row, more, text, column⟩ := unit.exists_lineText? whole plain
  rw [← place] at text column
  have within : error.position.column - 1 < (row ++ c :: more).length := by
    rw [column, List.length_append, List.length_cons]
    omega
  refine ⟨row ++ c :: more, c, text, by omega, within, ?_, ?_, ?_,
    length_caretIndent (Nat.le_of_lt within), fun index before => ?_, ?_⟩
  · rw [column, Nat.add_sub_cancel, List.getElem?_append_right (Nat.le_refl _), Nat.sub_self]
    rfl
  · rw [offset, whole]
    exact isBoundary_append _ _
  · rw [offset, whole, dropBytes_append, List.head?_cons]
  · obtain ⟨d, here⟩ : ∃ d, (row ++ c :: more)[index]? = some d :=
      ⟨_, List.getElem?_eq_getElem (Nat.lt_trans before within)⟩
    rw [getElem?_caretIndent before, here, Option.map_some]
    simp
  · rw [SourceUnit.diagnostic, text]

/-- Every error of a unit is shown with the line that it stands on, and the caret stands below the
character at the place of the error: it is as far from the margin as the column says, with tabs
where the line has tabs. -/
theorem caret_below_character (unit : SourceUnit) (options : Options) :
    ∀ error ∈ (unit.tokenize options).errors, ∃ row c, unit.PointsAt error row c :=
  fun error member => (unit.shows_errors options error member).exists_pointsAt

/-- An illegal escape sequence behind a tab and an escape, on the second line. -/
theorem caret_below_character_tab :
    LexicalError.of (.illegalEscape 'q') ⟨13, 2, 11⟩ ∈
        (SourceUnit.tokenize ⟨"Tab.java", "a\n\té\"\\u0041-\\q\";"⟩ .usual).errors ∧
      ∃ row c, SourceUnit.PointsAt ⟨"Tab.java", "a\n\té\"\\u0041-\\q\";"⟩
        (.of (.illegalEscape 'q') ⟨13, 2, 11⟩) row c := by
  have reported : LexicalError.of (.illegalEscape 'q') ⟨13, 2, 11⟩ ∈
      (SourceUnit.tokenize ⟨"Tab.java", "a\n\té\"\\u0041-\\q\";"⟩ .usual).errors := by
    decide +kernel
  exact ⟨reported, caret_below_character _ _ _ reported⟩

end JavaLex
