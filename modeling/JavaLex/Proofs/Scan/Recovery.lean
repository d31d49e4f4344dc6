import JavaLex.Proofs.Escape.Run
import JavaLex.Proofs.Scan.Errors

/-! # Recovery from malformed escapes

Outside of literals and comments a malformed escape is a token of its own. Its run is looked for
among translated characters, so the token ends with the raw text of the run, unless an escape
follows at once that gives one more character of a run.
-/

namespace JavaLex

open Escape

/-! ## The token of a malformed escape -/

namespace Scanner

variable {unit : SourceUnit} {scanner later : Scanner} {index : Nat} {lexeme : Lexeme}
  {token : Token}

/-- A token with an error is that of a lexeme, after the comments that are skipped. -/
theorem Gives.exists_passes (gives : Gives scanner token later)
    (stands : StandsWithin unit index scanner) {error : LexicalError}
    (carried : token.error = some error) :
    ∃ index here lexeme, StandsWithin unit index here ∧ Passes here lexeme (some token) later := by
  induction gives generalizing index with
  | exhausted => cases carried
  | ended => cases carried
  | token passes => exact ⟨_, _, _, stands, passes⟩
  | skipped passes _ ih =>
      obtain ⟨first, -, -, -, goesOn⟩ := stands.passes passes
      exact ih goesOn carried

/-- An error of a malformed escape at the start of its token comes from the first cell. -/
theorem Passes.atMalformed (passes : Passes scanner lexeme (some token) later)
    (stands : StandsWithin unit index scanner)
    (own : token.error = some (.of .malformedEscape token.position)) :
    scanner.atLexeme.atMalformed = true := by
  obtain ⟨first, -, here, -, goesOn⟩ := stands.passes passes
  have bound := goesOn.index_le
  rw [passes.accepts.error_eq, passes.accepts.position_eq] at own
  obtain ⟨fault, member, located⟩ := List.mem_map.mp (List.mem_of_mem_head? own)
  have cause : fault.cause = .malformedEscape := congrArg LexicalError.cause located
  have same := congrArg (fun error => error.position.offset) located
  have inside := passes.index_lt fault member
  obtain ⟨c, rest, -, rfl⟩ := passes.reads
  rcases Cursor.mem_faults_iff.mp member with escape | other
  · obtain ⟨place, marked, rfl⟩ := List.mem_map.mp escape
    -- offsets tell the cells of the lexeme apart, so the error stands at the first of them
    have offsets : Cell.rawOffset (Cell.translate unit.chars) (first + place) =
        Cell.rawOffset (Cell.translate unit.chars) first := by
      rw [here] at same
      exact (unit.offset_locate first _).symm.trans (same.trans (unit.offset_advance_cursor first))
    have none : first + place ≤ first :=
      (Cell.rawOffset_le_iff unit.wellSpelled (by simp only [Fault.of] at inside; omega)).mp
        (Nat.le_of_eq offsets)
    obtain rfl : place = 0 := by omega
    obtain ⟨-, cell, found, malformed⟩ := Cursor.mem_malformedWithin_iff.mp marked
    rw [Cursor.atMalformed, List.head?_eq_getElem?, found]
    exact malformed
  · exact absurd cause ((scanner.atLexeme.contained_lexeme c rest).cause_ne fault other)

/-- The token of a malformed escape takes the run of the raw text, and the cells that the run goes
on with. -/
theorem Passes.exists_taken (passes : Passes scanner lexeme (some token) later)
    (stands : StandsWithin unit index scanner) (marked : scanner.atLexeme.atMalformed = true) :
    ∃ before run rest taken left, unit.chars = before ++ '\\' :: (run ++ rest) ∧
      Opens unit.chars before.length ∧ Unspelled unit.chars before.length ∧
      LongestRun run rest ∧ Cell.translate rest = taken ++ left ∧
      LongestRun (run ++ taken.map Cell.char) (left.map Cell.char) ∧
      (taken = [] ↔ ¬ Absorbs run rest) ∧
      token.span = ⟨byteSize before,
        byteSize before + byteSize ('\\' :: run) + byteSize (taken.flatMap Cell.raw)⟩ ∧
      token.text = String.ofList ('\\' :: (run ++ taken.map Cell.char)) ∧
      later.cursor.cells = left := by
  obtain ⟨first, -, here, -, goesOn⟩ := stands.passes passes
  obtain ⟨cell, standing, malformed⟩ := (Option.any_eq_true _ _).mp marked
  obtain ⟨cells, standing⟩ := List.head?_eq_some_iff.mp standing
  have drop : (Cell.translate unit.chars).drop first = cell :: cells := by
    rw [← standing, here, Cursor.cells_advance]
    rfl
  have found : (Cell.translate unit.chars)[first]? = some cell := by
    rw [← List.head?_drop, drop, List.head?_cons]
  obtain ⟨backslash, single⟩ := (cellAt_translate found).char_of_malformed malformed
  obtain ⟨opens, unspelled⟩ := (cellAt_translate found).malformed_iff.mp malformed
  obtain ⟨before, after, whole, spelled, rfl⟩ := Cell.exists_of_malformed drop malformed
  obtain ⟨run, rest, taken, left, rfl, longest, split, longer, absorbs, size⟩ :=
    Escape.exists_taken after
  have cut : scanner.atLexeme.cells =
      cell :: (run.map Cell.verbatim ++ taken) ++ left := by
    rw [standing, Cell.translate_append_of_not_mem longest.isRun.not_mem, split,
      ← List.append_assoc]
    rfl
  have count : lexeme.size = (cell :: (run.map Cell.verbatim ++ taken)).length := by
    obtain ⟨c, chars, begins, rfl⟩ := passes.reads
    rw [scanner.atLexeme.chars_eq, standing] at begins
    obtain ⟨-, rfl⟩ := List.cons.inj begins
    rw [Cursor.lexeme, if_pos marked, size]
    simp
  have index_eq : Cell.rawIndex (Cell.translate unit.chars) first = before.length := by
    rw [Cell.rawIndex]
    exact congrArg List.length spelled
  have start : Cell.rawOffset (Cell.translate unit.chars) first = byteSize before :=
    congrArg byteSize spelled
  rw [index_eq] at opens unspelled
  refine ⟨before, run, rest, taken, left, whole, opens, unspelled, longest, split, longer, absorbs,
    ?bytes, ?characters, ?goesOn⟩
  case bytes =>
    rw [here, Cursor.cells_advance] at cut
    have stretch : (Cell.translate unit.chars).drop first = _ := cut
    rw [passes.accepts.span_eq, Cursor.spanOf, here, ← Cursor.advance_add,
      unit.offset_advance_cursor, unit.offset_advance_cursor, Cell.rawOffset_add, start, stretch,
      count, List.take_left]
    simp [single, Nat.add_assoc]
  case characters =>
    rw [passes.accepts.text_eq, Cursor.textOf, scanner.atLexeme.chars_eq, cut, count,
      List.map_append, List.take_left' (List.length_map _)]
    simp [backslash]
  case goesOn => rw [passes.accepts.cursor_eq, Cursor.cells_advance, cut, count, List.drop_left]

end Scanner

/-- A malformed escape outside of literals and comments is a token that begins at its backslash. It
takes the run of the raw text, and goes on as far as the translated characters after it do. So it
ends with the run, and what follows is scanned like a text of its own, unless an escape follows
that gives one more character of a run. -/
theorem escape_recovery_exact (unit : SourceUnit) (options : Options) (count : Nat) {token : Token}
    {later : Scanner} (given : (unit.scannerAfter options count).next = (token, later))
    (malformed : token.error = some (.of .malformedEscape token.position)) :
    ∃ before run rest taken left, unit.chars = before ++ '\\' :: (run ++ rest) ∧
      Opens unit.chars before.length ∧ Unspelled unit.chars before.length ∧
      LongestRun run rest ∧ Cell.translate rest = taken ++ left ∧
      LongestRun (run ++ taken.map Cell.char) (left.map Cell.char) ∧
      token.span = ⟨byteSize before,
        byteSize before + byteSize ('\\' :: run) + byteSize (taken.flatMap Cell.raw)⟩ ∧
      token.text = String.ofList ('\\' :: (run ++ taken.map Cell.char)) ∧
      later.cursor.cells = left ∧
      (token.span = ⟨byteSize before, byteSize before + byteSize ('\\' :: run)⟩ ↔
        ¬ Absorbs run rest) ∧
      (¬ Absorbs run rest → later.cursor.cells = Cell.translate rest) := by
  obtain ⟨index, stands⟩ := unit.standsWithin_scannerAfter options count
  have gives := (unit.scannerAfter options count).gives_next
  rw [given] at gives
  obtain ⟨index, scanner, lexeme, stands, passes⟩ := gives.exists_passes stands malformed
  obtain ⟨before, run, rest, taken, left, whole, opens, unspelled, longest, split, goesOn, absorbs,
    span, text, cells⟩ := passes.exists_taken stands (passes.atMalformed stands malformed)
  refine ⟨before, run, rest, taken, left, whole, opens, unspelled, longest, split, goesOn, span,
    text, cells, ?exactly, fun none => ?onItsOwn⟩
  case exactly =>
    have spelled : ∀ cell ∈ taken, cell.WellSpelled := fun cell member =>
      Cell.wellSpelled_of_mem_translate (split ▸ List.mem_append_left left member)
    rw [← absorbs, ← Cell.byteSize_raw_eq_zero_iff spelled, span, Span.mk.injEq]
    simp
  case onItsOwn => rw [cells, split, absorbs.mpr none, List.nil_append]

/-- An escape of a letter after two digits of a malformed one. -/
theorem escape_recovery_exact_letter :
    (SourceUnit.scannerAfter ⟨"Note.java", "x \\u00\\u0041"⟩ .usual 1).next.1.error =
        some (.of .malformedEscape ⟨2, 1, 3⟩) ∧
      ∃ before run rest, "x \\u00\\u0041".toList = before ++ '\\' :: (run ++ rest) ∧
        LongestRun run rest ∧
        ((⟨2, 12⟩ : Span) = ⟨byteSize before, byteSize before + byteSize ('\\' :: run)⟩ ↔
          ¬ Absorbs run rest) := by
  let scanner := SourceUnit.scannerAfter ⟨"Note.java", "x \\u00\\u0041"⟩ .usual 1
  have error : scanner.next.1.error = some (.of .malformedEscape ⟨2, 1, 3⟩) := by decide +kernel
  have position : scanner.next.1.position = ⟨2, 1, 3⟩ := by decide +kernel
  have span : scanner.next.1.span = ⟨2, 12⟩ := by decide +kernel
  have given : scanner.next = (scanner.next.1, scanner.next.2) := rfl
  obtain ⟨before, run, rest, -, -, whole, -, -, longest, -, -, -, -, -, exactly, -⟩ :=
    escape_recovery_exact ⟨"Note.java", "x \\u00\\u0041"⟩ .usual 1 given (position ▸ error)
  rw [span] at exactly
  exact ⟨error, before, run, rest, whole, longest, exactly⟩

/-- The letter that an escape spells is lost in the token of the malformed escape before it. -/
theorem escape_recovery_takes_letter :
    LongestRun "u00".toList "\\u0041".toList ∧ Spells "\\u0041".toList 'A' ∧
      (SourceUnit.scannerAfter ⟨"Note.java", "\\u00\\u0041"⟩ .usual 0).next.1 =
        .ofError (.of .malformedEscape ⟨0, 1, 1⟩) "\\u00A" ⟨0, 10⟩ ⟨0, 1, 1⟩ ∧
      byteSize "\\u00".toList = 4 := by
  refine ⟨?longest, ?spells, by decide +kernel, by decide⟩
  case longest =>
    have hex : ∀ d ∈ ['0', '0'], Charset.isDigitOf 16 d = true := List.all_eq_true.mp (by decide)
    refine .of_head? ⟨1, _, rfl, by decide, hex⟩ fun c next isRun => ?_
    obtain rfl := Option.some.inj next
    exact isRun.not_mem (by decide)
  case spells =>
    have hex : ∀ d ∈ ['0', '0', '4', '1'], Charset.isDigitOf 16 d = true :=
      List.all_eq_true.mp (by decide)
    exact .unit ⟨0, _, rfl, rfl, hex, rfl⟩ (by decide) (by decide) (by decide)

end JavaLex
