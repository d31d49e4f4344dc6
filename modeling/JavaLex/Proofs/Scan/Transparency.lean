import JavaLex.Proofs.Escape.OffsetMap
import JavaLex.Proofs.Escape.Respelling

/-! # Scans do not depend on spellings

A scan looks at characters and at the marks of malformed escapes, never at how a character is
written. Two units that agree in both give the same tokens, names and errors at different places.
-/

namespace JavaLex

def LexicalError.unplaced (error : LexicalError) : LexicalError :=
  { error with position := .start }

def Token.unplaced (token : Token) : Token :=
  { token with
    span := ⟨0, 0⟩
    line := 0
    column := 0
    error := token.error.map LexicalError.unplaced }

theorem Token.isEof_unplaced (token : Token) : token.unplaced.isEof = token.isEof := rfl

theorem LexicalError.all_recoverable_unplaced (errors : List LexicalError) :
    (errors.map unplaced).all (·.recoverable) = errors.all (·.recoverable) :=
  List.all_map

/-- Two units give the same tokens, errors and names, but for the places. -/
structure ScannedUnit.AgreesWith (first second : ScannedUnit) : Prop where
  tokens : first.tokens.map Token.unplaced = second.tokens.map Token.unplaced
  errors : first.errors.map LexicalError.unplaced = second.errors.map LexicalError.unplaced
  names : first.names = second.names

/-! ## Cursors -/

namespace Cursor

structure Alike (first second : Cursor) : Prop where
  chars : first.chars = second.chars
  marks : first.cells.map Cell.malformed = second.cells.map Cell.malformed

namespace Alike

variable {first second : Cursor}

theorem advance (alike : Alike first second) (count : Nat) :
    Alike (first.advance count) (second.advance count) where
  chars := by rw [chars_advance, chars_advance, alike.chars]
  marks := by rw [cells_advance, cells_advance, List.map_drop, List.map_drop, alike.marks]

private theorem malformedWithin_eq (cursor : Cursor) (count : Nat) :
    cursor.malformedWithin count =
      ((cursor.cells.map Cell.malformed).take count).zipIdx.filterMap fun (marked, index) =>
        if marked then some index else none := by
  rw [malformedWithin, ← List.map_take, List.zipIdx_map, List.filterMap_map]
  rfl

theorem malformedWithin (alike : Alike first second) (count : Nat) :
    first.malformedWithin count = second.malformedWithin count := by
  rw [malformedWithin_eq, malformedWithin_eq, alike.marks]

theorem atMalformed (alike : Alike first second) : first.atMalformed = second.atMalformed := by
  have marks : ∀ cursor : Cursor,
      cursor.atMalformed = (cursor.cells.map Cell.malformed).head?.any id := by
    intro cursor
    rw [Cursor.atMalformed, List.head?_map, Option.any_map]
    rfl
  rw [marks, marks, alike.marks]

theorem lexeme (alike : Alike first second) (c : Char) (rest : List Char) :
    first.lexeme c rest = second.lexeme c rest := by
  rw [Cursor.lexeme, Cursor.lexeme, alike.atMalformed]

theorem faults (alike : Alike first second) (lexeme : Lexeme) :
    first.faults lexeme = second.faults lexeme := by
  rw [Cursor.faults, Cursor.faults, alike.malformedWithin]

theorem textOf (alike : Alike first second) (lexeme : Lexeme) :
    first.textOf lexeme = second.textOf lexeme := by
  rw [Cursor.textOf, Cursor.textOf, alike.chars]

theorem errorsOf (alike : Alike first second) (lexeme : Lexeme) :
    (first.errorsOf lexeme).map LexicalError.unplaced =
      (second.errorsOf lexeme).map LexicalError.unplaced := by
  rw [Cursor.errorsOf, Cursor.errorsOf, alike.faults, List.map_map, List.map_map]
  rfl

end Alike

end Cursor

/-! ## Scanners -/

namespace Scanner

structure Alike (first second : Scanner) : Prop where
  cursor : first.cursor.Alike second.cursor
  options : first.options = second.options
  names : first.names = second.names
  errors : first.errors.map LexicalError.unplaced = second.errors.map LexicalError.unplaced
  exhausted : first.exhausted = second.exhausted

namespace Alike

variable {first second later : Scanner} {lexeme : Lexeme} {token : Token} {result : Option Token}

theorem atLexeme (alike : Alike first second) : first.atLexeme.Alike second.atLexeme := by
  rw [Scanner.atLexeme, Scanner.atLexeme, alike.cursor.chars]
  exact alike.cursor.advance _

theorem move (alike : Alike first second) {here there : Cursor} (cursors : here.Alike there) :
    Alike { first with cursor := here } { second with cursor := there } :=
  ⟨cursors, alike.options, alike.names, alike.errors, alike.exhausted⟩

theorem accepts (alike : Alike first second) {here there : Cursor} (cursors : here.Alike there)
    (accepts : Accepts first here lexeme result later) :
    ∃ result' later', Accepts second there lexeme result' later' ∧
      result.map Token.unplaced = result'.map Token.unplaced ∧ Alike later later' := by
  have moved := alike.move (cursors.advance lexeme.size)
  have text := cursors.textOf lexeme
  cases accepts with
  | @faulty first more errors =>
      -- the errors were put in order by their indices, so the first of them is the same
      have located := cursors.errorsOf lexeme
      cases others : there.errorsOf lexeme with
      | nil =>
          rw [errors, others] at located
          cases located
      | cons own rest =>
          rw [errors, others] at located
          have same : first.unplaced = own.unplaced := (List.cons.inj located).1
          refine ⟨_, _, .faulty others, ?_, ⟨moved.cursor, alike.options, alike.names, ?_, ?_⟩⟩
          · simp only [Option.map_some, Token.unplaced, Token.ofError, same, text]
            rfl
          · rw [List.map_append, List.map_append, alike.errors, located]
          · dsimp only
            rw [← LexicalError.all_recoverable_unplaced (first :: more), located,
              LexicalError.all_recoverable_unplaced]
  | token clean outcome =>
      rw [cursors.faults] at clean
      refine ⟨_, _, .token clean outcome, ?_, moved⟩
      rw [text]
      rfl
  | name clean outcome identifier =>
      rw [cursors.faults] at clean
      rw [alike.options, text] at identifier
      refine ⟨_, _, .name clean outcome identifier, ?_,
        ⟨moved.cursor, alike.options, ?_, alike.errors, alike.exhausted⟩⟩
      · rw [text, alike.names]
        rfl
      · rw [text, alike.names]
  | reserved clean outcome other classified =>
      rw [cursors.faults] at clean
      rw [alike.options, text] at classified
      refine ⟨_, _, .reserved clean outcome other classified, ?_, moved⟩
      rw [text]
      rfl
  | comment clean outcome kept =>
      rw [cursors.faults] at clean
      rw [alike.options] at kept
      refine ⟨_, _, .comment clean outcome kept, ?_, moved⟩
      rw [text]
      rfl
  | skipped clean outcome dropped =>
      rw [cursors.faults] at clean
      rw [alike.options] at dropped
      exact ⟨_, _, .skipped clean outcome dropped, rfl, moved⟩

theorem passes (alike : Alike first second) (passes : Passes first lexeme result later) :
    ∃ result' later', Passes second lexeme result' later' ∧
      result.map Token.unplaced = result'.map Token.unplaced ∧ Alike later later' := by
  obtain ⟨going, ⟨c, rest, chars, rfl⟩, accepts⟩ := passes
  rw [alike.exhausted] at going
  rw [alike.atLexeme.chars] at chars
  obtain ⟨result', later', accepts', same, after⟩ := alike.accepts alike.atLexeme accepts
  exact ⟨result', later', ⟨going, ⟨c, rest, chars, alike.atLexeme.lexeme c rest⟩, accepts'⟩, same,
    after⟩

theorem gives (alike : Alike first second) (gives : Gives first token later) :
    ∃ token' later', Gives second token' later' ∧
      token.unplaced = token'.unplaced ∧ Alike later later' := by
  induction gives generalizing second with
  | exhausted exhausted =>
      rw [alike.exhausted] at exhausted
      exact ⟨_, _, .exhausted exhausted, rfl, alike⟩
  | ended going ended =>
      rw [alike.exhausted] at going
      rw [alike.atLexeme.chars] at ended
      exact ⟨_, _, .ended going ended, rfl,
        ⟨alike.atLexeme, alike.options, alike.names, alike.errors, rfl⟩⟩
  | token passes =>
      obtain ⟨result, later, others, same, after⟩ := alike.passes passes
      cases result with
      | none => cases same
      | some token' => exact ⟨token', later, .token others, Option.some.inj same, after⟩
  | skipped passes _ ih =>
      obtain ⟨result, later, others, same, after⟩ := alike.passes passes
      obtain ⟨token', last, gives, equal, left⟩ := ih after
      cases result with
      | none => exact ⟨token', last, .skipped others gives, equal, left⟩
      | some => cases same

theorem next (alike : Alike first second) :
    first.next.1.unplaced = second.next.1.unplaced ∧ Alike first.next.2 second.next.2 := by
  obtain ⟨token, later, gives, same, after⟩ := alike.gives first.gives_next
  rw [gives.next_eq]
  exact ⟨same, after⟩

theorem remaining (alike : Alike first second) :
    first.remaining.1.map Token.unplaced = second.remaining.1.map Token.unplaced ∧
      Alike first.remaining.2 second.remaining.2 := by
  -- by the calls of the first scanner; the sentinels come at the same call
  fun_induction Scanner.remaining first generalizing second with
  | case1 scanner token later next ended =>
      have both := alike.next
      rw [next] at both
      have also : second.next.1.isEof = true := by
        rw [← Token.isEof_unplaced, ← both.1, Token.isEof_unplaced, ended]
      rw [remaining_of_isEof also]
      exact ⟨congrArg (fun token => [token]) both.1, both.2⟩
  | case2 scanner token later next going tokens last rest ih =>
      have both := alike.next
      rw [next] at both
      have also : second.next.1.isEof = false := by
        rw [← Token.isEof_unplaced, ← both.1, Token.isEof_unplaced]
        simpa using going
      have after := ih both.2
      rw [rest] at after
      rw [remaining_of_proper also]
      refine ⟨?_, after.2⟩
      rw [List.map_cons, List.map_cons, both.1, after.1]

end Alike

theorem alike_start {unit other : SourceUnit} (options : Options)
    (chars : (Cell.translate unit.chars).map Cell.char = (Cell.translate other.chars).map Cell.char)
    (marks : (Cell.translate unit.chars).map Cell.malformed =
      (Cell.translate other.chars).map Cell.malformed) :
    Alike (.start options unit) (.start options other) :=
  ⟨⟨chars, marks⟩, rfl, rfl, rfl, rfl⟩

theorem Alike.agreesWith {first second : Scanner} (alike : Alike first second) :
    first.finish.AgreesWith second.finish := by
  obtain ⟨tokens, last⟩ := alike.remaining
  exact ⟨tokens, last.errors, last.names⟩

end Scanner

/-! ## Units -/

namespace SourceUnit

variable {unit other : SourceUnit}

theorem malformed_getElem_iff {index : Nat} (bound : index < (Cell.translate unit.chars).length) :
    (Cell.translate unit.chars)[index].malformed = true ↔
      index ∈ unit.malformedEscapes.map Prod.fst := by
  constructor
  · intro marked
    have found := List.getElem?_eq_getElem bound
    exact List.mem_map.mpr ⟨_, mem_malformedEscapes_iff.mpr ⟨⟨_, found, marked⟩, rfl⟩, rfl⟩
  · intro member
    obtain ⟨⟨place, error⟩, escape, rfl⟩ := List.mem_map.mp member
    obtain ⟨⟨cell, found, marked⟩, -⟩ := mem_malformedEscapes_iff.mp escape
    obtain ⟨_, here⟩ := List.getElem?_eq_some_iff.mp found
    rw [here, marked]

/-- The indices of the malformed escapes are all there is to the marks. -/
theorem map_malformed_eq
    (length : (Cell.translate unit.chars).length = (Cell.translate other.chars).length)
    (escapes : unit.malformedEscapes.map Prod.fst = other.malformedEscapes.map Prod.fst) :
    (Cell.translate unit.chars).map Cell.malformed =
      (Cell.translate other.chars).map Cell.malformed := by
  refine List.ext_getElem (by simpa using length) fun index left right => ?_
  rw [List.length_map] at left right
  rw [List.getElem_map, List.getElem_map, Bool.eq_iff_iff, malformed_getElem_iff left,
    malformed_getElem_iff right, escapes]

theorem agreesWith_tokenize (options : Options)
    (chars : (Cell.translate unit.chars).map Cell.char = (Cell.translate other.chars).map Cell.char)
    (escapes : unit.malformedEscapes.map Prod.fst = other.malformedEscapes.map Prod.fst) :
    (unit.tokenize options).AgreesWith (other.tokenize options) := by
  have lengths := congrArg List.length chars
  rw [List.length_map, List.length_map] at lengths
  exact (Scanner.alike_start options chars (map_malformed_eq lengths escapes)).agreesWith

end SourceUnit

/-- Units with the same characters and the same malformed escapes give the same tokens, errors and
names at different places. So do a unit without backslashes and any unit that writes some of its
characters as escapes. -/
theorem tokenize_transparent (options : Options) :
    (∀ unit other : SourceUnit,
      (Cell.translate unit.chars).map Cell.char = (Cell.translate other.chars).map Cell.char →
      unit.malformedEscapes.map Prod.fst = other.malformedEscapes.map Prod.fst →
        (unit.tokenize options).AgreesWith (other.tokenize options)) ∧
    ∀ plain written : SourceUnit, '\\' ∉ plain.chars → Respells plain.chars written.chars →
      (plain.tokenize options).AgreesWith (written.tokenize options) := by
  refine ⟨fun unit other => SourceUnit.agreesWith_tokenize options, ?_⟩
  intro plain written none respells
  obtain ⟨chars, sound⟩ := respells.translate none
  have verbatim := (Inert.of_not_mem none).translate
  have same : (Cell.translate plain.chars).map Cell.char = plain.chars := by
    rw [verbatim, List.map_map]
    exact List.map_id _
  have unmarked : ∀ cell ∈ Cell.translate plain.chars, cell.malformed = false := by
    intro cell member
    rw [verbatim] at member
    obtain ⟨c, -, rfl⟩ := List.mem_map.mp member
    rfl
  refine SourceUnit.agreesWith_tokenize options (same.trans chars.symm) ?_
  rw [SourceUnit.malformedEscapes_of_sound unmarked, SourceUnit.malformedEscapes_of_sound sound]

/-- A letter written as an escape before a malformed escape and a comment without end, and a text
with two of its characters written as escapes. -/
theorem tokenize_transparent_letter :
    (SourceUnit.mk "Letter.java" "'A' \\uq /*").malformedEscapes.map Prod.fst = [4] ∧
      (SourceUnit.tokenize ⟨"Letter.java", "'A' \\uq /*"⟩ .usual).AgreesWith
        (SourceUnit.tokenize ⟨"Letter.java", "'\\u0041' \\uq /*"⟩ .usual) ∧
      (SourceUnit.tokenize ⟨"Letter.java", "a=1;"⟩ .usual).AgreesWith
        (SourceUnit.tokenize ⟨"Letter.java", "\\u0061=\\uu0031;"⟩ .usual) := by
  obtain ⟨same, respelled⟩ := tokenize_transparent .usual
  have letter : Escape.Spells "\\u0061".toList 'a' :=
    .unit ⟨0, "0061".toList, by decide, by decide, List.all_eq_true.mp (by decide), rfl⟩
      rfl rfl (by decide)
  have digit : Escape.Spells "\\uu0031".toList '1' :=
    .unit ⟨1, "0031".toList, by decide, by decide, List.all_eq_true.mp (by decide), rfl⟩
      rfl rfl (by decide)
  have respells : Respells "a=1;".toList "\\u0061=\\uu0031;".toList :=
    .escaped letter (.kept (.escaped digit (.kept .done)))
  refine ⟨by decide +kernel, same _ _ (by decide +kernel) (by decide +kernel), ?_⟩
  exact respelled ⟨_, _⟩ ⟨_, _⟩ (by decide) respells

end JavaLex
