import JavaLex.Proofs.Scan.Frame
import JavaLex.Proofs.Scan.Interning

/-! # Texts one below the other

The scan of a text, a line feed and another text is the scan of the first followed by that of the
second. The scan of the first is taken up to its end, where the scanner of the whole stands at the
start of the second; the scan of the second goes on from there.
-/

namespace JavaLex

open Charset

/-! ## Names by their spelling -/

def Token.spelled (names : NameTable) (token : Token) : Token × Option (Option String) :=
  (token.nameless, token.name.map names.spelling?)

/-- The token with the spelling that its name has to have: its own text if it is an identifier. -/
def Token.selfSpelled (token : Token) : Token × Option (Option String) :=
  (token.nameless, if token.kind = .identifier then some (some token.text) else none)

namespace Scanner

variable {scanner later last : Scanner} {here : Cursor} {c : Char} {rest : List Char}
  {token : Token} {result : Option Token} {tokens : List Token}

theorem Run.spelled_eq (run : Run scanner tokens last) {names : NameTable}
    (grows : last.names.spellings <+: names.spellings) :
    ∀ token ∈ tokens, token.spelled names = token.selfSpelled := by
  intro token member
  rw [Token.spelled, run.name_eq grows token member, Token.selfSpelled]

end Scanner

/-- Tokens that agree but for their names and places have the same spellings. -/
theorem map_selfSpelled {names : NameTable} {shift : Shift} {tokens others : List Token}
    (known : ∀ token ∈ tokens, token.spelled names = token.selfSpelled)
    (same : others.map Token.nameless = tokens.map (fun token => token.nameless.moved shift)) :
    others.map Token.selfSpelled =
      tokens.map (fun token => (token.moved shift).spelled names) := by
  calc
    others.map Token.selfSpelled = (others.map Token.nameless).map Token.selfSpelled := by
      rw [List.map_map]
      rfl
    _ = tokens.map (fun token => (token.moved shift).selfSpelled) := by
      rw [same, List.map_map]
      rfl
    _ = tokens.map (fun token => (token.moved shift).spelled names) := by
      apply List.map_congr_left
      intro token member
      exact congrArg (Prod.map (Token.moved shift) id) (known token member).symm

theorem LexicalError.moved_zero (error : LexicalError) : error.moved ⟨0, 0⟩ = error := rfl

theorem Token.moved_zero (token : Token) : token.moved ⟨0, 0⟩ = token := by
  have error : token.error.map (LexicalError.moved ⟨0, 0⟩) = token.error := by
    cases token.error <;> rfl
  rw [moved, error]
  rfl

/-! ## Runs -/

namespace Scanner

variable {frame : Frame} {inner outer scanner later last : Scanner} {unit whole : SourceUnit}
  {index : Nat} {tokens : List Token} {result : Option Token}

theorem Run.framed (run : Run inner tokens last) (framed : Framed frame inner outer)
    (ends : frame.after = [])
    (sentinel : outer.source.endPosition = inner.source.endPosition.moved frame.shift) :
    ∃ tokens' last', Run outer tokens' last' ∧
      tokens'.map Token.nameless =
        tokens.map (fun token => token.nameless.moved frame.shift) ∧
      last'.errors = frame.before ++ last.errors.map (LexicalError.moved frame.shift) := by
  induction run generalizing outer with
  | exhausted exhausted =>
      refine ⟨_, _, .exhausted (framed.exhausted.trans exhausted), ?_, framed.errors⟩
      rw [sentinel]
      rfl
  | ended going ended =>
      have cursors := framed.atLexeme (.inl ends)
      have chars := cursors.chars
      rw [ended, ends] at chars
      refine ⟨_, _, .ended (framed.exhausted.trans going) chars, ?_, framed.errors⟩
      rw [cursors.position]
      rfl
  | skipped going chars accepts _ ih =>
      obtain ⟨result, later, passes, same, after⟩ :=
        framed.passes ⟨going, ⟨_, _, chars, rfl⟩, accepts⟩ (.inl ends)
      obtain ⟨tokens', last', run, equal, errors⟩ :=
        ih after (by rw [passes.accepts.source_eq, accepts.source_eq, sentinel])
      cases result with
      | none => exact ⟨tokens', last', passes.run_skipped run, equal, errors⟩
      | some => cases same
  | token going chars accepts _ ih =>
      obtain ⟨result, later, passes, same, after⟩ :=
        framed.passes ⟨going, ⟨_, _, chars, rfl⟩, accepts⟩ (.inl ends)
      obtain ⟨tokens', last', run, equal, errors⟩ :=
        ih after (by rw [passes.accepts.source_eq, accepts.source_eq, sentinel])
      cases result with
      | none => cases same
      | some token' =>
          refine ⟨token' :: tokens', last', passes.run_token run, ?_, errors⟩
          rw [List.map_cons, List.map_cons, equal, Option.some.inj same]

/-- What a lexeme gives depends on where it stands, not on where the scanner does. -/
theorem Accepts.of_cursor {cursor here : Cursor} {lexeme : Lexeme}
    (accepts : Accepts { scanner with cursor := cursor } here lexeme result later) :
    Accepts scanner here lexeme result later := by
  cases accepts with
  | faulty errors => exact .faulty errors
  | token clean outcome => exact .token clean outcome
  | name clean outcome identifier => exact .name clean outcome identifier
  | reserved clean outcome other classified => exact .reserved clean outcome other classified
  | comment clean outcome kept => exact .comment clean outcome kept
  | skipped clean outcome dropped => exact .skipped clean outcome dropped

theorem Run.of_atLexeme_eq {cursor : Cursor}
    (run : Run { scanner with cursor := cursor } tokens last)
    (same : Scanner.atLexeme { scanner with cursor := cursor } = scanner.atLexeme)
    (going : scanner.exhausted = false) : Run scanner tokens last := by
  generalize start : { scanner with cursor := cursor } = other at run
  cases run with
  | exhausted exhausted =>
      rw [← start] at exhausted
      exact absurd (going.symm.trans exhausted) (by decide)
  | ended _ ended =>
      subst start
      rw [same] at ended ⊢
      exact .ended going ended
  | skipped _ chars passed run =>
      subst start
      rw [same] at chars passed
      exact .skipped going chars passed.of_cursor run
  | token _ chars passed run =>
      subst start
      rw [same] at chars passed
      exact .token going chars passed.of_cursor run

theorem Run.tokens_ne_nil (run : Run scanner tokens last) : tokens ≠ [] := by
  induction run with
  | exhausted => exact List.cons_ne_nil _ _
  | ended => exact List.cons_ne_nil _ _
  | skipped _ _ _ _ ih => exact ih
  | token => exact List.cons_ne_nil _ _

/-- A lexeme that a run passes without an error that ends the scan. -/
theorem Run.recoverable_faults {lexeme : Lexeme} (run : Run later tokens last)
    (passes : Passes scanner lexeme result later)
    (recoverable : ∀ error ∈ last.errors, error.recoverable = true) :
    (∀ fault ∈ scanner.atLexeme.faults lexeme, fault.recoverable = true) ∧
      later.exhausted = false := by
  have faults : ∀ fault ∈ scanner.atLexeme.faults lexeme, fault.recoverable = true := by
    intro fault member
    apply recoverable (fault.locate scanner.atLexeme)
    apply run.errors_prefix.subset
    rw [passes.accepts.errors_eq]
    exact List.mem_append_right _ (List.mem_map_of_mem member)
  refine ⟨faults, Bool.eq_false_iff.mpr fun exhausted => ?_⟩
  obtain ⟨fault, member, fatal⟩ := passes.accepts.exists_fatal passes.going exhausted
  exact absurd ((faults fault member).symm.trans fatal) (by decide)

/-- Both scanners pass the lexeme and stand at the same cell after it. -/
theorem Framed.passes_standing (framed : Framed frame inner outer) {lexeme : Lexeme}
    (stands : StandsWithin unit index inner) (also : StandsAt whole index outer)
    (passes : Passes inner lexeme result later)
    (recoverable : ∀ fault ∈ inner.atLexeme.faults lexeme, fault.recoverable = true) :
    ∃ result' later' next, Passes outer lexeme result' later' ∧
      result'.map Token.nameless =
        result.map (fun token => token.nameless.moved frame.shift) ∧
      Framed frame later later' ∧ StandsWithin unit next later ∧ StandsAt whole next later' := by
  obtain ⟨result', later', others, same, after⟩ := framed.passes passes (.inr recoverable)
  obtain ⟨going, ⟨c, rest, chars, rfl⟩, accepts⟩ := passes
  have blank := framed.blankSize_eq (.inr (by rw [chars]; exact List.cons_ne_nil _ _))
  have there := also.accepts others.accepts
  rw [blank] at there
  exact ⟨result', later', _, others, same, after,
    ⟨stands.accepts accepts, stands.stop_le chars, stands.stop_eq going chars accepts⟩, there⟩

/-- A run up to the end of a text before a line feed goes on after the line feed. -/
theorem Run.goesOn (run : Run inner tokens last) (framed : Framed frame inner outer)
    {more : List Cell} (after : frame.after = Cell.verbatim '\n' :: more)
    (stands : StandsWithin unit index inner) (also : StandsAt whole index outer)
    (going : inner.exhausted = false)
    (recoverable : ∀ error ∈ last.errors, error.recoverable = true) :
    ∃ words mid, words.map Token.nameless =
        tokens.dropLast.map (fun token => token.nameless.moved frame.shift) ∧
      StandsAt whole ((Cell.translate unit.chars).length + 1) mid ∧
      mid.options = inner.options ∧ mid.exhausted = false ∧
      mid.errors = frame.before ++ last.errors.map (LexicalError.moved frame.shift) ∧
      ∀ rest final, Run mid rest final → Run outer (words ++ rest) final := by
  induction run generalizing outer index with
  | exhausted exhausted => exact absurd (going.symm.trans exhausted) (by decide)
  | @ended inner _ ended =>
      have left : index + (inner.cursor.cells.length + 1) =
          (Cell.translate unit.chars).length + 1 := by
        have within := stands.index_le
        have cells : inner.cursor.cells = (Cell.translate unit.chars).drop index := by
          rw [stands.cursor, Cursor.cells_advance]
          rfl
        rw [cells, List.length_drop]
        omega
      refine ⟨[], { outer with cursor := outer.cursor.advance (inner.cursor.cells.length + 1) },
        rfl, ⟨also.source, ?_⟩, framed.options, framed.exhausted.trans going, framed.errors,
        fun rest final run => run.of_atLexeme_eq ?_ (framed.exhausted.trans going)⟩
      · rw [also.cursor, ← Cursor.advance_add, left]
      · rw [framed.atLexeme_of_line after ended]
        exact congrArg (Cursor.advance _) (congrArg blankSize (framed.chars_advance_line after))
  | skipped _ chars accepts run ih =>
      have passes : Passes _ _ none _ := ⟨going, ⟨_, _, chars, rfl⟩, accepts⟩
      obtain ⟨faults, goesOn⟩ := run.recoverable_faults passes recoverable
      obtain ⟨result, later, next, others, same, after, here, there⟩ :=
        framed.passes_standing stands also passes faults
      obtain ⟨words, mid, tokens, standing, options, ready, errors, runs⟩ :=
        ih after here there goesOn recoverable
      cases result with
      | none =>
          exact ⟨words, mid, tokens, standing, options.trans accepts.options_eq, ready, errors,
            fun rest final run => others.run_skipped (runs rest final run)⟩
      | some => cases same
  | token _ chars accepts run ih =>
      have passes : Passes _ _ (some _) _ := ⟨going, ⟨_, _, chars, rfl⟩, accepts⟩
      obtain ⟨faults, goesOn⟩ := run.recoverable_faults passes recoverable
      obtain ⟨result, later, next, others, same, after, here, there⟩ :=
        framed.passes_standing stands also passes faults
      obtain ⟨words, mid, tokens, standing, options, ready, errors, runs⟩ :=
        ih after here there goesOn recoverable
      cases result with
      | none => cases same
      | some token' =>
          refine ⟨token' :: words, mid, ?_, standing, options.trans accepts.options_eq, ready,
            errors, fun rest final run => others.run_token (runs rest final run)⟩
          rw [List.dropLast_cons_of_ne_nil run.tokens_ne_nil, List.map_cons, List.map_cons, tokens,
            Option.some.inj same]

end Scanner

/-! ## Units -/

theorem Position.after_lineFeed (p : Position) (next : Option Cell) :
    p.after (Cell.verbatim '\n') next = ⟨p.offset + 1, p.line + 1, 1⟩ := by
  rw [Position.after, Cell.isEscaped_verbatim, Cell.width_verbatim]
  rfl

namespace SourceUnit

def above (first second : SourceUnit) : SourceUnit :=
  ⟨first.name, first.text ++ "\n" ++ second.text⟩

def shiftBelow (unit : SourceUnit) : Shift :=
  ⟨unit.size + 1, unit.lines.count⟩

def upperFrame (second : SourceUnit) : Frame :=
  ⟨Cell.verbatim '\n' :: Cell.translate second.chars, ⟨0, 0⟩, [], .inr ⟨_, rfl⟩⟩

def lowerFrame (first : SourceUnit) (errors : List LexicalError) : Frame :=
  ⟨[], first.shiftBelow, errors, .inl rfl⟩

theorem chars_above (first second : SourceUnit) :
    (first.above second).chars = first.chars ++ '\n' :: second.chars := by
  simp [above, chars]

theorem translate_above (first second : SourceUnit) :
    Cell.translate (first.above second).chars =
      Cell.translate first.chars ++ Cell.verbatim '\n' :: Cell.translate second.chars := by
  rw [chars_above]
  exact Cell.translateAfter_append_lineFeed false first.chars second.chars

variable {first second : SourceUnit}

/-- The last cell of a text is settled unless it is one of the two that are not. -/
theorem settled_of_getLast? (substitute :
      ((Cell.translate first.chars).map Cell.char).getLast? ≠ some Charset.substitute)
    (carriage : first.chars.getLast? ≠ some '\r') :
    ∀ cell, (Cell.translate first.chars).getLast? = some cell → cell.Settled := by
  intro cell last
  constructor
  · intro same
    apply substitute
    rw [List.getLast?_map, last, Option.map_some, same]
  · intro same
    have spelled := Cell.wellSpelled_of_mem_translate (List.mem_of_getLast? last)
    apply spelled.isEscaped_iff.mpr
    refine spelled.resolve_left fun plain => carriage ?_
    obtain ⟨front, cells⟩ := List.getLast?_eq_some_iff.mp last
    rw [← Cell.raw_translate first.chars, cells, List.flatMap_append, List.flatMap_singleton, plain,
      same, List.getLast?_concat]

section Settled

variable (second)
  (settled : ∀ cell, (Cell.translate first.chars).getLast? = some cell → cell.Settled)

include settled

theorem framed_upper : first.cursor.Framed second.upperFrame (first.above second).cursor :=
  ⟨first.translate_above second, rfl, .inr settled⟩

theorem position_below :
    ((first.above second).cursor.advance ((Cell.translate first.chars).length + 1)).position =
      Position.start.moved first.shiftBelow := by
  have upper := (framed_upper second settled).advance
    (Nat.le_refl (Cell.translate first.chars).length)
  have cells : ((first.above second).cursor.advance (Cell.translate first.chars).length).cells =
      Cell.verbatim '\n' :: Cell.translate second.chars := by
    rw [upper.cells, Cursor.cells_advance, cursor, Cursor.cells_ofCells,
      List.drop_of_length_le (Nat.le_refl _)]
    rfl
  rw [← Cursor.step_advance]
  simp only [Cursor.step, cells]
  rw [upper.position, position_advance_length, Position.after_lineFeed]
  simp only [upperFrame, Position.moved, Position.start, shiftBelow, offset_endPosition,
    line_endPosition]
  simp [Nat.add_comm]

theorem framed_lower (errors : List LexicalError) :
    second.cursor.Framed (first.lowerFrame errors)
      ((first.above second).cursor.advance ((Cell.translate first.chars).length + 1)) where
  cells := by
    rw [Cursor.cells_advance, cursor, Cursor.cells_ofCells, translate_above, List.drop_append,
      List.drop_of_length_le (Nat.le_succ _), Nat.add_sub_cancel_left]
    exact (List.append_nil _).symm
  position := position_below second settled
  settled := .inl rfl

theorem endPosition_above :
    (first.above second).endPosition = second.endPosition.moved first.shiftBelow := by
  have lower := (framed_lower second settled []).advance
    (Nat.le_refl (Cell.translate second.chars).length)
  have length : (Cell.translate (first.above second).chars).length =
      (Cell.translate first.chars).length + 1 + (Cell.translate second.chars).length := by
    rw [translate_above, List.length_append, List.length_cons]
    omega
  have place := lower.position
  rw [← Cursor.advance_add, ← length, position_advance_length, position_advance_length] at place
  exact place

end Settled

end SourceUnit

/-- If the scan of a text goes through to its end, which is neither a substitute character nor a
carriage return as written, then the tokens and errors of that text above another one are its own,
without the sentinel, and those of the other one, moved down. -/
theorem tokenize_above (first second : SourceUnit) (options : Options)
    (recoverable : ∀ error ∈ (first.tokenize options).errors, error.recoverable = true)
    (substitute :
      ((Cell.translate first.chars).map Cell.char).getLast? ≠ some Charset.substitute)
    (carriage : first.chars.getLast? ≠ some '\r') :
    ((first.above second).tokenize options).tokens.map
          (Token.spelled ((first.above second).tokenize options).names) =
        (first.tokenize options).tokens.dropLast.map
            (Token.spelled (first.tokenize options).names) ++
          (second.tokenize options).tokens.map (fun token =>
            (token.moved first.shiftBelow).spelled (second.tokenize options).names) ∧
      ((first.above second).tokenize options).errors =
        (first.tokenize options).errors ++
          (second.tokenize options).errors.map (LexicalError.moved first.shiftBelow) := by
  have settled := SourceUnit.settled_of_getLast? substitute carriage
  obtain ⟨upper, upperRun, upperErrors, upperNames⟩ := first.run_tokenize options
  obtain ⟨lower, lowerRun, lowerErrors, lowerNames⟩ := second.run_tokenize options
  rw [upperErrors] at recoverable
  have start : Scanner.Framed second.upperFrame (.start options first)
      (.start options (first.above second)) :=
    ⟨SourceUnit.framed_upper second settled, rfl, rfl, rfl⟩
  obtain ⟨words, mid, front, stands, same, going, errors, runs⟩ :=
    upperRun.goesOn start rfl (Scanner.standsWithin_start options first)
      (Scanner.standsAt_start options _) rfl recoverable
  have below : Scanner.Framed (first.lowerFrame upper.errors) (.start options second) mid := by
    refine ⟨?_, same, going, ?_⟩
    · rw [stands.cursor]
      exact SourceUnit.framed_lower second settled upper.errors
    · rw [errors]
      exact (List.map_id'' (LexicalError.moved_zero) _).trans (List.append_nil _).symm
  obtain ⟨rest, last, lowerRun', back, reported⟩ := lowerRun.framed below rfl (by
    rw [stands.source]
    exact SourceUnit.endPosition_above second settled)
  have run := runs rest last lowerRun'
  have upperSpelled := map_selfSpelled (fun token member =>
    upperRun.spelled_eq (List.prefix_refl _) token (List.dropLast_subset _ member)) front
  have lowerSpelled := map_selfSpelled (lowerRun.spelled_eq (List.prefix_refl _)) back
  simp only [SourceUnit.upperFrame, Token.moved_zero] at upperSpelled
  rw [run.tokenize_eq]
  dsimp only
  constructor
  · rw [List.map_congr_left (run.spelled_eq (List.prefix_refl _)), List.map_append, upperSpelled,
      lowerSpelled, upperNames, lowerNames]
    rfl
  · rw [reported, upperErrors, lowerErrors]
    rfl

/-- A number that needs another digit, above a string that is not closed. The two texts have a
name in common. -/
theorem tokenize_above_number :
    ((SourceUnit.above ⟨"Sum.java", "a = 0x"⟩ ⟨"Rest.java", "b + a \"c"⟩).tokenize
        .usual).tokens.map (fun token =>
          (token.text, token.line, token.name.map (SourceUnit.tokenize
            (SourceUnit.above ⟨"Sum.java", "a = 0x"⟩ ⟨"Rest.java", "b + a \"c"⟩)
              .usual).names.spelling?)) =
      [("a", 1, some (some "a")), ("=", 1, none), ("0x", 1, none), ("b", 2, some (some "b")),
        ("+", 2, none), ("a", 2, some (some "a")), ("\"c", 2, none), ("", 2, none)] ∧
    ((SourceUnit.above ⟨"Sum.java", "a = 0x"⟩ ⟨"Rest.java", "b + a \"c"⟩).tokenize
        .usual).errors =
      [⟨.malformedNumber, ⟨4, 1, 5⟩, true⟩, ⟨.unterminatedString, ⟨13, 2, 7⟩, false⟩] := by
  obtain ⟨tokens, errors⟩ := tokenize_above ⟨"Sum.java", "a = 0x"⟩ ⟨"Rest.java", "b + a \"c"⟩
    .usual (by decide +kernel) (by decide +kernel) (by decide +kernel)
  constructor
  · have entries := congrArg (List.map fun entry : Token × Option (Option String) =>
      (entry.1.text, entry.1.line, entry.2)) tokens
    rw [List.map_map] at entries
    exact entries.trans (by decide +kernel)
  · exact errors.trans (by decide +kernel)

end JavaLex
