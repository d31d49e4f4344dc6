import JavaLex.Proofs.Scan.Errors

/-! # Exhausted scanners

An error that ends the scan takes the rest of the text with it. A scanner that has reported one, or
has given the sentinel, gives the same sentinel for ever and changes no more; any other scanner
goes on.
-/

namespace JavaLex

namespace Scanner

variable {unit : SourceUnit} {scanner later : Scanner} {index : Nat} {lexeme : Lexeme}
  {token : Token}

/-! ## One call -/

/-- Calls of an exhausted scanner give the sentinel and leave the scanner as it is. -/
theorem calls_of_exhausted (exhausted : scanner.exhausted = true) (count : Nat) :
    scanner.calls count =
      (List.replicate count (.eof scanner.source.endPosition), scanner) := by
  induction count with
  | zero => rfl
  | succ count ih =>
      rw [calls_succ, ih, next_of_exhausted exhausted, List.replicate_succ']

/-- The cursor at the end and the line map give the same sentinel. -/
theorem Gives.eq_sentinel (gives : Gives scanner token later)
    (stands : StandsWithin unit index scanner) (eof : token.isEof = true) :
    token = .eof (unit.position unit.size) := by
  induction gives generalizing index with
  | exhausted => rw [SourceUnit.endPosition, stands.source]
  | ended _ ended => exact congrArg Token.eof (stands.position_atLexeme ended)
  | token passes =>
      rw [passes.isEof_eq_false] at eof
      cases eof
  | skipped passes _ ih =>
      obtain ⟨first, -, -, -, goesOn⟩ := stands.passes passes
      exact ih goesOn eof

/-- A token that exhausts the scanner without being the sentinel has the rest of the text. -/
theorem Gives.stop_eq_size (gives : Gives scanner token later)
    (stands : StandsWithin unit index scanner) (proper : token.isEof = false)
    (exhausted : later.exhausted = true) : token.span.stop = unit.size := by
  induction gives generalizing index with
  | exhausted => cases proper
  | ended => cases proper
  | token passes =>
      obtain ⟨first, -, here, -, goesOn⟩ := stands.passes passes
      rw [passes.accepts.span_eq, here, Cursor.spanOf, ← Cursor.advance_add,
        unit.offset_advance_cursor, unit.offset_advance_cursor, goesOn.ended exhausted,
        unit.rawOffset_length]
  | skipped passes _ ih =>
      obtain ⟨first, -, -, -, goesOn⟩ := stands.passes passes
      exact ih goesOn proper exhausted

/-- A scanner that goes on has met no error that ends the scan, and no scanner meets two. -/
theorem invariant_fatal_le :
    Invariant fun scanner =>
      scanner.errors.countP (fun error => !error.recoverable) ≤ scanner.exhausted.toNat where
  passes := by
    intro scanner later lexeme result before passes
    rw [passes.going] at before
    rw [passes.accepts.errors_eq, List.countP_append]
    by_cases exhausted : later.exhausted = true
    · obtain ⟨c, rest, -, rfl⟩ := passes.reads
      have fatal := scanner.atLexeme.fatal_faults_le c rest
      have errors : (scanner.atLexeme.errorsOf (scanner.atLexeme.lexeme c rest)).countP
          (fun error => !error.recoverable) =
            (scanner.atLexeme.faults (scanner.atLexeme.lexeme c rest)).countP
              (fun fault => !fault.recoverable) := List.countP_map
      rw [errors, exhausted]
      simp only [Bool.toNat_false, Bool.toNat_true] at before ⊢
      omega
    · have none : (scanner.atLexeme.errorsOf lexeme).countP
          (fun error => !error.recoverable) = 0 := by
        rw [List.countP_eq_zero]
        intro error member fatal
        exact exhausted (passes.accepts.exhausted_of_fatal member (by simpa using fatal))
      rw [none]
      simp only [Bool.toNat_false] at before
      omega
  ended := by
    intro scanner before going _
    rw [going] at before
    exact Nat.le_trans before (Nat.zero_le _)

end Scanner

/-! ## Calls on a unit -/

namespace SourceUnit

variable (unit : SourceUnit) (options : Options) (count : Nat)

theorem source_scannerAfter : (unit.scannerAfter options count).source = unit := by
  obtain ⟨index, stands⟩ := unit.standsWithin_scannerAfter options count
  exact stands.source

theorem eq_sentinel_of_mem_firstTokens :
    ∀ token ∈ unit.firstTokens options count, token.isEof = true →
      token = .eof (unit.position unit.size) := by
  intro token member eof
  obtain ⟨_, _, stands, gives⟩ := unit.exists_gives_of_mem options count member
  exact gives.eq_sentinel stands eof

theorem exhausted_scannerAfter_iff :
    (unit.scannerAfter options count).exhausted = true ↔
      (∃ token ∈ unit.firstTokens options count, token.isEof = true) ∨
        ∃ error ∈ (unit.scannerAfter options count).errors, error.recoverable = false := by
  induction count with
  | zero => simp [scannerAfter, firstTokens, Scanner.start]
  | succ count ih =>
      obtain ⟨index, stands⟩ := unit.standsWithin_scannerAfter options count
      obtain ⟨block, errors, -, -, exhausted⟩ :=
        (unit.scannerAfter options count).gives_next.exists_block stands
      rw [scannerAfter_succ, exhausted, ih, firstTokens_succ, errors]
      simp only [List.mem_append, List.mem_singleton, or_and_right, exists_or, exists_eq_left]
      exact or_or_or_comm

/-- An error that ends the scan belongs to a token that has the rest of the text, and only the
sentinel comes after that token. -/
theorem exists_last_token {error : LexicalError}
    (member : error ∈ (unit.scannerAfter options count).errors)
    (fatal : error.recoverable = false) :
    ∃ front token block repeats,
      unit.firstTokens options count =
        front ++ token :: List.replicate repeats (.eof (unit.position unit.size)) ∧
      token.isError = true ∧ token.span.stop = unit.size ∧
      (unit.scannerAfter options count).errors =
        (unit.scannerAfter options front.length).errors ++ block ∧
      token.Carries block ∧ error ∈ block := by
  induction count with
  | zero => cases member
  | succ count ih =>
      obtain ⟨index, stands⟩ := unit.standsWithin_scannerAfter options count
      have gives := (unit.scannerAfter options count).gives_next
      obtain ⟨block, errors, carries, none, exhausted⟩ := gives.exists_block stands
      rw [scannerAfter_succ, errors] at member
      rcases List.mem_append.mp member with early | new
      · -- an error of an earlier call has exhausted the scanner, and this call adds a sentinel
        have ended := (unit.exhausted_scannerAfter_iff options count).mpr (.inr ⟨error, early, fatal⟩)
        obtain ⟨front, token, block, repeats, tokens, kind, stop, split, carries, within⟩ := ih early
        have sentinel : (unit.scannerAfter options count).next =
            (.eof (unit.position unit.size), unit.scannerAfter options count) := by
          rw [Scanner.next_of_exhausted ended, unit.source_scannerAfter]
          rfl
        refine ⟨front, token, block, repeats + 1, ?_, kind, stop, ?_, carries, within⟩
        · rw [firstTokens_succ, sentinel, tokens, List.append_assoc, List.cons_append,
            ← List.replicate_succ']
        · rw [scannerAfter_succ, sentinel]
          exact split
      · have kind : (unit.scannerAfter options count).next.1.isError = true := by
          by_cases kind : (unit.scannerAfter options count).next.1.isError = true
          · exact kind
          · rw [none (by simpa using kind)] at new
            cases new
        have proper : (unit.scannerAfter options count).next.1.isEof = false := by
          rw [Token.isEof, Token.isError_iff.mp kind]
          rfl
        have ended := exhausted.mpr (.inr (.inr ⟨error, new, fatal⟩))
        refine ⟨unit.firstTokens options count, _, block, 0, rfl, kind,
          gives.stop_eq_size stands proper ended, ?_, carries kind, new⟩
        rw [firstTokens, Scanner.length_calls]
        exact errors

end SourceUnit

/-- At most one error ends the scan of a unit; the token that it belongs to has the rest of the
text, and only the sentinel comes after it. A scanner is exhausted exactly when it has given the
sentinel or reported such an error, and from then on it gives the sentinel and stays as it is. All
sentinels are the one that the unit places at its end. -/
theorem exhausted_for_ever (unit : SourceUnit) (options : Options) (count : Nat) :
    (unit.scannerAfter options count).errors.countP (fun error => !error.recoverable) ≤ 1 ∧
    (∀ error ∈ (unit.scannerAfter options count).errors, error.recoverable = false →
      ∃ front token block repeats,
        unit.firstTokens options count =
          front ++ token :: List.replicate repeats (.eof (unit.position unit.size)) ∧
        token.isError = true ∧ token.span.stop = unit.size ∧
        (unit.scannerAfter options count).errors =
          (unit.scannerAfter options front.length).errors ++ block ∧
        token.Carries block ∧ error ∈ block) ∧
    ((unit.scannerAfter options count).exhausted = true ↔
      (∃ token ∈ unit.firstTokens options count, token.isEof = true) ∨
        ∃ error ∈ (unit.scannerAfter options count).errors, error.recoverable = false) ∧
    ((unit.scannerAfter options count).exhausted = true → ∀ more,
      (unit.scannerAfter options count).calls more =
        (List.replicate more (.eof (unit.position unit.size)),
          unit.scannerAfter options count)) ∧
    ∀ token ∈ unit.firstTokens options count, token.isEof = true →
      token = .eof (unit.position unit.size) := by
  refine ⟨?_, fun error => unit.exists_last_token options count,
    unit.exhausted_scannerAfter_iff options count, fun exhausted more => ?_,
    unit.eq_sentinel_of_mem_firstTokens options count⟩
  · have start : (Scanner.start options unit).errors.countP (fun error => !error.recoverable) ≤
        (Scanner.start options unit).exhausted.toNat := Nat.le_refl 0
    exact Nat.le_trans (Scanner.invariant_fatal_le.calls start count) (Bool.toNat_le _)
  · rw [Scanner.calls_of_exhausted exhausted, unit.source_scannerAfter]
    rfl

/-- A comment without end: its token is the second, and the third call gives the sentinel. -/
theorem exhausted_for_ever_comment :
    (SourceUnit.scannerAfter ⟨"Note.java", "x /*"⟩ .usual 1).exhausted = false ∧
      (SourceUnit.scannerAfter ⟨"Note.java", "x /*"⟩ .usual 2).exhausted = true ∧
      ∀ more, ((SourceUnit.scannerAfter ⟨"Note.java", "x /*"⟩ .usual 2).calls more).1 =
        List.replicate more (.eof ⟨4, 1, 5⟩) := by
  have exhausted : (SourceUnit.scannerAfter ⟨"Note.java", "x /*"⟩ .usual 2).exhausted = true := by
    decide +kernel
  have sentinel : (SourceUnit.mk "Note.java" "x /*").endPosition = ⟨4, 1, 5⟩ := by
    decide +kernel
  obtain ⟨-, -, -, ever, -⟩ := exhausted_for_ever ⟨"Note.java", "x /*"⟩ .usual 2
  refine ⟨by decide +kernel, exhausted, fun more => ?_⟩
  rw [ever exhausted more, ← sentinel]
  rfl

end JavaLex
