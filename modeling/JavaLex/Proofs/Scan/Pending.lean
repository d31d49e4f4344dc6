import JavaLex.Proofs.Scan.Escapes
import JavaLex.Scanner.Pending

/-! # Pending escapes in step with a scan

The pointer to the next pending escape keeps up with the cursor, through separators, skipped
comments and errors. So a scanner that follows its pending escapes finds the same tokens and errors
as one that looks at the marks of its cells.
-/

namespace JavaLex

namespace PendingEscapes

/-- What has been reported is what stands before the index. -/
structure KeptUp (pending : PendingEscapes) (index : Nat) : Prop where
  passed : ∀ escape ∈ pending.escapes.take pending.next, escape.1 < index
  waiting : ∀ escape ∈ pending.escapes.drop pending.next, index ≤ escape.1

variable {pending : PendingEscapes} {index later stop : Nat}

theorem KeptUp.reported_eq (keptUp : pending.KeptUp index) :
    pending.reported = pending.escapes.filter fun escape => decide (escape.1 < index) := by
  have passed : (pending.escapes.take pending.next).filter
      (fun escape => decide (escape.1 < index)) = pending.escapes.take pending.next :=
    List.filter_eq_self.mpr fun escape member => decide_eq_true (keptUp.passed escape member)
  have waiting : (pending.escapes.drop pending.next).filter
      (fun escape => decide (escape.1 < index)) = [] := by
    apply List.filter_eq_nil_iff.mpr
    intro escape member before
    exact Nat.not_lt_of_le (keptUp.waiting escape member) (of_decide_eq_true before)
  conv => rhs; rw [← List.take_append_drop pending.next pending.escapes]
  rw [List.filter_append, passed, waiting, List.append_nil, reported]

theorem KeptUp.of_le (keptUp : pending.KeptUp index) (le : index ≤ later)
    (none : ∀ escape ∈ pending.escapes, ¬ (index ≤ escape.1 ∧ escape.1 < later)) :
    pending.KeptUp later where
  passed escape member := Nat.lt_of_lt_of_le (keptUp.passed escape member) le
  waiting escape member := by
    have after := keptUp.waiting escape member
    have outside := none escape (List.mem_of_mem_drop member)
    omega

/-- The head of the waiting escapes is the one pointed to; the others stand after it. -/
theorem drop_next {escape : Nat × LexicalError} (found : pending.escapes[pending.next]? = some escape)
    (sorted : pending.escapes.Pairwise fun a b => a.1 < b.1) :
    pending.escapes.drop pending.next = escape :: pending.escapes.drop (pending.next + 1) ∧
      ∀ other ∈ pending.escapes.drop (pending.next + 1), escape.1 < other.1 := by
  obtain ⟨bound, here⟩ := List.getElem?_eq_some_iff.mp found
  have cut := List.drop_eq_getElem_cons bound
  rw [here] at cut
  have ordered : (pending.escapes.drop pending.next).Pairwise fun a b => a.1 < b.1 := sorted.drop
  rw [cut, List.pairwise_cons] at ordered
  exact ⟨cut, ordered.1⟩

/-- There is an escape at the index just if the pointer points to it. -/
theorem KeptUp.isAt_iff (keptUp : pending.KeptUp index)
    (sorted : pending.escapes.Pairwise fun a b => a.1 < b.1) :
    pending.isAt index = true ↔ ∃ error, (index, error) ∈ pending.escapes := by
  constructor
  · intro here
    obtain ⟨escape, found, same⟩ := (Option.any_eq_true _ _).mp here
    exact ⟨escape.2, eq_of_beq same ▸ List.mem_of_getElem? found⟩
  · rintro ⟨error, member⟩
    rw [← List.take_append_drop pending.next pending.escapes] at member
    have waiting := (List.mem_append.mp member).resolve_left fun early =>
      Nat.lt_irrefl _ (keptUp.passed _ early)
    cases found : pending.escapes[pending.next]? with
    | none =>
        rw [List.drop_eq_nil_of_le (List.getElem?_eq_none_iff.mp found)] at waiting
        cases waiting
    | some escape =>
        obtain ⟨cut, after⟩ := drop_next found sorted
        rw [cut] at waiting
        have first := keptUp.waiting escape (cut ▸ List.mem_cons_self)
        rcases List.mem_cons.mp waiting with rfl | further
        · simp [isAt, found]
        · have := after _ further
          omega

/-- Taking the escapes up to an index keeps up with it, and reports what it takes. -/
theorem KeptUp.take (keptUp : pending.KeptUp index)
    (sorted : pending.escapes.Pairwise fun a b => a.1 < b.1) (le : index ≤ stop) :
    (pending.take stop).2.escapes = pending.escapes ∧ (pending.take stop).2.KeptUp stop ∧
      (pending.take stop).2.reported.map Prod.snd =
        pending.reported.map Prod.snd ++ (pending.take stop).1 := by
  fun_induction PendingEscapes.take pending stop generalizing index with
  | case1 pending found =>
      have ended := List.drop_eq_nil_of_le (List.getElem?_eq_none_iff.mp found)
      refine ⟨rfl, ⟨?_, ?_⟩, (List.append_nil _).symm⟩
      · exact fun escape member => Nat.lt_of_lt_of_le (keptUp.passed escape member) le
      · rw [ended]
        exact fun escape member => by cases member
  | case2 pending place error found after =>
      obtain ⟨cut, behind⟩ := drop_next found sorted
      refine ⟨rfl, ⟨?_, ?_⟩, (List.append_nil _).symm⟩
      · exact fun escape member => Nat.lt_of_lt_of_le (keptUp.passed escape member) le
      · rw [cut]
        exact List.forall_mem_cons.mpr ⟨after, fun escape member =>
          Nat.le_trans after (Nat.le_of_lt (behind escape member))⟩
  | case3 pending place error found before errors later taken ih =>
      obtain ⟨cut, behind⟩ := drop_next found sorted
      have more : pending.escapes.take (pending.next + 1) =
          pending.escapes.take pending.next ++ [(place, error)] := by
        rw [List.take_add_one, found]
        rfl
      have moved : PendingEscapes.KeptUp { pending with next := pending.next + 1 } (place + 1) := by
        constructor
        · intro escape member
          rw [more] at member
          rcases List.mem_append.mp member with early | new
          · have := keptUp.passed escape early
            have := keptUp.waiting (place, error) (cut ▸ List.mem_cons_self)
            omega
          · rw [List.mem_singleton.mp new]
            exact Nat.lt_succ_self place
        · exact behind
      obtain ⟨escapes, keepsUp, reported⟩ := ih moved sorted (Nat.lt_of_not_le before)
      rw [taken] at escapes keepsUp reported
      refine ⟨escapes, keepsUp, ?_⟩
      rw [reported, PendingEscapes.reported, more, List.map_append, List.append_assoc]
      rfl

end PendingEscapes

namespace PendingScanner

variable {unit : SourceUnit} {scanner later : PendingScanner} {c : Char} {rest : List Char}

/-- The scan stands where its index says, with the escapes of the unit, and the pointer has kept
up. -/
structure InStep (unit : SourceUnit) (scanner : PendingScanner) : Prop where
  stands : Scanner.StandsWithin unit scanner.index scanner.base
  escapes : scanner.pending.escapes = unit.malformedEscapes
  keptUp : scanner.pending.KeptUp scanner.index

theorem inStep_start (options : Options) (unit : SourceUnit) :
    InStep unit (.start options unit unit.malformedEscapes) where
  stands := Scanner.standsWithin_start options unit
  escapes := rfl
  keptUp := by
    constructor
    · exact fun escape member => absurd member List.not_mem_nil
    · exact fun escape _ => Nat.zero_le escape.1

theorem InStep.sorted (inStep : InStep unit scanner) :
    scanner.pending.escapes.Pairwise fun a b => a.1 < b.1 :=
  inStep.escapes ▸ unit.pairwise_malformedEscapes

theorem InStep.reported_eq (inStep : InStep unit scanner) :
    scanner.pending.reported =
      unit.malformedEscapes.filter fun escape => decide (escape.1 < scanner.index) := by
  rw [inStep.keptUp.reported_eq, inStep.escapes]

theorem InStep.keptUp_first (inStep : InStep unit scanner) : scanner.pending.KeptUp scanner.first := by
  apply inStep.keptUp.of_le (Nat.le_add_right _ _)
  rw [inStep.escapes]
  exact SourceUnit.not_mem_of_unmarked (SourceUnit.malformedWithin_of_separates fun place =>
    inStep.stands.separates)

theorem InStep.lexeme_eq (inStep : InStep unit scanner) (c : Char) (rest : List Char) :
    scanner.lexeme c rest = scanner.base.atLexeme.lexeme c rest := by
  have here : scanner.base.atLexeme = unit.cursor.advance scanner.first := inStep.stands.atLexeme
  have marked : scanner.base.atLexeme.atMalformed = true ↔
      ∃ cell, (Cell.translate unit.chars)[scanner.first]? = some cell ∧ cell.malformed = true := by
    rw [here, Cursor.atMalformed, Cursor.cells_advance, List.head?_drop]
    exact Option.any_eq_true _ _
  have same : scanner.pending.isAt scanner.first = scanner.base.atLexeme.atMalformed := by
    rw [Bool.eq_iff_iff, inStep.keptUp_first.isAt_iff inStep.sorted, inStep.escapes, marked]
    simp [SourceUnit.mem_malformedEscapes_iff]
  rw [lexeme, Cursor.lexeme, same]

/-- The escapes that are taken are those among the cells of the lexeme. -/
theorem InStep.take (inStep : InStep unit scanner) {lexeme : Lexeme}
    (bound : scanner.first + lexeme.size ≤ (Cell.translate unit.chars).length) :
    (scanner.pending.take (scanner.first + lexeme.size)).1 =
      ((unit.cursor.advance scanner.first).malformedWithin lexeme.size).map fun index =>
        (Fault.of .malformedEscape index).locate (unit.cursor.advance scanner.first) := by
  obtain ⟨escapes, keptUp, reported⟩ := inStep.keptUp_first.take inStep.sorted
    (Nat.le_add_right scanner.first lexeme.size)
  rw [keptUp.reported_eq, inStep.keptUp_first.reported_eq, escapes, inStep.escapes] at reported
  exact List.append_cancel_left (reported.symm.trans (SourceUnit.escapesBefore_add bound))

/-- What is taken and the faults of the lexeme make up its errors. -/
theorem InStep.errors_eq (inStep : InStep unit scanner)
    (chars : scanner.base.atLexeme.chars = c :: rest) :
    ((scanner.pending.take (scanner.first + (scanner.base.atLexeme.lexeme c rest).size)).1 ++
        (scanner.base.atLexeme.lexeme c rest).outcome.faults.map
          (Fault.locate scanner.base.atLexeme)).mergeSort
            (fun a b => a.position.offset ≤ b.position.offset) =
      scanner.base.atLexeme.errorsOf (scanner.base.atLexeme.lexeme c rest) := by
  have bound : scanner.first + (scanner.base.atLexeme.lexeme c rest).size ≤
      (Cell.translate unit.chars).length := inStep.stands.stop_le chars
  have inside := (scanner.base.atLexeme.contained_lexeme c rest).index_lt
  have here : scanner.base.atLexeme = unit.cursor.advance scanner.first := inStep.stands.atLexeme
  generalize scanner.base.atLexeme.lexeme c rest = lexeme at bound inside ⊢
  rw [here, inStep.take bound, SourceUnit.errorsOf_eq_mergeSort bound inside, List.map_append,
    List.map_map]
  rfl

theorem InStep.accept_eq (inStep : InStep unit scanner)
    (chars : scanner.base.atLexeme.chars = c :: rest) :
    let lexeme := scanner.base.atLexeme.lexeme c rest
    let stop := scanner.first + lexeme.size
    scanner.accept (scanner.lexeme c rest) =
      ((scanner.base.accept scanner.base.atLexeme lexeme).1,
        ⟨(scanner.base.accept scanner.base.atLexeme lexeme).2, stop,
          (scanner.pending.take stop).2⟩) := by
  rw [inStep.lexeme_eq, accept]
  dsimp only
  rw [inStep.errors_eq chars]
  rfl

theorem InStep.passes (inStep : InStep unit scanner) {lexeme : Lexeme} {result : Option Token}
    {later : Scanner} (passes : Scanner.Passes scanner.base lexeme result later) :
    InStep unit ⟨later, scanner.first + lexeme.size,
      (scanner.pending.take (scanner.first + lexeme.size)).2⟩ := by
  obtain ⟨going, ⟨c, rest, chars, rfl⟩, accepts⟩ := passes
  obtain ⟨escapes, keptUp, -⟩ :=
    inStep.keptUp_first.take inStep.sorted (Nat.le_add_right _ _)
  exact {
    stands := ⟨inStep.stands.accepts accepts, inStep.stands.stop_le chars,
      inStep.stands.stop_eq going chars accepts⟩
    escapes := escapes.trans inStep.escapes
    keptUp := keptUp }

theorem InStep.first_eq (inStep : InStep unit scanner) (ended : scanner.base.atLexeme.chars = []) :
    scanner.first = (Cell.translate unit.chars).length := by
  have past : (Cell.translate unit.chars).length ≤ scanner.first := inStep.stands.length_le ended
  have within := inStep.stands.index_le
  have blanks := Charset.blankSize_le scanner.base.cursor.chars
  rw [inStep.stands.chars, List.length_drop, List.length_map, ← inStep.stands.chars] at blanks
  rw [first] at past ⊢
  omega

/-- A lexeme that is accepted is passed by the scan beneath as well, and both stay in step. -/
theorem InStep.accepted (inStep : InStep unit scanner) (going : scanner.base.exhausted = false)
    (chars : scanner.base.atLexeme.chars = c :: rest) {result : Option Token}
    (accepted : scanner.accept (scanner.lexeme c rest) = (result, later)) :
    Scanner.Passes scanner.base (scanner.base.atLexeme.lexeme c rest) result later.base ∧
      InStep unit later := by
  have accepts := scanner.base.accepts_accept scanner.base.atLexeme c rest
  rw [inStep.accept_eq chars] at accepted
  obtain ⟨rfl, rfl⟩ := Prod.mk.inj accepted
  have passes : Scanner.Passes scanner.base (scanner.base.atLexeme.lexeme c rest) _ _ :=
    ⟨going, ⟨c, rest, chars, rfl⟩, accepts⟩
  exact ⟨passes, inStep.passes passes⟩

theorem InStep.scan (inStep : InStep unit scanner) (going : scanner.base.exhausted = false) :
    scanner.scan.1 = scanner.base.scan.1 ∧ scanner.scan.2.base = scanner.base.scan.2 ∧
      InStep unit scanner.scan.2 := by
  fun_induction PendingScanner.scan scanner with
  | case1 scanner ended =>
      have same := (Scanner.Gives.ended going ended).next_eq
      rw [Scanner.next_of_going going] at same
      rw [same]
      refine ⟨rfl, rfl, ⟨?_, inStep.escapes, inStep.keptUp_first⟩⟩
      rw [inStep.first_eq ended]
      exact inStep.stands.atEnd ended
  | case2 scanner c rest chars token later accepted =>
      obtain ⟨passes, stays⟩ := inStep.accepted going chars accepted
      rw [Scanner.scan_of_cons chars, passes.accepts.accept_eq]
      exact ⟨rfl, rfl, stays⟩
  | case3 scanner c rest chars later accepted ih =>
      obtain ⟨passes, stays⟩ := inStep.accepted going chars accepted
      rw [Scanner.scan_of_cons chars, passes.accepts.accept_eq]
      exact ih stays passes.of_skipped.1

theorem InStep.next (inStep : InStep unit scanner) :
    scanner.next.1 = scanner.base.next.1 ∧ scanner.next.2.base = scanner.base.next.2 ∧
      InStep unit scanner.next.2 := by
  unfold PendingScanner.next Scanner.next
  split
  · exact ⟨rfl, rfl, inStep⟩
  · next going => exact inStep.scan (by simpa using going)

/-- Calls give the same tokens, and after each of them the scanner is in step. -/
theorem InStep.calls (inStep : InStep unit scanner) (count : Nat) :
    (scanner.calls count).1 = (scanner.base.calls count).1 ∧
      (scanner.calls count).2.base = (scanner.base.calls count).2 ∧
        InStep unit (scanner.calls count).2 := by
  induction count with
  | zero => exact ⟨rfl, rfl, inStep⟩
  | succ count ih =>
      obtain ⟨tokens, same, stays⟩ := ih
      obtain ⟨token, after, keeps⟩ := stays.next
      rw [PendingScanner.calls, Scanner.calls_succ]
      dsimp only
      rw [tokens, token, after, same]
      exact ⟨rfl, rfl, keeps⟩

end PendingScanner

/-- The tokens of the first calls on a unit, by its pending escapes, and the scanner after them. -/
def SourceUnit.pendingCalls (unit : SourceUnit) (options : Options) (count : Nat) :
    List Token × PendingScanner :=
  (PendingScanner.start options unit unit.malformedEscapes).calls count

/-- The scan of a unit reports its malformed escapes, each once and in order. After any number of
calls, those before the scanner have been reported and no others; they are what a scanner that
follows its pending escapes has taken from them, and such a scanner gives the same tokens and the
same errors. No token that forms something has a malformed escape in it, and neither has a comment
that a call skips. -/
theorem escapes_reported_once (unit : SourceUnit) (options : Options) :
    (unit.tokenize options).errors.filter LexicalError.isMalformedEscape =
        unit.malformedEscapes.map Prod.snd ∧
      (∀ token ∈ (unit.tokenize options).tokens, token.isError = false →
        ∀ escape ∈ unit.malformedEscapes, ¬ token.span.Covers escape.2.position.offset) ∧
      ∀ count,
        (unit.scannerAfter options count).errors.filter LexicalError.isMalformedEscape =
            unit.escapesBefore (unit.scannerAfter options count).index ∧
          ((unit.pendingCalls options count).1 = unit.firstTokens options count ∧
            (unit.pendingCalls options count).2.base = unit.scannerAfter options count ∧
            (unit.pendingCalls options count).2.pending.reported =
              unit.malformedEscapes.filter fun escape =>
                decide (escape.1 < (unit.scannerAfter options count).index)) ∧
          (∀ token ∈ unit.firstTokens options count, token.isError = false →
            ∀ escape ∈ unit.malformedEscapes, ¬ token.span.Covers escape.2.position.offset) ∧
          ∀ span ∈ (unit.scannerAfter options count).skippedSpans,
            ∀ escape ∈ unit.malformedEscapes, ¬ span.Covers escape.2.position.offset := by
  obtain ⟨whole, exhausted, tokens, errors⟩ := unit.exists_calls_tokenize options
  refine ⟨?reported, ?tokens, fun count => ⟨?boundary, ?pending, ?first, ?skipped⟩⟩
  case reported =>
    obtain ⟨index, stands, reported⟩ := unit.filter_errors_scannerAfter options whole
    rw [errors, reported, stands.ended exhausted, unit.escapesBefore_length]
  case tokens =>
    rw [tokens]
    exact unit.not_covers_firstTokens options whole
  case boundary =>
    obtain ⟨index, stands, reported⟩ := unit.filter_errors_scannerAfter options count
    rw [reported, stands.index_eq]
  case pending =>
    obtain ⟨tokens, same, inStep⟩ := (PendingScanner.inStep_start options unit).calls count
    refine ⟨tokens, same, ?_⟩
    have index : (unit.scannerAfter options count).index = _ := same ▸ inStep.stands.index_eq
    rw [index]
    exact inStep.reported_eq
  case first => exact unit.not_covers_firstTokens options count
  case skipped =>
    obtain ⟨index, stands⟩ := unit.standsWithin_scannerAfter options count
    exact (unit.scannerAfter options count).not_covers_skippedSpans stands

/-- A comment that is skipped, and one with a malformed escape, which is not. -/
theorem escapes_reported_once_comment :
    (SourceUnit.scannerAfter ⟨"Note.java", "/**/ /*\\uz*/ x"⟩ .usual 0).skippedSpans = [⟨0, 4⟩] ∧
      (SourceUnit.tokenize ⟨"Note.java", "/**/ /*\\uz*/ x"⟩ .usual).errors.filter
          LexicalError.isMalformedEscape = [.of .malformedEscape ⟨7, 1, 8⟩] := by
  have escapes : (SourceUnit.mk "Note.java" "/**/ /*\\uz*/ x").malformedEscapes.map Prod.snd =
      [.of .malformedEscape ⟨7, 1, 8⟩] := by
    decide +kernel
  obtain ⟨reported, -⟩ := escapes_reported_once ⟨"Note.java", "/**/ /*\\uz*/ x"⟩ .usual
  exact ⟨by decide +kernel, reported.trans escapes⟩

end JavaLex
