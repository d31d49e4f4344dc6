import JavaLex.Proofs.Escape.OffsetMap
import JavaLex.Proofs.Scan.Errors

/-! # Malformed escapes in a scan

A scan reports the malformed escapes that it has passed, each once and in order. None of them
hides in a token that forms something, or in a comment that is skipped.
-/

namespace JavaLex

def LexicalError.isMalformedEscape (error : LexicalError) : Bool :=
  error.cause == .malformedEscape

def SourceUnit.escapesBefore (unit : SourceUnit) (index : Nat) : List LexicalError :=
  (unit.malformedEscapes.filter fun escape => decide (escape.1 < index)).map Prod.snd

def Scanner.index (scanner : Scanner) : Nat :=
  (Cell.translate scanner.source.chars).length - scanner.cursor.cells.length

def Scanner.skippedSpans (scanner : Scanner) : List Span :=
  if scanner.exhausted then
    []
  else
    match _chars : scanner.atLexeme.chars with
    | [] => []
    | c :: rest =>
        match _accepted : scanner.accept scanner.atLexeme (scanner.atLexeme.lexeme c rest) with
        | (some _, _) => []
        | (none, later) =>
            scanner.atLexeme.spanOf (scanner.atLexeme.lexeme c rest) :: later.skippedSpans
termination_by scanner.cursor.chars.length
decreasing_by exact length_chars_lt_of_accept _chars _accepted

/-! ## The escapes before a cell -/

namespace SourceUnit

variable {unit : SourceUnit} {first count : Nat}

theorem escapesBefore_length (unit : SourceUnit) :
    unit.escapesBefore (Cell.translate unit.chars).length =
      unit.malformedEscapes.map Prod.snd := by
  have all : ∀ escape ∈ unit.malformedEscapes,
      decide (escape.1 < (Cell.translate unit.chars).length) = true := by
    intro escape member
    obtain ⟨⟨cell, found, -⟩, -⟩ := mem_malformedEscapes_iff.mp member
    exact decide_eq_true (List.getElem?_eq_some_iff.mp found).choose
  rw [escapesBefore, List.filter_eq_self.mpr all]

theorem escapesBefore_eq_map (bound : first ≤ (Cell.translate unit.chars).length) :
    unit.escapesBefore first = (unit.cursor.malformedWithin first).map fun index =>
      (Fault.of .malformedEscape index).locate unit.cursor := by
  obtain ⟨more, length⟩ := Nat.exists_eq_add_of_le bound
  have before : ∀ index ∈ unit.cursor.malformedWithin first, decide (index < first) = true :=
    fun index member => decide_eq_true (Cursor.mem_malformedWithin_iff.mp member).1
  have after : ∀ index ∈ ((unit.cursor.advance first).malformedWithin more).map (first + ·),
      ¬ decide (index < first) = true := by
    intro index member
    obtain ⟨further, -, rfl⟩ := List.mem_map.mp member
    simp
  have split : (unit.cursor.malformedWithin (Cell.translate unit.chars).length).filter
      (fun index => decide (index < first)) = unit.cursor.malformedWithin first := by
    rw [length, Cursor.malformedWithin_add bound, List.filter_append,
      List.filter_eq_self.mpr before, List.filter_eq_nil_iff.mpr after, List.append_nil]
  unfold escapesBefore malformedEscapes
  rw [List.filter_map, List.map_map]
  exact congrArg _ split

/-- Further on, the escapes of the stretch in between come after those before it. -/
theorem escapesBefore_add (bound : first + count ≤ (Cell.translate unit.chars).length) :
    unit.escapesBefore (first + count) = unit.escapesBefore first ++
      ((unit.cursor.advance first).malformedWithin count).map fun index =>
        (Fault.of .malformedEscape index).locate (unit.cursor.advance first) := by
  have within : first ≤ (Cell.translate unit.chars).length := by omega
  rw [escapesBefore_eq_map bound, escapesBefore_eq_map within, Cursor.malformedWithin_add within,
    List.map_append, List.map_map]
  refine congrArg _ (List.map_congr_left fun index _ => ?_)
  simp only [Function.comp_apply, Fault.locate, Fault.of, Cursor.advance_add]

theorem escapesBefore_of_unmarked (bound : first + count ≤ (Cell.translate unit.chars).length)
    (unmarked : (unit.cursor.advance first).malformedWithin count = []) :
    unit.escapesBefore (first + count) = unit.escapesBefore first := by
  rw [escapesBefore_add bound, unmarked, List.map_nil, List.append_nil]

theorem malformedWithin_of_separates
    (gap : ∀ place, first ≤ place → place < first + count →
      Separates ((Cell.translate unit.chars).map Cell.char) place) :
    (unit.cursor.advance first).malformedWithin count = [] := by
  refine List.eq_nil_iff_forall_not_mem.mpr fun index member => ?_
  obtain ⟨lt, cell, standing, marked⟩ := Cursor.mem_malformedWithin_iff.mp member
  rw [Cursor.cells_advance, List.getElem?_drop] at standing
  have found : (Cell.translate unit.chars)[first + index]? = some cell := standing
  have backslash := ((cellAt_translate found).char_of_malformed marked).1
  obtain ⟨c, here, separating⟩ := gap (first + index) (Nat.le_add_right _ _) (by omega)
  rw [List.getElem?_map, found, Option.map_some, backslash] at here
  obtain rfl := Option.some.inj here
  -- a marked cell is a backslash, which separates nothing
  rcases separating with blank | ⟨last, -⟩
  · exact absurd blank (by decide)
  · exact absurd last (by decide)

theorem not_mem_of_unmarked
    (unmarked : (unit.cursor.advance first).malformedWithin count = []) :
    ∀ escape ∈ unit.malformedEscapes, ¬ (first ≤ escape.1 ∧ escape.1 < first + count) := by
  rintro ⟨index, error⟩ member ⟨after, before⟩
  obtain ⟨⟨cell, found, malformed⟩, -⟩ := mem_malformedEscapes_iff.mp member
  have here : index - first ∈ (unit.cursor.advance first).malformedWithin count := by
    apply Cursor.mem_malformedWithin_iff.mpr
    refine ⟨by omega, cell, ?_, malformed⟩
    rw [Cursor.cells_advance, List.getElem?_drop, Nat.add_sub_cancel' after]
    exact found
  rw [unmarked] at here
  cases here

theorem not_covers_of_unmarked (bound : first + count ≤ (Cell.translate unit.chars).length)
    (unmarked : (unit.cursor.advance first).malformedWithin count = []) :
    ∀ escape ∈ unit.malformedEscapes,
      ¬ Span.Covers ⟨Cell.rawOffset (Cell.translate unit.chars) first,
        Cell.rawOffset (Cell.translate unit.chars) (first + count)⟩
          escape.2.position.offset := by
  intro escape member covers
  apply not_mem_of_unmarked unmarked escape member
  obtain ⟨index, marked, rfl⟩ := List.mem_map.mp member
  have offset : ((Fault.of .malformedEscape index).locate unit.cursor).position.offset =
      Cell.rawOffset (Cell.translate unit.chars) index := unit.offset_advance_cursor index
  have within := (Cursor.mem_malformedWithin_iff.mp marked).1
  rw [offset] at covers
  -- offsets grow with indices, so the cell of the escape lies in the stretch
  constructor
  · exact (Cell.rawOffset_le_iff unit.wellSpelled (by omega)).mp covers.1
  · apply Nat.lt_of_not_le
    intro past
    have := Cell.rawOffset_le_of_le (Cell.translate unit.chars) past
    exact Nat.not_le_of_lt covers.2 this

end SourceUnit

/-! ## The escapes that a scan passes -/

/-- The faults of escapes among those of a lexeme are those of its marked cells, in order. -/
theorem Cursor.filter_faults (here : Cursor) {lexeme : Lexeme}
    (other : ∀ fault ∈ lexeme.outcome.faults, fault.cause ≠ .malformedEscape) :
    (here.faults lexeme).filter (fun fault => fault.cause == .malformedEscape) =
      (here.malformedWithin lexeme.size).map (Fault.of .malformedEscape) := by
  have ordered : ((here.malformedWithin lexeme.size).map (Fault.of .malformedEscape)).Pairwise
      fun a b => decide (a.index ≤ b.index) = true := by
    rw [List.pairwise_map]
    exact (here.pairwise_malformedWithin _).imp fun lt => decide_eq_true (Nat.le_of_lt lt)
  have escapes : ((here.malformedWithin lexeme.size).map (Fault.of .malformedEscape)).filter
      (fun fault => fault.cause == .malformedEscape) =
        (here.malformedWithin lexeme.size).map (Fault.of .malformedEscape) := by
    refine List.filter_eq_self.mpr fun fault member => ?_
    obtain ⟨index, -, rfl⟩ := List.mem_map.mp member
    rfl
  have own : lexeme.outcome.faults.filter (fun fault => fault.cause == .malformedEscape) = [] :=
    List.filter_eq_nil_iff.mpr fun fault member => by simpa using other fault member
  unfold Cursor.faults
  generalize (here.malformedWithin lexeme.size).map (Fault.of .malformedEscape) = marks
    at ordered escapes ⊢
  have whole : (marks ++ lexeme.outcome.faults).filter
      (fun fault => fault.cause == .malformedEscape) = marks := by
    rw [List.filter_append, escapes, own, List.append_nil]
  have sorted := List.mergeSort_perm (marks ++ lexeme.outcome.faults)
    fun a b => decide (a.index ≤ b.index)
  have lengths := (sorted.filter fun fault => fault.cause == .malformedEscape).length_eq
  rw [whole] at lengths
  -- the sort is stable, so it keeps the marks in the order that they have
  have kept := (List.sublist_mergeSort (decide_le_trans Fault.index) (decide_le_total _) ordered
    (List.sublist_append_left marks lexeme.outcome.faults)).filter
      fun fault => fault.cause == .malformedEscape
  rw [escapes] at kept
  exact (kept.eq_of_length lengths.symm).symm

namespace Scanner

variable {unit : SourceUnit} {scanner later : Scanner} {index : Nat} {lexeme : Lexeme}
  {token : Token} {result : Option Token}

theorem StandsWithin.index_eq (stands : StandsWithin unit index scanner) :
    scanner.index = index := by
  have bound := stands.index_le
  have left : scanner.cursor.cells.length = (Cell.translate unit.chars).length - index := by
    rw [stands.cursor, Cursor.cells_advance, List.length_drop]
    rfl
  rw [Scanner.index, stands.source, left]
  omega

theorem Passes.filter_errorsOf (passes : Passes scanner lexeme result later) :
    (scanner.atLexeme.errorsOf lexeme).filter LexicalError.isMalformedEscape =
      (scanner.atLexeme.malformedWithin lexeme.size).map fun index =>
        (Fault.of .malformedEscape index).locate scanner.atLexeme := by
  obtain ⟨c, rest, -, rfl⟩ := passes.reads
  have faults := scanner.atLexeme.filter_faults
    (scanner.atLexeme.contained_lexeme c rest).cause_ne
  rw [Cursor.errorsOf, List.filter_map]
  exact (congrArg _ faults).trans List.map_map

/-- What is between two lexemes has no marked cells, so the escapes before the second are those
that were passed with the first. -/
theorem StandsWithin.escapesBefore (stands : StandsWithin unit index scanner)
    (passes : Passes scanner lexeme result later) :
    ∃ first, scanner.atLexeme = unit.cursor.advance first ∧
      StandsWithin unit (first + lexeme.size) later ∧
        unit.escapesBefore first = unit.escapesBefore index := by
  obtain ⟨first, after, here, gap, goesOn⟩ := stands.passes passes
  obtain ⟨blank, rfl⟩ := Nat.exists_eq_add_of_le after
  have bound := goesOn.index_le
  exact ⟨_, here, goesOn, SourceUnit.escapesBefore_of_unmarked (by omega)
    (SourceUnit.malformedWithin_of_separates gap)⟩

/-- The escapes reported so far are those before the scanner. -/
theorem invariant_escapes (unit : SourceUnit) :
    Invariant fun scanner => ∃ index, StandsWithin unit index scanner ∧
      scanner.errors.filter LexicalError.isMalformedEscape = unit.escapesBefore index where
  passes := by
    rintro scanner later lexeme result ⟨index, stands, reported⟩ passes
    obtain ⟨first, here, goesOn, same⟩ := stands.escapesBefore passes
    have added := passes.filter_errorsOf
    rw [here] at added
    refine ⟨_, goesOn, ?_⟩
    rw [passes.accepts.errors_eq, List.filter_append, reported, ← same, here, added,
      SourceUnit.escapesBefore_add goesOn.index_le]
  ended := by
    rintro scanner ⟨index, stands, reported⟩ - ended
    obtain ⟨blank, length⟩ := Nat.exists_eq_add_of_le stands.index_le
    have past := stands.length_le ended
    have same := SourceUnit.escapesBefore_of_unmarked (Nat.le_of_eq length.symm)
      (SourceUnit.malformedWithin_of_separates fun place after before =>
        stands.separates after (by omega))
    rw [← length] at same
    exact ⟨_, stands.atEnd ended, reported.trans same.symm⟩

theorem StandsWithin.not_covers (stands : StandsWithin unit index scanner)
    (passes : Passes scanner lexeme result later)
    (clean : scanner.atLexeme.faults lexeme = []) :
    ∀ escape ∈ unit.malformedEscapes,
      ¬ (scanner.atLexeme.spanOf lexeme).Covers escape.2.position.offset := by
  obtain ⟨first, -, here, -, goesOn⟩ := stands.passes passes
  have unmarked := (Cursor.faults_eq_nil_iff.mp clean).1
  rw [here] at unmarked ⊢
  rw [Cursor.spanOf, ← Cursor.advance_add, unit.offset_advance_cursor, unit.offset_advance_cursor]
  exact SourceUnit.not_covers_of_unmarked goesOn.index_le unmarked

theorem Gives.not_covers (gives : Gives scanner token later)
    (stands : StandsWithin unit index scanner) (sound : token.isError = false) :
    ∀ escape ∈ unit.malformedEscapes, ¬ token.span.Covers escape.2.position.offset := by
  induction gives generalizing index with
  | exhausted =>
      rintro escape - ⟨after, before⟩
      exact absurd after (Nat.not_le_of_lt before)
  | ended =>
      rintro escape - ⟨after, before⟩
      exact absurd after (Nat.not_le_of_lt before)
  | token passes =>
      have none := passes.errorsOf_eq_nil sound
      rw [passes.accepts.span_eq]
      exact stands.not_covers passes (List.map_eq_nil_iff.mp none)
  | skipped passes _ ih =>
      obtain ⟨first, -, -, -, goesOn⟩ := stands.passes passes
      exact ih goesOn sound

theorem not_covers_skippedSpans (scanner : Scanner) (stands : StandsWithin unit index scanner) :
    ∀ span ∈ scanner.skippedSpans, ∀ escape ∈ unit.malformedEscapes,
      ¬ span.Covers escape.2.position.offset := by
  fun_induction skippedSpans scanner generalizing index with
  | case1 | case2 | case3 => exact fun _ none => by cases none
  | case4 scanner going c rest chars later accepted ih =>
      have accepts := scanner.accepts_accept scanner.atLexeme c rest
      rw [accepted] at accepts
      have passes : Passes scanner _ none later :=
        ⟨by simpa using going, ⟨c, rest, chars, rfl⟩, accepts⟩
      obtain ⟨first, -, -, -, goesOn⟩ := stands.passes passes
      intro span member
      rcases List.mem_cons.mp member with rfl | more
      · exact stands.not_covers passes passes.of_skipped.2
      · exact ih goesOn span more

end Scanner

/-! ## The escapes of a unit -/

namespace SourceUnit

variable (unit : SourceUnit) (options : Options) (count : Nat)

theorem filter_errors_scannerAfter :
    ∃ index, Scanner.StandsWithin unit index (unit.scannerAfter options count) ∧
      (unit.scannerAfter options count).errors.filter LexicalError.isMalformedEscape =
        unit.escapesBefore index := by
  have start : (Scanner.start options unit).errors.filter LexicalError.isMalformedEscape =
      unit.escapesBefore 0 := (escapesBefore_eq_map (Nat.zero_le _)).symm
  exact (Scanner.invariant_escapes unit).calls ⟨0, Scanner.standsWithin_start options unit, start⟩
    count

theorem not_covers_firstTokens :
    ∀ token ∈ unit.firstTokens options count, token.isError = false →
      ∀ escape ∈ unit.malformedEscapes, ¬ token.span.Covers escape.2.position.offset := by
  intro token member sound
  obtain ⟨_, _, stands, gives⟩ := unit.exists_gives_of_mem options count member
  exact gives.not_covers stands sound

end SourceUnit

end JavaLex
