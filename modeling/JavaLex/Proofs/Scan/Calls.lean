import JavaLex.Proofs.Scan.Tiling

/-! # Calls of a scanner

Whoever drives a scanner calls it for one token at a time, and a whole scan is a number of calls.
What every lexeme keeps holds after any number of them; first of all, the scanner stands at a cell
of its unit, and after the last cell once it is exhausted.
-/

namespace JavaLex

namespace Scanner

def calls (scanner : Scanner) : Nat → List Token × Scanner
  | 0 => ([], scanner)
  | count + 1 =>
      let (tokens, later) := scanner.calls count
      (tokens ++ [later.next.1], later.next.2)

@[simp] theorem calls_zero (scanner : Scanner) : scanner.calls 0 = ([], scanner) := rfl

theorem calls_succ (scanner : Scanner) (count : Nat) :
    scanner.calls (count + 1) =
      ((scanner.calls count).1 ++ [(scanner.calls count).2.next.1],
        (scanner.calls count).2.next.2) := rfl

theorem calls_succ_left (scanner : Scanner) (count : Nat) :
    scanner.calls (count + 1) =
      (scanner.next.1 :: (scanner.next.2.calls count).1, (scanner.next.2.calls count).2) := by
  induction count with
  | zero => rfl
  | succ count ih => rw [calls_succ, ih, calls_succ scanner.next.2 count, List.cons_append]

theorem length_calls (scanner : Scanner) (count : Nat) :
    (scanner.calls count).1.length = count := by
  induction count with
  | zero => rfl
  | succ count ih => rw [calls_succ, List.length_append, ih, List.length_singleton]

theorem exists_calls_remaining (scanner : Scanner) :
    ∃ count, scanner.remaining = scanner.calls count := by
  fun_induction remaining scanner with
  | case1 scanner token later next ended => exact ⟨1, by rw [calls_succ_left, next]; rfl⟩
  | case2 scanner token later next going tokens last rest ih =>
      obtain ⟨count, same⟩ := ih
      exact ⟨count + 1, by rw [calls_succ_left, next, ← same, rest]⟩

theorem Run.exhausted_last {scanner last : Scanner} {tokens : List Token}
    (run : Run scanner tokens last) : last.exhausted = true := by
  induction run with
  | exhausted exhausted => exact exhausted
  | ended => rfl
  | skipped _ _ _ _ ih => exact ih
  | token _ _ _ _ ih => exact ih

/-! ## Invariants -/

/-- A property that a scanner keeps when it passes a lexeme, and when it meets the end. -/
structure Invariant (holds : Scanner → Prop) : Prop where
  passes : ∀ {scanner later : Scanner} {lexeme : Lexeme} {result : Option Token},
    holds scanner → Passes scanner lexeme result later → holds later
  ended : ∀ {scanner : Scanner}, holds scanner → scanner.exhausted = false →
    scanner.atLexeme.chars = [] →
      holds { scanner with cursor := scanner.atLexeme, exhausted := true }

theorem Gives.keeps {holds : Scanner → Prop} (invariant : Invariant holds)
    {scanner later : Scanner} {token : Token} (gives : Gives scanner token later)
    (before : holds scanner) : holds later := by
  induction gives with
  | exhausted => exact before
  | ended going ended => exact invariant.ended before going ended
  | token passes => exact invariant.passes before passes
  | skipped passes _ ih => exact ih (invariant.passes before passes)

theorem Invariant.calls {holds : Scanner → Prop} (invariant : Invariant holds)
    {scanner : Scanner} (before : holds scanner) (count : Nat) :
    holds (scanner.calls count).2 := by
  induction count with
  | zero => exact before
  | succ count ih => exact (gives_next _).keeps invariant ih

/-! ## Where a scanner stands -/

/-- The scanner stands before a cell of the unit, or after the last one; there it stands once it
is exhausted. -/
structure StandsWithin (unit : SourceUnit) (index : Nat) (scanner : Scanner) : Prop
    extends StandsAt unit index scanner where
  index_le : index ≤ (Cell.translate unit.chars).length
  ended : scanner.exhausted = true → index = (Cell.translate unit.chars).length

theorem standsWithin_start (options : Options) (unit : SourceUnit) :
    StandsWithin unit 0 (.start options unit) :=
  ⟨standsAt_start options unit, Nat.zero_le _, fun exhausted => by cases exhausted⟩

variable {unit : SourceUnit} {scanner later : Scanner} {index : Nat} {lexeme : Lexeme}
  {result : Option Token}

/-- The lexeme at a scanner begins after separators and ends within the text, where the scanner
goes on. -/
theorem StandsWithin.passes (stands : StandsWithin unit index scanner)
    (passes : Passes scanner lexeme result later) :
    ∃ first, index ≤ first ∧ scanner.atLexeme = unit.cursor.advance first ∧
      (∀ place, index ≤ place → place < first →
        Separates ((Cell.translate unit.chars).map Cell.char) place) ∧
      StandsWithin unit (first + lexeme.size) later := by
  obtain ⟨going, ⟨c, rest, chars, rfl⟩, accepts⟩ := passes
  exact ⟨index + Charset.blankSize scanner.cursor.chars, Nat.le_add_right _ _, stands.atLexeme,
    fun place => stands.separates, stands.accepts accepts, stands.stop_le chars,
    stands.stop_eq going chars accepts⟩

theorem StandsWithin.atLexeme_eq (stands : StandsWithin unit index scanner)
    (ended : scanner.atLexeme.chars = []) :
    scanner.atLexeme = unit.cursor.advance (Cell.translate unit.chars).length := by
  rw [stands.atLexeme, SourceUnit.cursor, ← Cursor.advance_min,
    Nat.min_eq_right (stands.length_le ended)]

theorem StandsWithin.atEnd (stands : StandsWithin unit index scanner)
    (ended : scanner.atLexeme.chars = []) :
    StandsWithin unit (Cell.translate unit.chars).length
      { scanner with cursor := scanner.atLexeme, exhausted := true } :=
  ⟨⟨stands.source, stands.atLexeme_eq ended⟩, Nat.le_refl _, fun _ => rfl⟩

theorem invariant_standsWithin (unit : SourceUnit) :
    Invariant fun scanner => ∃ index, StandsWithin unit index scanner where
  passes := by
    rintro scanner later lexeme result ⟨index, stands⟩ passes
    obtain ⟨first, -, -, -, after⟩ := stands.passes passes
    exact ⟨_, after⟩
  ended := by
    rintro scanner ⟨index, stands⟩ - ended
    exact ⟨_, stands.atEnd ended⟩

theorem StandsWithin.position_atLexeme (stands : StandsWithin unit index scanner)
    (ended : scanner.atLexeme.chars = []) : scanner.atLexeme.position = unit.endPosition := by
  rw [stands.atLexeme_eq ended, unit.position_advance_length]

/-- A run gives the sentinel at the end of the unit, and no sentinel before it. -/
theorem Run.exists_words {last : Scanner} {tokens : List Token} (run : Run scanner tokens last)
    (stands : StandsWithin unit index scanner) :
    ∃ words, (∀ word ∈ words, word.isEof = false) ∧ tokens = words ++ [.eof unit.endPosition] := by
  induction run generalizing index with
  | exhausted => exact ⟨[], by simp, by rw [stands.source]; rfl⟩
  | ended _ ended => exact ⟨[], by simp, by rw [stands.position_atLexeme ended]; rfl⟩
  | skipped going chars accepts _ ih =>
      obtain ⟨first, -, -, -, goesOn⟩ := stands.passes ⟨going, ⟨_, _, chars, rfl⟩, accepts⟩
      exact ih goesOn
  | token going chars accepts _ ih =>
      obtain ⟨first, -, -, -, goesOn⟩ := stands.passes ⟨going, ⟨_, _, chars, rfl⟩, accepts⟩
      obtain ⟨words, proper, tokens⟩ := ih goesOn
      exact ⟨_ :: words, List.forall_mem_cons.mpr ⟨accepts.isEof_eq_false, proper⟩,
        by rw [tokens]; rfl⟩

end Scanner

/-! ## Calls on a unit -/

namespace SourceUnit

def firstTokens (unit : SourceUnit) (options : Options) (count : Nat) : List Token :=
  ((Scanner.start options unit).calls count).1

def scannerAfter (unit : SourceUnit) (options : Options) (count : Nat) : Scanner :=
  ((Scanner.start options unit).calls count).2

variable (unit : SourceUnit) (options : Options) (count : Nat)

theorem firstTokens_succ :
    unit.firstTokens options (count + 1) =
      unit.firstTokens options count ++ [(unit.scannerAfter options count).next.1] := rfl

theorem scannerAfter_succ :
    unit.scannerAfter options (count + 1) = (unit.scannerAfter options count).next.2 := rfl

theorem standsWithin_scannerAfter :
    ∃ index, Scanner.StandsWithin unit index (unit.scannerAfter options count) :=
  (Scanner.invariant_standsWithin unit).calls ⟨0, Scanner.standsWithin_start options unit⟩ count

/-- A token of the first calls is what one of them gives, from where the scanner stood then. -/
theorem exists_gives_of_mem {token : Token} (member : token ∈ unit.firstTokens options count) :
    ∃ earlier index, Scanner.StandsWithin unit index (unit.scannerAfter options earlier) ∧
      Scanner.Gives (unit.scannerAfter options earlier) token
        (unit.scannerAfter options (earlier + 1)) := by
  induction count with
  | zero => cases member
  | succ count ih =>
      rw [firstTokens_succ] at member
      rcases List.mem_append.mp member with early | last
      · exact ih early
      · obtain rfl := List.mem_singleton.mp last
        obtain ⟨index, stands⟩ := unit.standsWithin_scannerAfter options count
        exact ⟨count, index, stands, (unit.scannerAfter options count).gives_next⟩

/-- The scan of a unit is made of calls, up to the one that exhausts the scanner. -/
theorem exists_calls_tokenize :
    ∃ count, (unit.scannerAfter options count).exhausted = true ∧
      (unit.tokenize options).tokens = unit.firstTokens options count ∧
      (unit.tokenize options).errors = (unit.scannerAfter options count).errors := by
  obtain ⟨count, same⟩ := (Scanner.start options unit).exists_calls_remaining
  have ended := (Scanner.run_remaining (.start options unit)).exhausted_last
  rw [same] at ended
  refine ⟨count, ended, ?_, ?_⟩
  · exact congrArg Prod.fst same
  · exact congrArg (fun result => result.2.errors) same

/-- The tokens of a unit are those before the sentinel, and the sentinel at its end. -/
theorem exists_words_tokenize : ∃ words, (∀ word ∈ words, word.isEof = false) ∧
    (unit.tokenize options).tokens = words ++ [.eof unit.endPosition] := by
  obtain ⟨last, run, -, -⟩ := unit.run_tokenize options
  exact run.exists_words (Scanner.standsWithin_start options unit)

end SourceUnit

end JavaLex
