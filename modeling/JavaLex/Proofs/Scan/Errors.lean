import JavaLex.Proofs.Scan.Calls

/-! # Errors and error tokens

Each error token stands for a block of errors, the first of which it carries. The blocks of the
tokens so far, one after the other, are all errors so far, in the order of the raw text.
-/

namespace JavaLex

/-- The token stands for text that forms none. -/
def Token.isError (token : Token) : Bool :=
  token.kind == .error

def Span.Covers (span : Span) (offset : Nat) : Prop :=
  span.start ≤ offset ∧ offset < span.stop

/-- The errors that an error token stands for: its own is the first and stands before the others,
and all of them stand within its span. -/
structure Token.Carries (token : Token) (block : List LexicalError) : Prop where
  own : ∃ first more, block = first :: more ∧ token.error = some first ∧
    ∀ error ∈ more, first.position.offset ≤ error.position.offset
  within : ∀ error ∈ block, token.span.Covers error.position.offset

theorem Token.isError_iff {token : Token} : token.isError = true ↔ token.kind = .error :=
  beq_iff_eq

/-! ## Sorting by a number -/

theorem decide_le_trans {α : Type} (key : α → Nat) (a b c : α)
    (first : decide (key a ≤ key b) = true) (second : decide (key b ≤ key c) = true) :
    decide (key a ≤ key c) = true :=
  decide_eq_true (Nat.le_trans (of_decide_eq_true first) (of_decide_eq_true second))

theorem decide_le_total {α : Type} (key : α → Nat) (a b : α) :
    (decide (key a ≤ key b) || decide (key b ≤ key a)) = true := by
  simpa using Nat.le_total (key a) (key b)

/-! ## The errors of a lexeme -/

namespace SourceUnit

variable (unit : SourceUnit)

theorem wellSpelled : ∀ cell ∈ Cell.translate unit.chars, cell.WellSpelled :=
  fun _ => Cell.wellSpelled_of_mem_translate

theorem offset_locate (first : Nat) (fault : Fault) :
    (fault.locate (unit.cursor.advance first)).position.offset =
      Cell.rawOffset (Cell.translate unit.chars) (first + fault.index) := by
  rw [Fault.locate, ← Cursor.advance_add]
  exact unit.offset_advance_cursor _

variable {unit} {first : Nat} {lexeme : Lexeme}

/-- Faults are put in order by their places in the lexeme, errors by their places in the raw text,
and it makes no difference. -/
theorem errorsOf_eq_mergeSort (bound : first + lexeme.size ≤ (Cell.translate unit.chars).length)
    (inside : ∀ fault ∈ lexeme.outcome.faults, fault.index < lexeme.size) :
    (unit.cursor.advance first).errorsOf lexeme =
      ((((unit.cursor.advance first).malformedWithin lexeme.size).map (Fault.of .malformedEscape) ++
        lexeme.outcome.faults).map (Fault.locate (unit.cursor.advance first))).mergeSort
          fun a b => a.position.offset ≤ b.position.offset := by
  have within : ∀ fault ∈ ((unit.cursor.advance first).malformedWithin lexeme.size).map
      (Fault.of .malformedEscape) ++ lexeme.outcome.faults,
        first + fault.index ≤ (Cell.translate unit.chars).length := by
    intro fault member
    have index_lt : fault.index < lexeme.size := by
      rcases List.mem_append.mp member with escape | own
      · obtain ⟨index, marked, rfl⟩ := List.mem_map.mp escape
        exact (Cursor.mem_malformedWithin_iff.mp marked).1
      · exact inside fault own
    omega
  refine List.map_mergeSort fun a left b _ => ?_
  rw [decide_eq_decide, unit.offset_locate, unit.offset_locate,
    Cell.rawOffset_le_iff unit.wellSpelled (within a left)]
  omega

theorem pairwise_errorsOf (bound : first + lexeme.size ≤ (Cell.translate unit.chars).length)
    (inside : ∀ fault ∈ lexeme.outcome.faults, fault.index < lexeme.size) :
    ((unit.cursor.advance first).errorsOf lexeme).Pairwise
      fun a b => a.position.offset ≤ b.position.offset := by
  rw [errorsOf_eq_mergeSort bound inside]
  have transitive := decide_le_trans fun error : LexicalError => error.position.offset
  exact (List.pairwise_mergeSort transitive (decide_le_total _) _).imp
    fun le => of_decide_eq_true le

end SourceUnit

namespace Scanner

variable {unit : SourceUnit} {scanner later : Scanner} {index : Nat} {lexeme : Lexeme}
  {token : Token} {result : Option Token}

theorem Passes.index_lt (passes : Passes scanner lexeme result later) :
    ∀ fault ∈ scanner.atLexeme.faults lexeme, fault.index < lexeme.size := by
  obtain ⟨c, rest, -, rfl⟩ := passes.reads
  exact fun fault => Cursor.index_lt_of_mem_faults

theorem Passes.errorsOf_eq_nil (passes : Passes scanner lexeme (some token) later)
    (sound : token.isError = false) : scanner.atLexeme.errorsOf lexeme = [] := by
  by_cases none : scanner.atLexeme.errorsOf lexeme = []
  · exact none
  · have kind := Token.isError_iff.mpr (passes.kind_eq_error_iff.mpr none)
    exact absurd (kind.symm.trans sound) (by decide)

theorem StandsWithin.errorsOf (stands : StandsWithin unit index scanner)
    (passes : Passes scanner lexeme result later) :
    ∃ first, index ≤ first ∧ scanner.atLexeme = unit.cursor.advance first ∧
      StandsWithin unit (first + lexeme.size) later ∧
      (scanner.atLexeme.errorsOf lexeme).Pairwise
        (fun a b => a.position.offset ≤ b.position.offset) ∧
      ∀ error ∈ scanner.atLexeme.errorsOf lexeme,
        Span.Covers ⟨Cell.rawOffset (Cell.translate unit.chars) first,
          Cell.rawOffset (Cell.translate unit.chars) (first + lexeme.size)⟩
            error.position.offset := by
  obtain ⟨first, after, here, -, goesOn⟩ := stands.passes passes
  have inside := passes.index_lt
  rw [here] at inside ⊢
  refine ⟨first, after, rfl, goesOn, SourceUnit.pairwise_errorsOf goesOn.index_le ?_, ?_⟩
  · exact fun fault own => inside fault (Cursor.mem_faults_iff.mpr (.inr own))
  · intro error member
    obtain ⟨fault, found, rfl⟩ := List.mem_map.mp member
    have index_lt := inside fault found
    rw [Span.Covers, unit.offset_locate]
    exact ⟨Cell.rawOffset_le_of_le _ (Nat.le_add_right _ _),
      Cell.rawOffset_lt_of_lt unit.wellSpelled (by omega) goesOn.index_le⟩

theorem Passes.carries (passes : Passes scanner lexeme (some token) later)
    (stands : StandsWithin unit index scanner) (kind : token.kind = .error) :
    token.Carries (scanner.atLexeme.errorsOf lexeme) := by
  obtain ⟨first, -, here, -, ordered, within⟩ := stands.errorsOf passes
  have some := passes.kind_eq_error_iff.mp kind
  have carried := passes.accepts.error_eq
  have span := passes.accepts.span_eq
  rw [here] at carried some ordered within span ⊢
  constructor
  · cases errors : (unit.cursor.advance first).errorsOf lexeme with
    | nil => exact absurd errors some
    | cons own more =>
        rw [errors] at carried ordered
        exact ⟨own, more, rfl, carried, (List.pairwise_cons.mp ordered).1⟩
  · rw [span, Cursor.spanOf, ← Cursor.advance_add, unit.offset_advance_cursor,
      unit.offset_advance_cursor]
    exact within

theorem Gives.exists_block (gives : Gives scanner token later)
    (stands : StandsWithin unit index scanner) :
    ∃ block, later.errors = scanner.errors ++ block ∧
      (token.isError = true → token.Carries block) ∧ (token.isError = false → block = []) ∧
      (later.exhausted = true ↔ scanner.exhausted = true ∨ token.isEof = true ∨
        ∃ error ∈ block, error.recoverable = false) := by
  induction gives generalizing index with
  | exhausted exhausted =>
      exact ⟨[], by simp, (fun kind => by cases kind), fun _ => rfl, by simp [exhausted]⟩
  | ended =>
      exact ⟨[], by simp, (fun kind => by cases kind), fun _ => rfl, fun _ => .inr (.inl rfl),
        fun _ => rfl⟩
  | @token scanner later lexeme token passes =>
      refine ⟨scanner.atLexeme.errorsOf lexeme, passes.accepts.errors_eq, ?_, ?_, ?_⟩
      · exact fun kind => passes.carries stands (Token.isError_iff.mp kind)
      · exact passes.errorsOf_eq_nil
      · rw [passes.isEof_eq_false, passes.going]
        simp only [Bool.false_eq_true, false_or]
        constructor
        · intro exhausted
          obtain ⟨fault, member, fatal⟩ := passes.accepts.exists_fatal passes.going exhausted
          exact ⟨_, List.mem_map.mpr ⟨fault, member, rfl⟩, fatal⟩
        · rintro ⟨error, member, fatal⟩
          exact passes.accepts.exhausted_of_fatal member fatal
  | skipped passes _ ih =>
      -- a comment that is skipped leaves nothing behind, so the block is that of the token after it
      obtain ⟨first, -, -, -, goesOn⟩ := stands.passes passes
      obtain ⟨block, errors, carries, none, exhausted⟩ := ih goesOn
      obtain ⟨going, clean⟩ := passes.of_skipped
      rw [passes.accepts.errors_eq, Cursor.errorsOf, clean, List.map_nil,
        List.append_nil] at errors
      rw [going] at exhausted
      rw [passes.going]
      exact ⟨block, errors, carries, none, exhausted⟩

/-- The errors so far are in order, and stand before the scanner. -/
theorem invariant_pairwise (unit : SourceUnit) :
    Invariant fun scanner => ∃ index, StandsWithin unit index scanner ∧
      scanner.errors.Pairwise (fun a b => a.position.offset ≤ b.position.offset) ∧
      ∀ error ∈ scanner.errors,
        error.position.offset ≤ Cell.rawOffset (Cell.translate unit.chars) index where
  passes := by
    rintro scanner later lexeme result ⟨index, stands, ordered, before⟩ passes
    obtain ⟨first, after, -, goesOn, block, within⟩ := stands.errorsOf passes
    have gap := Cell.rawOffset_le_of_le (Cell.translate unit.chars) after
    have taken := Cell.rawOffset_le_of_le (Cell.translate unit.chars)
      (Nat.le_add_right first lexeme.size)
    have errors := passes.accepts.errors_eq
    refine ⟨_, goesOn, ?_, ?_⟩
    · rw [errors, List.pairwise_append]
      refine ⟨ordered, block, fun early member error new => ?_⟩
      have := before early member
      have : Cell.rawOffset (Cell.translate unit.chars) first ≤ error.position.offset :=
        (within error new).1
      omega
    · intro error member
      rw [errors] at member
      rcases List.mem_append.mp member with early | new
      · have := before error early
        omega
      · exact Nat.le_of_lt (within error new).2
  ended := by
    rintro scanner ⟨index, stands, ordered, before⟩ - ended
    refine ⟨_, stands.atEnd ended, ordered, fun error member => ?_⟩
    exact Nat.le_trans (before error member) (Cell.rawOffset_le_of_le _ stands.index_le)

end Scanner

/-! ## The errors of a unit -/

namespace SourceUnit

variable (unit : SourceUnit) (options : Options) (count : Nat)

theorem exists_blocks :
    ∃ blocks : List (Token × List LexicalError),
      (unit.scannerAfter options count).errors = blocks.flatMap Prod.snd ∧
      blocks.map Prod.fst = (unit.firstTokens options count).filter Token.isError ∧
      ∀ block ∈ blocks, block.1.Carries block.2 := by
  induction count with
  | zero => exact ⟨[], rfl, rfl, by simp⟩
  | succ count ih =>
      obtain ⟨blocks, errors, tokens, carries⟩ := ih
      obtain ⟨index, stands⟩ := unit.standsWithin_scannerAfter options count
      obtain ⟨block, added, carried, none, -⟩ :=
        (unit.scannerAfter options count).gives_next.exists_block stands
      rw [scannerAfter_succ, firstTokens_succ, added, errors, List.filter_append, ← tokens]
      by_cases kind : (unit.scannerAfter options count).next.1.isError = true
      · refine ⟨blocks ++ [((unit.scannerAfter options count).next.1, block)], by simp,
          by simp [kind], fun other member => ?_⟩
        rcases List.mem_append.mp member with early | new
        · exact carries other early
        · obtain rfl := List.mem_singleton.mp new
          exact carried kind
      · have sound : (unit.scannerAfter options count).next.1.isError = false := by simpa using kind
        exact ⟨blocks, by simp [none sound], by simp [sound], carries⟩

theorem head?_errors :
    (unit.scannerAfter options count).errors.head? =
      ((unit.firstTokens options count).find? Token.isError).bind Token.error := by
  obtain ⟨blocks, errors, tokens, carries⟩ := unit.exists_blocks options count
  rw [errors, ← List.head?_filter, ← tokens]
  cases blocks with
  | nil => rfl
  | cons block blocks =>
      obtain ⟨first, more, whole, own, -⟩ := (carries block List.mem_cons_self).own
      rw [List.flatMap_cons, whole, List.map_cons, List.head?_cons, Option.bind_some, own]
      rfl

theorem errors_eq_nil_iff :
    (unit.scannerAfter options count).errors = [] ↔
      ∀ token ∈ unit.firstTokens options count, token.isError = false := by
  obtain ⟨blocks, errors, tokens, carries⟩ := unit.exists_blocks options count
  have filtered : (∀ token ∈ unit.firstTokens options count, token.isError = false) ↔
      blocks.map Prod.fst = [] := by
    rw [tokens, List.filter_eq_nil_iff]
    simp only [Bool.not_eq_true]
  rw [filtered, errors]
  cases blocks with
  | nil => simp
  | cons block blocks =>
      obtain ⟨first, more, whole, -⟩ := (carries block List.mem_cons_self).own
      simp [whole]

theorem pairwise_errors :
    (unit.scannerAfter options count).errors.Pairwise
      fun first second => first.position.offset ≤ second.position.offset := by
  have start : ∃ index, Scanner.StandsWithin unit index (.start options unit) ∧
      (Scanner.start options unit).errors.Pairwise
        (fun a b => a.position.offset ≤ b.position.offset) ∧
      ∀ error ∈ (Scanner.start options unit).errors,
        error.position.offset ≤ Cell.rawOffset (Cell.translate unit.chars) index :=
    ⟨0, Scanner.standsWithin_start options unit, .nil, fun _ none => by cases none⟩
  obtain ⟨-, -, ordered, -⟩ := (Scanner.invariant_pairwise unit).calls start count
  exact ordered

theorem head?_errors_tokenize :
    (unit.tokenize options).errors.head? =
      ((unit.tokenize options).tokens.find? Token.isError).bind Token.error := by
  obtain ⟨count, -, tokens, errors⟩ := unit.exists_calls_tokenize options
  rw [tokens, errors, head?_errors]

theorem errors_tokenize_eq_nil_iff :
    (unit.tokenize options).errors = [] ↔
      ∀ token ∈ (unit.tokenize options).tokens, token.isError = false := by
  obtain ⟨count, -, tokens, errors⟩ := unit.exists_calls_tokenize options
  rw [tokens, errors, errors_eq_nil_iff]

end SourceUnit

def usualTokens (text : String) : List Token :=
  ((SourceUnit.mk SourceUnit.anonymous text).tokenize .usual).tokens

/-- After any number of calls, the errors are those that the error tokens so far stand for, one
block after the other and in the order of the raw text, so the last one is at the greatest
place. A unit has errors exactly if it has error tokens, and the strict scan of a text fails with
the error of the first one. -/
theorem errors_mirror_tokens :
    (∀ (unit : SourceUnit) (options : Options) (count : Nat),
      (∃ blocks : List (Token × List LexicalError),
        (unit.scannerAfter options count).errors = blocks.flatMap Prod.snd ∧
        blocks.map Prod.fst = (unit.firstTokens options count).filter Token.isError ∧
        ∀ block ∈ blocks, block.1.Carries block.2) ∧
      (unit.scannerAfter options count).errors.Pairwise
        (fun first second => first.position.offset ≤ second.position.offset) ∧
      ∀ front last, (unit.scannerAfter options count).errors = front ++ [last] →
        (unit.scannerAfter options count).lastErrorPosition? = some last.position ∧
        ∀ error ∈ front, error.position.offset ≤ last.position.offset) ∧
    (∀ (unit : SourceUnit) (options : Options),
      (unit.tokenize options).hasErrors = true ↔
        ∃ token ∈ (unit.tokenize options).tokens, token.isError = true) ∧
    ∀ text : String,
      (tokenizeStrict text = .ok (usualTokens text) ↔
        ∀ token ∈ usualTokens text, token.isError = false) ∧
      ∀ token, (usualTokens text).find? Token.isError = some token →
        ∃ error, token.error = some error ∧ tokenizeStrict text = .error error := by
  refine ⟨?calls, ?units, ?strict⟩
  case calls =>
    intro unit options count
    have ordered := unit.pairwise_errors options count
    refine ⟨unit.exists_blocks options count, ordered, fun front last errors => ⟨?_, ?_⟩⟩
    · simp [Scanner.lastErrorPosition?, errors]
    · rw [errors, List.pairwise_append] at ordered
      exact fun error member => ordered.2.2 error member last List.mem_cons_self
  case units =>
    intro unit options
    rw [ScannedUnit.hasErrors, Bool.not_eq_true', List.isEmpty_eq_false_iff, ne_eq,
      unit.errors_tokenize_eq_nil_iff]
    simp
  case strict =>
    intro text
    have none := SourceUnit.errors_tokenize_eq_nil_iff ⟨SourceUnit.anonymous, text⟩ .usual
    have head := SourceUnit.head?_errors_tokenize ⟨SourceUnit.anonymous, text⟩ .usual
    unfold tokenizeStrict usualTokens
    dsimp only
    rw [← none]
    constructor
    · split
      · next clean => simp [clean]
      · next error more faulty => simp [faulty]
    · intro token found
      rw [found, Option.bind_some] at head
      split
      · next clean =>
        have sound := none.mp clean token (List.mem_of_find?_eq_some found)
        rw [List.find?_some found] at sound
        cases sound
      · next error more faulty =>
        rw [faulty, List.head?_cons] at head
        exact ⟨error, head.symm, rfl⟩

/-- A name, and a malformed escape of which the backslash and the letter are taken. -/
theorem errors_mirror_tokens_escape :
    (usualTokens "x \\uz").find? Token.isError =
        some (.ofError (.of .malformedEscape ⟨2, 1, 3⟩) "\\u" ⟨2, 4⟩ ⟨2, 1, 3⟩) ∧
      tokenizeStrict "x \\uz" = .error (.of .malformedEscape ⟨2, 1, 3⟩) := by
  obtain ⟨-, -, strict⟩ := errors_mirror_tokens
  have found : (usualTokens "x \\uz").find? Token.isError =
      some (.ofError (.of .malformedEscape ⟨2, 1, 3⟩) "\\u" ⟨2, 4⟩ ⟨2, 1, 3⟩) := by
    decide +kernel
  obtain ⟨error, own, fails⟩ := (strict "x \\uz").2 _ found
  obtain rfl : LexicalError.of .malformedEscape ⟨2, 1, 3⟩ = error := Option.some.inj own
  exact ⟨found, fails⟩

end JavaLex
