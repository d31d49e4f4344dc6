import JavaLex.Proofs.Scan.Calls
import JavaLex.Scanner.Round

/-! # Scanning ends

Every round of a call moves the cursor or gives the sentinel, so there are no more rounds than
characters left, and one for the sentinel; the same holds of the calls of a scan. With words this
rests on their first character, which has to go on with a word as well. The characters of
identifiers are such. Where one is not, the same empty word is found for ever.
-/

namespace JavaLex

open Charset

/-! ## Characters of words -/

namespace Charset.Ranges

/-- What is left of a table when the ranges at its front that lie within a range of another table
are taken off, for one range of that table after the other. -/
def leftOver (inner outer : Ranges) : Ranges :=
  outer.foldl (fun left range => left.dropWhile fun r => range.1 ≤ r.1 && r.2 ≤ range.2) inner

theorem covers_of_leftOver_eq_nil {inner outer : Ranges} {code : Nat}
    (none : inner.leftOver outer = []) (covered : inner.covers code = true) :
    outer.covers code = true := by
  induction outer generalizing inner with
  | nil =>
      obtain rfl : inner = [] := none
      exact covered
  | cons range outer ih =>
      obtain ⟨r, listed, above, below⟩ := covers_iff.mp covered
      rw [← List.takeWhile_append_dropWhile (p := fun r => range.1 ≤ r.1 && r.2 ≤ range.2)
        (l := inner)] at listed
      rcases List.mem_append.mp listed with within | left
      · have inside := List.all_eq_true.mp List.all_takeWhile r within
        simp only [Bool.and_eq_true, decide_eq_true_eq] at inside
        exact covers_iff.mpr ⟨range, .head _, by omega, by omega⟩
      · obtain ⟨found, member, bounds⟩ :=
          covers_iff.mp (ih none (covers_iff.mpr ⟨r, left, above, below⟩))
        exact covers_iff.mpr ⟨found, .tail _ member, bounds⟩

end Charset.Ranges

namespace WordClasses

/-- Only the two properties have to be compared: the classes are alike in everything else. -/
theorem closed_ofProperties {starting continuing : Ranges}
    (included : ∀ code, 0x80 ≤ code → starting.covers code = true →
      continuing.covers code = true) : (ofProperties starting continuing).Closed := by
  intro c start
  unfold ofProperties at start ⊢
  dsimp only at start ⊢
  split at start
  · next low =>
    rw [if_pos low]
    simp only [Char.isAlphanum, Bool.or_eq_true] at start ⊢
    rcases start with (letter | underscore) | dollar
    · exact .inl (.inl (.inl (.inl letter)))
    · exact .inl (.inl (.inr underscore))
    · exact .inl (.inr dollar)
  · next high =>
    rw [if_neg high]
    simp only [Bool.or_eq_true] at start ⊢
    rcases start with (letter | sign) | joint
    · exact .inl (.inl (.inl (included _ (Nat.le_of_not_lt high) letter)))
    · exact .inl (.inl (.inr sign))
    · exact .inl (.inr joint)

theorem identifier_eq : identifier = ofProperties xidStart xidContinue := rfl

theorem closed_identifier : identifier.Closed := by
  have none : xidStart.leftOver xidContinue = [] := by decide +kernel
  rw [identifier_eq]
  exact closed_ofProperties fun _ _ => Ranges.covers_of_leftOver_eq_nil none

end WordClasses

/-! ## Lexemes -/

namespace Lexeme

variable {classes : WordClasses} {c : Char} {rest : List Char}

theorem size_wordIn_cons (goesOn : classes.continues c = true) :
    (wordIn classes (c :: rest)).size = (rest.takeWhile classes.continues).length + 1 := by
  rw [wordIn, List.takeWhile_cons_of_pos goesOn, List.length_cons]

theorem size_readIn_pos (closed : classes.Closed) (c : Char) (rest : List Char) :
    0 < (readIn classes c rest).size := by
  unfold readIn
  split
  · exact size_read_pos c rest
  split
  · next start =>
    rw [size_wordIn_cons (closed c start)]
    exact Nat.succ_pos _
  · exact size_symbol_pos c rest

theorem size_readIn_le (classes : WordClasses) (c : Char) (rest : List Char) :
    (readIn classes c rest).size ≤ rest.length + 1 := by
  unfold readIn
  split
  · exact (readAs_read c rest).contained.size_le
  split
  · exact (List.takeWhile_prefix _).length_le
  · exact (contained_symbol c rest).size_le

/-- Words of the characters of identifiers are read as they are read from their second character
on. -/
theorem readIn_identifier (c : Char) (rest : List Char) :
    readIn .identifier c rest = read c rest := by
  unfold readIn
  split
  · rfl
  next plain =>
  split
  · next start =>
    have size : (wordIn .identifier (c :: rest)).size = _ :=
      size_wordIn_cons (WordClasses.closed_identifier c start)
    rw [(ReadAs.word rest start).read_eq]
    exact congrArg (Lexeme.mk .word) size
  · next other =>
    refine (ReadAs.symbol ⟨?_, ?_, ?_, Bool.eq_false_iff.mpr other⟩).read_eq.symm
    all_goals simp_all [opensOther, StartsNumber]

end Lexeme

namespace Cursor

variable {classes : WordClasses}

theorem size_lexemeIn_pos (closed : classes.Closed) (here : Cursor) (c : Char)
    (rest : List Char) : 0 < (here.lexemeIn classes c rest).size := by
  unfold lexemeIn
  split
  · exact Lexeme.size_malformedEscape_pos rest
  · exact Lexeme.size_readIn_pos closed c rest

theorem size_lexemeIn_le (classes : WordClasses) (here : Cursor) (c : Char) (rest : List Char) :
    (here.lexemeIn classes c rest).size ≤ rest.length + 1 := by
  unfold lexemeIn
  split
  · exact (Lexeme.contained_malformedEscape rest).size_le
  · exact Lexeme.size_readIn_le classes c rest

theorem lexemeIn_identifier (here : Cursor) (c : Char) (rest : List Char) :
    here.lexemeIn .identifier c rest = here.lexeme c rest := by
  rw [lexemeIn, lexeme, Lexeme.readIn_identifier]

end Cursor

/-! ## Rounds -/

namespace Scanner

variable {unit : SourceUnit} {classes : WordClasses} {scanner : Scanner} {index : Nat}

theorem source_accept (scanner : Scanner) (here : Cursor) (lexeme : Lexeme) :
    (scanner.accept here lexeme).2.source = scanner.source := by
  unfold accept acceptWith
  dsimp only
  split
  · rfl
  · split
    · rfl
    · unfold acceptWord
      dsimp only
      split <;> rfl
    · split <;> rfl
    · rfl

theorem StandsAt.round (closed : classes.Closed) (stands : StandsAt unit index scanner) :
    ((∃ sentinel, (scanner.round classes).1 = some sentinel ∧ sentinel.isEof = true) ∧
      StandsAt unit (Cell.translate unit.chars).length (scanner.round classes).2) ∨
    ∃ after, index < after ∧ after ≤ (Cell.translate unit.chars).length ∧
      StandsAt unit after (scanner.round classes).2 := by
  unfold Scanner.round
  split
  · next ended =>
    refine .inl ⟨⟨_, rfl, rfl⟩, stands.source, ?_⟩
    rw [stands.atLexeme, SourceUnit.cursor, ← Cursor.advance_min,
      Nat.min_eq_right (stands.length_le ended)]
  · next c rest chars =>
    have positive := scanner.atLexeme.size_lexemeIn_pos closed c rest
    have within := scanner.atLexeme.size_lexemeIn_le classes c rest
    have left := stands.length_eq chars
    refine .inr ⟨index + blankSize scanner.cursor.chars +
      (scanner.atLexeme.lexemeIn classes c rest).size, by omega, by omega, ?_, ?_⟩
    · rw [source_accept, stands.source]
    · rw [cursor_accept, stands.atLexeme, ← Cursor.advance_add]

/-- With a round for every character left and one more, rounds come to a token; if it is not the
sentinel, the cursor has moved. -/
theorem StandsAt.exists_rounds? (closed : classes.Closed) (stands : StandsAt unit index scanner)
    (within : index ≤ (Cell.translate unit.chars).length) {limit : Nat}
    (enough : (Cell.translate unit.chars).length - index < limit) :
    ∃ token later after, scanner.rounds? classes limit = some (token, later) ∧
      StandsAt unit after later ∧ index ≤ after ∧ after ≤ (Cell.translate unit.chars).length ∧
      (token.isEof = false → index < after) := by
  induction limit generalizing scanner index with
  | zero => omega
  | succ limit ih =>
      have step := stands.round closed
      rw [rounds?]
      split
      · next token later given =>
        rw [given] at step
        rcases step with ⟨⟨sentinel, same, eof⟩, goesOn⟩ | ⟨after, more, bound, goesOn⟩
        · obtain rfl := Option.some.inj same
          exact ⟨token, later, _, rfl, goesOn, within, Nat.le_refl _,
            fun other => absurd (eof.symm.trans other) (by decide)⟩
        · exact ⟨token, later, after, rfl, goesOn, Nat.le_of_lt more, bound, fun _ => more⟩
      · next later skipped =>
        rw [skipped] at step
        rcases step with ⟨⟨_, none, -⟩, -⟩ | ⟨after, more, bound, goesOn⟩
        · cases none
        · obtain ⟨token, last, final, given, ends, later, bound, moved⟩ :=
            ih goesOn bound (by omega)
          exact ⟨token, last, final, given, ends, by omega, bound, fun other => by
            have := moved other
            omega⟩

/-- A call ends and, unless it gives the sentinel, moves the cursor. -/
theorem StandsAt.exists_next? (closed : classes.Closed) (stands : StandsAt unit index scanner)
    (within : index ≤ (Cell.translate unit.chars).length) {limit : Nat}
    (enough : (Cell.translate unit.chars).length - index < limit) :
    ∃ token later after, scanner.next? classes limit = some (token, later) ∧
      StandsAt unit after later ∧ index ≤ after ∧ after ≤ (Cell.translate unit.chars).length ∧
      (token.isEof = false → index < after) := by
  unfold next?
  split
  · exact ⟨_, scanner, index, rfl, stands, Nat.le_refl _, within, fun other => by cases other⟩
  · exact stands.exists_rounds? closed within enough

/-- With a call for every character left and one more, calls come to the sentinel. -/
theorem StandsAt.exists_remaining? (closed : classes.Closed)
    (stands : StandsAt unit index scanner)
    (within : index ≤ (Cell.translate unit.chars).length) {limit calls : Nat}
    (rounds : (Cell.translate unit.chars).length < limit)
    (enough : (Cell.translate unit.chars).length - index < calls) :
    ∃ words sentinel last,
      scanner.remaining? classes limit calls = some (words ++ [sentinel], last) ∧
      index + words.length ≤ (Cell.translate unit.chars).length ∧ sentinel.isEof = true ∧
      ∀ word ∈ words, word.isEof = false := by
  induction calls generalizing scanner index with
  | zero => omega
  | succ calls ih =>
      have left : (Cell.translate unit.chars).length - index < limit := by omega
      obtain ⟨token, later, after, given, goesOn, -, bound, moved⟩ :=
        stands.exists_next? closed within left
      rw [remaining?, given]
      by_cases eof : token.isEof = true
      · exact ⟨[], token, later, if_pos eof, within, eof, by simp⟩
      · have proper : token.isEof = false := by simpa using eof
        have more := moved proper
        obtain ⟨words, sentinel, last, rest, fewer, ended, others⟩ :=
          ih goesOn bound (by omega)
        refine ⟨token :: words, sentinel, last, ?_, ?_, ended, ?_⟩
        · dsimp only
          rw [if_neg eof, rest]
          rfl
        · rw [List.length_cons]
          omega
        · exact List.forall_mem_cons.mpr ⟨proper, others⟩

/-! ## The rounds of a scanner -/

theorem round_of_nil (ended : scanner.atLexeme.chars = []) :
    scanner.round classes = (some (.eof scanner.atLexeme.position),
      { scanner with cursor := scanner.atLexeme, exhausted := true }) := by
  unfold Scanner.round
  split
  · rfl
  · next chars => cases ended.symm.trans chars

theorem round_of_cons {c : Char} {rest : List Char} (chars : scanner.atLexeme.chars = c :: rest) :
    scanner.round classes =
      scanner.accept scanner.atLexeme (scanner.atLexeme.lexemeIn classes c rest) := by
  unfold Scanner.round
  split
  · next ended => cases ended.symm.trans chars
  · next d more same =>
    obtain ⟨rfl, rfl⟩ := List.cons.inj (same.symm.trans chars)
    rfl

theorem scan_eq_of_rounds? {limit : Nat} {result : Token × Scanner}
    (given : scanner.rounds? .identifier limit = some result) : scanner.scan = result := by
  induction limit generalizing scanner with
  | zero => cases given
  | succ limit ih =>
      rw [rounds?] at given
      cases chars : scanner.atLexeme.chars with
      | nil =>
          rw [round_of_nil chars] at given
          rw [scan]
          split
          · exact Option.some.inj given
          · next other => cases chars.symm.trans other
      | cons c rest =>
          rw [round_of_cons chars, Cursor.lexemeIn_identifier] at given
          rw [scan_of_cons chars]
          generalize scanner.accept scanner.atLexeme (scanner.atLexeme.lexeme c rest) = accepted
            at given ⊢
          obtain ⟨token, later⟩ := accepted
          cases token with
          | none => exact ih given
          | some token => exact Option.some.inj given

theorem next_eq_of_next? {limit : Nat} {result : Token × Scanner}
    (given : scanner.next? .identifier limit = some result) : scanner.next = result := by
  unfold next? at given
  unfold next
  split at given
  · next exhausted =>
    rw [if_pos exhausted]
    exact Option.some.inj given
  · next going =>
    rw [if_neg going]
    exact scan_eq_of_rounds? given

theorem remaining_eq_of_remaining? {limit calls : Nat} {result : List Token × Scanner}
    (given : scanner.remaining? .identifier limit calls = some result) :
    scanner.remaining = result := by
  induction calls generalizing scanner result with
  | zero => cases given
  | succ calls ih =>
      rw [remaining?] at given
      split at given
      · cases given
      next token later called =>
      have next := next_eq_of_next? called
      split at given
      · next eof =>
        obtain rfl := Option.some.inj given
        rw [remaining_of_isEof (by rw [next]; exact eof), next]
      · next proper =>
        obtain ⟨⟨tokens, last⟩, rest, rfl⟩ := Option.map_eq_some_iff.mp given
        rw [remaining_of_proper (by rw [next]; exact Bool.eq_false_iff.mpr proper), next, ih rest]

/-! ## Words that stay empty -/

/-- The scanner stands before a word without characters. -/
structure Stuck (classes : WordClasses) (scanner : Scanner) : Prop where
  going : scanner.exhausted = false
  atLexeme : scanner.atLexeme = scanner.cursor
  word : ∃ c rest, scanner.cursor.chars = c :: rest ∧
    scanner.cursor.lexemeIn classes c rest = ⟨.word, 0⟩

/-- The empty word is an identifier, and the scanner stands before it again. -/
theorem Stuck.exists_next? (stuck : Stuck classes scanner) :
    ∃ token later, (∀ limit, scanner.next? classes (limit + 1) = some (token, later)) ∧
      token.kind = .identifier ∧ token.text = "" ∧ later.cursor = scanner.cursor ∧
      Stuck classes later := by
  obtain ⟨going, here, c, rest, chars, empty⟩ := stuck
  have clean : scanner.cursor.faults ⟨.word, 0⟩ = [] := Cursor.faults_eq_nil_iff.mpr ⟨rfl, rfl⟩
  have identifier : (Reserved.classify scanner.options.allowUnderscore
      (scanner.cursor.textOf ⟨.word, 0⟩)).1 = .identifier := by
    change (Reserved.classify scanner.options.allowUnderscore "").1 = .identifier
    cases scanner.options.allowUnderscore <;> decide +kernel
  have round : scanner.round classes = _ := round_of_cons (here.symm ▸ chars)
  rw [here, empty, (Accepts.name clean rfl identifier).accept_eq] at round
  have given : ∀ limit, scanner.next? classes (limit + 1) = some (_, _) := fun limit => by
    rw [next?, if_neg (by simp [going]), rounds?, round]
  exact ⟨_, _, given, rfl, rfl, rfl, going, here, c, rest, chars, empty⟩

theorem Stuck.remaining?_eq_none (stuck : Stuck classes scanner) (limit calls : Nat) :
    scanner.remaining? classes limit calls = none := by
  induction calls generalizing scanner with
  | zero => rfl
  | succ calls ih =>
      obtain ⟨token, later, given, identifier, -, -, again⟩ := stuck.exists_next?
      rw [remaining?]
      cases limit with
      | zero => rw [next?, if_neg (by simp [stuck.going]), rounds?]
      | succ limit =>
          have proper : ¬ token.isEof = true := by simp [Token.isEof, identifier]
          rw [given]
          dsimp only
          rw [if_neg proper, ih again]
          rfl

/-- A text of one character above U+007F that starts a word and does not go on with one. -/
theorem stuck_start {c : Char} (high : 0x80 ≤ c.toNat) (start : classes.starts c = true)
    (ends : classes.continues c = false) (options : Options) (name : String) :
    Stuck classes (.start options ⟨name, String.ofList [c]⟩) := by
  have ne : ∀ d : Char, d.toNat < 0x80 → c ≠ d := by
    rintro d low rfl
    omega
  have plain : Inert [c] := .plain (ne '\\' (by decide)) .nil
  have cells : Cell.translate (SourceUnit.chars ⟨name, String.ofList [c]⟩) = [.verbatim c] := by
    rw [SourceUnit.chars, String.toList_ofList, plain.translate]
    rfl
  have blanks : blankSize [c] = 0 := by
    simp (disch := decide) [blankSize, isBlank, isLineTerminator, substitute, ne]
  have cursor : (Scanner.start options ⟨name, String.ofList [c]⟩).cursor =
      .ofCells [.verbatim c] := by
    rw [Scanner.start, cells]
  have digit : c.isDigit = false := by
    simp only [Char.isDigit, Bool.and_eq_false_imp, decide_eq_true_eq, decide_eq_false_iff_not]
    intro _ low
    exact absurd (Nat.le_trans high low) (by decide)
  have word : Lexeme.opensOther c [] = false := by
    simp (disch := decide) [Lexeme.opensOther, digit, ne]
  refine ⟨rfl, ?_, c, [], by rw [cursor]; rfl, ?_⟩
  · rw [Scanner.atLexeme, cursor]
    change Cursor.advance _ (blankSize [c]) = _
    rw [blanks, Cursor.advance_zero]
  · have unmarked : (Cursor.ofCells [.verbatim c]).atMalformed = false := rfl
    rw [cursor, Cursor.lexemeIn, unmarked, if_neg (by decide), Lexeme.readIn, word,
      if_neg (by decide), if_pos start, Lexeme.wordIn, List.takeWhile_cons_of_neg (by simp [ends])]
    rfl

/-! ## Scans -/

/-- With words of the given characters, the loops of every scan of the unit end: a call from any
cell makes no more rounds than there are characters left, and one more, and moves the cursor unless
it gives the sentinel; a scan gives no more tokens before the sentinel than there are characters. -/
structure Ends (classes : WordClasses) (unit : SourceUnit) : Prop where
  call : ∀ scanner index, StandsAt unit index scanner →
    index ≤ (Cell.translate unit.chars).length →
    ∃ token later after,
      scanner.next? classes ((Cell.translate unit.chars).length - index + 1) =
        some (token, later) ∧
      StandsAt unit after later ∧ index ≤ after ∧ after ≤ (Cell.translate unit.chars).length ∧
      (token.isEof = false → index < after)
  scan : ∀ options, ∃ words sentinel last,
    (Scanner.start options unit).remaining? classes ((Cell.translate unit.chars).length + 1)
        ((Cell.translate unit.chars).length + 1) = some (words ++ [sentinel], last) ∧
      words.length ≤ (Cell.translate unit.chars).length ∧ sentinel.isEof = true ∧
      ∀ word ∈ words, word.isEof = false

theorem ends_of_closed (closed : classes.Closed) (unit : SourceUnit) : Ends classes unit where
  call scanner index stands within := stands.exists_next? closed within (Nat.lt_succ_self _)
  scan options := by
    obtain ⟨words, sentinel, last, given, fewer, eof, proper⟩ :=
      (standsAt_start options unit).exists_remaining? closed (Nat.zero_le _)
        (Nat.lt_succ_self _) (Nat.lt_succ_self _)
    exact ⟨words, sentinel, last, given, by omega, eof, proper⟩

end Scanner

/-- Every call on a unit moves the cursor unless it gives the sentinel, and the sentinel comes after
no more calls than there are characters, and one more. The loops of a call and of a scan need no
more rounds than that, whatever the characters of words, as long as those that start a word go on
with one; then they give what the scanner gives. Above U+007F this is a matter of the two identifier
properties, and it holds of them. Where a character only starts words, a text of it gives the same
empty word for ever. -/
theorem scan_ends (unit : SourceUnit) (options : Options) :
    (∀ count, ∃ index after,
      Scanner.StandsAt unit index (unit.scannerAfter options count) ∧
      Scanner.StandsAt unit after (unit.scannerAfter options (count + 1)) ∧
      index ≤ after ∧ after ≤ (Cell.translate unit.chars).length ∧
      ((unit.scannerAfter options count).next.1.isEof = false → index < after)) ∧
    (∃ calls ≤ (Cell.translate unit.chars).length + 1,
      unit.firstTokens options calls = (unit.tokenize options).tokens ∧
      ∃ token ∈ unit.firstTokens options calls, token.isEof = true) ∧
    (∀ classes : WordClasses, classes.Closed → Scanner.Ends classes unit) ∧
    (∀ (scanner : Scanner) limit calls,
      (∀ result, scanner.next? .identifier limit = some result → scanner.next = result) ∧
      ∀ result, scanner.remaining? .identifier limit calls = some result →
        scanner.remaining = result) ∧
    (∀ starting continuing : Ranges,
      (∀ code, 0x80 ≤ code → starting.covers code = true → continuing.covers code = true) →
      (WordClasses.ofProperties starting continuing).Closed) ∧
    WordClasses.identifier = .ofProperties xidStart xidContinue ∧ WordClasses.identifier.Closed ∧
    ∀ (classes : WordClasses) (c : Char), 0x80 ≤ c.toNat → classes.starts c = true →
      classes.continues c = false → ∀ name,
        (∃ token later,
          (Scanner.start options ⟨name, String.ofList [c]⟩).next? classes 1 = some (token, later) ∧
          token.kind = .identifier ∧ token.text = "" ∧
          later.cursor = (Scanner.start options ⟨name, String.ofList [c]⟩).cursor) ∧
        ∀ limit calls,
          (Scanner.start options ⟨name, String.ofList [c]⟩).remaining? classes limit calls =
            none := by
  have ends := Scanner.ends_of_closed WordClasses.closed_identifier unit
  refine ⟨fun count => ?calls, ?sentinel, fun classes closed => Scanner.ends_of_closed closed unit,
    fun scanner limit calls => ⟨fun _ => Scanner.next_eq_of_next?,
      fun _ => Scanner.remaining_eq_of_remaining?⟩,
    fun starting continuing => WordClasses.closed_ofProperties, rfl,
    WordClasses.closed_identifier, fun classes c high start other name => ?empty⟩
  case calls =>
    obtain ⟨index, stands⟩ := unit.standsWithin_scannerAfter options count
    obtain ⟨token, later, after, given, goesOn, le, bound, moved⟩ :=
      ends.call _ index stands.toStandsAt stands.index_le
    have next := Scanner.next_eq_of_next? given
    refine ⟨index, after, stands.toStandsAt, ?_, le, bound, fun proper => moved ?_⟩
    · rw [SourceUnit.scannerAfter_succ, next]
      exact goesOn
    · rwa [next] at proper
  case sentinel =>
    obtain ⟨words, sentinel, last, given, fewer, eof, -⟩ := ends.scan options
    obtain ⟨calls, same⟩ := (Scanner.start options unit).exists_calls_remaining
    have tokens := congrArg Prod.fst (Scanner.remaining_eq_of_remaining? given)
    have length := congrArg List.length (same ▸ tokens)
    rw [Scanner.length_calls, List.length_append, List.length_singleton] at length
    refine ⟨calls, by omega, (congrArg Prod.fst same).symm, sentinel, ?_, eof⟩
    rw [SourceUnit.firstTokens, ← same, tokens]
    simp
  case empty =>
    have stuck := Scanner.stuck_start high start other options name
    obtain ⟨token, later, given, kind, text, cursor, -⟩ := stuck.exists_next?
    exact ⟨⟨token, later, given 0, kind, text, cursor⟩, stuck.remaining?_eq_none⟩

/-- With one letter for words: scans end if it both starts words and goes on with them, and not if
it only starts them. -/
theorem scan_ends_letter :
    Scanner.Ends (.ofProperties [(0xe9, 0xe9)] [(0xe9, 0xe9)]) ⟨"Note.java", "é/**/ é++"⟩ ∧
      ∀ limit calls, (Scanner.start .usual ⟨"Note.java", String.ofList ['é']⟩).remaining?
        (.ofProperties [(0xe9, 0xe9)] []) limit calls = none := by
  obtain ⟨-, -, ends, -, closed, -, -, empty⟩ := scan_ends ⟨"Note.java", "é/**/ é++"⟩ .usual
  exact ⟨ends _ (closed _ _ fun _ _ => id),
    (empty (.ofProperties [(0xe9, 0xe9)] []) 'é' (by decide) (by decide) (by decide) _).2⟩

end JavaLex
