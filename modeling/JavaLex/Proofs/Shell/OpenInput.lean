import JavaLex.Proofs.Front.Lexeme
import JavaLex.Proofs.Scan.Comments
import JavaLex.Proofs.Scan.Transparency
import JavaLex.Shell.OpenInput

/-! # What is open in a text

Whether a text is complete is found out with comments skipped and under another name than it is
scanned with later; that makes no difference to what is open in it. The word that counts the open
brackets holds the count, as long as the text has no more bytes than the word can count; with as
many opening parentheses as that, it does not.
-/

namespace JavaLex

variable {options : Options} {text : List Char}

/-! ## Names and comments -/

namespace ScannedUnit

variable {first second : ScannedUnit}

theorem AgreesWith.hasOpenComment (agrees : first.AgreesWith second) :
    first.hasOpenComment = second.hasOpenComment := by
  have unplaced : ∀ unit : ScannedUnit, unit.hasOpenComment =
      (unit.errors.map LexicalError.unplaced).any (·.cause == .unterminatedComment) :=
    fun unit => by rw [List.any_map]; rfl
  rw [unplaced, unplaced, agrees.errors]

theorem AgreesWith.depth (agrees : first.AgreesWith second) : first.depth = second.depth := by
  have unplaced : ∀ unit : ScannedUnit, unit.depth =
      (unit.tokens.map Token.unplaced).foldl (fun depth token => depth + token.kind.depth) 0 :=
    fun unit => by rw [List.foldl_map]; rfl
  rw [unplaced, unplaced, agrees.tokens]

end ScannedUnit

theorem Kind.depth_of_isComment {kind : Kind} (comment : kind.isComment = true) :
    kind.depth = 0 := by
  cases kind with
  | comment => rfl
  | _ => cases comment

theorem foldl_depth_withoutComments (tokens : List Token) (depth : Int) :
    (withoutComments tokens).foldl (fun depth token => depth + token.kind.depth) depth =
      tokens.foldl (fun depth token => depth + token.kind.depth) depth := by
  induction tokens generalizing depth with
  | nil => rfl
  | cons token tokens ih =>
      by_cases comment : token.kind.isComment = true
      · rw [withoutComments, List.filter_cons_of_neg (by simpa using comment), ← withoutComments,
          ih, List.foldl_cons, Kind.depth_of_isComment comment, Int.add_zero]
      · rw [withoutComments, List.filter_cons_of_pos (by simpa using comment), ← withoutComments,
          List.foldl_cons, ih, List.foldl_cons]

/-- Skipping comments changes nothing about what is open. -/
theorem SourceUnit.open_skipping (unit : SourceUnit) (options : Options) :
    (unit.tokenize { options with keepComments := false }).hasOpenComment =
        (unit.tokenize options).hasOpenComment ∧
      (unit.tokenize { options with keepComments := false }).depth =
        (unit.tokenize options).depth := by
  obtain ⟨last, run, errors, -⟩ := unit.run_tokenize options
  have skips : Scanner.Run (.start { options with keepComments := false } unit) _ _ := run.skipping
  rw [skips.tokenize_eq]
  constructor
  · rw [ScannedUnit.hasOpenComment, ScannedUnit.hasOpenComment, errors]
    rfl
  · exact foldl_depth_withoutComments _ 0

/-- The name of a unit changes nothing about what is open. -/
theorem SourceUnit.agreesWith_rename (name other text : String) (options : Options) :
    ((SourceUnit.mk name text).tokenize options).AgreesWith
      ((SourceUnit.mk other text).tokenize options) :=
  SourceUnit.agreesWith_tokenize options rfl rfl

/-- Complete source text leaves nothing open, under any name and with or without comments. -/
theorem closed_of_complete (source : Command.parse? text = none)
    (complete : isIncomplete options text = false) (name : String) (keepComments : Bool) :
    let scanned := (SourceUnit.mk name (String.ofList text)).tokenize
      { options with keepComments := keepComments }
    scanned.hasOpenComment = false ∧ scanned.depth ≤ 0 := by
  intro scanned
  obtain ⟨comment, depth⟩ := (SourceUnit.mk name (String.ofList text)).open_skipping
    { options with keepComments := keepComments }
  have agrees := SourceUnit.agreesWith_rename SourceUnit.anonymous name (String.ofList text)
    { options with keepComments := false }
  rw [isIncomplete, source] at complete
  simp only [Option.isNone_none, Bool.true_and, Bool.or_eq_false_iff, decide_eq_false_iff_not,
    Int.not_lt] at complete
  rw [← comment, ← depth, ← agrees.hasOpenComment, ← agrees.depth]
  exact complete

/-! ## Counting in words -/

theorem Kind.depth_eq (kind : Kind) : kind.depth = 0 ∨ kind.depth = 1 ∨ kind.depth = -1 := by
  unfold depth
  split <;> simp

/-- The word holds the exact sum, or there is none. -/
theorem stepDepth?_eq_some_iff {depth sum : Int32} {step : Int} :
    stepDepth? depth step = some sum ↔ sum.toInt = depth.toInt + step := by
  unfold stepDepth?
  dsimp only
  constructor
  · intro stepped
    split at stepped
    · next within =>
      rw [← Option.some.inj stepped]
      exact Int32.toInt_ofInt_of_le within.1 (Int.lt_add_one_of_le within.2)
    · cases stepped
  · intro same
    rw [← same, if_pos ⟨sum.minValue_le_toInt, sum.toInt_le⟩, Int32.ofInt_toInt]

theorem exists_stepDepth? {depth : Int32} {step : Int}
    (room : (depth.toInt + step).natAbs ≤ 2147483647) :
    ∃ sum, stepDepth? depth step = some sum ∧ sum.toInt = depth.toInt + step := by
  have same : (Int32.ofInt (depth.toInt + step)).toInt = depth.toInt + step := by
    apply Int32.toInt_ofInt_of_le <;> omega
  exact ⟨_, stepDepth?_eq_some_iff.mpr same, same⟩

/-- The brackets among some tokens are counted if there are not too many of them. -/
theorem exists_depthFrom? (tokens : List Token) {depth : Int32}
    (room : depth.toInt.natAbs + tokens.countP (·.kind.depth != 0) ≤ 2147483647) :
    ∃ word, depthFrom? depth tokens = some word ∧
      word.toInt = tokens.foldl (fun depth token => depth + token.kind.depth) depth.toInt := by
  induction tokens generalizing depth with
  | nil => exact ⟨depth, rfl, rfl⟩
  | cons token tokens ih =>
      rw [List.countP_cons] at room
      have moves : (depth.toInt + token.kind.depth).natAbs +
          tokens.countP (·.kind.depth != 0) ≤ 2147483647 := by
        rcases token.kind.depth_eq with none | up | down
        · simp [none] at room ⊢
          exact room
        · simp [up] at room ⊢
          omega
        · simp [down] at room ⊢
          omega
      obtain ⟨sum, stepped, same⟩ := exists_stepDepth? (Nat.le_of_add_right_le moves)
      rw [← same] at moves
      obtain ⟨word, counted, total⟩ := ih moves
      refine ⟨word, ?_, ?_⟩
      · rw [depthFrom?, stepped]
        exact counted
      · rw [total, same, List.foldl_cons]

/-- A scan gives no more tokens, apart from the sentinel, than it has characters left. -/
theorem Scanner.Run.countP_le {scanner last : Scanner} {tokens : List Token}
    (run : Run scanner tokens last) :
    tokens.countP (!·.isEof) ≤ scanner.cursor.chars.length := by
  induction run with
  | exhausted => exact Nat.zero_le _
  | ended => exact Nat.zero_le _
  | skipped _ chars accepts _ ih =>
      exact Nat.le_trans ih (Nat.le_of_lt (length_chars_lt_of_accept chars accepts.accept_eq))
  | token _ chars accepts _ ih =>
      have taken := length_chars_lt_of_accept chars accepts.accept_eq
      rw [List.countP_cons, accepts.isEof_eq_false]
      exact Nat.lt_of_le_of_lt ih taken

theorem Cell.length_translate_le (text : List Char) : (translate text).length ≤ text.length := by
  suffices general : ∀ odd, (translateAfter odd text).length ≤ text.length from general false
  intro odd
  fun_induction translateAfter odd text with
  | case1 => exact Nat.le_refl _
  | case2 odd c rest _ decoded size _ ih =>
      rw [List.length_cons, List.length_cons]
      rw [List.length_drop] at ih
      omega
  | case3 odd c rest _ _ ih | case4 odd c rest _ ih => exact Nat.succ_le_succ ih

theorem SourceUnit.countP_depth_le (unit : SourceUnit) (options : Options) :
    (unit.tokenize options).tokens.countP (·.kind.depth != 0) ≤ unit.size := by
  obtain ⟨last, run, -, -⟩ := unit.run_tokenize options
  have proper : ∀ token ∈ (unit.tokenize options).tokens,
      (token.kind.depth != 0) = true → (!token.isEof) = true := by
    intro token _ counted
    rw [Bool.not_eq_true', Token.isEof, beq_eq_false_iff_ne]
    intro sentinel
    rw [sentinel] at counted
    cases counted
  calc
    (unit.tokenize options).tokens.countP (·.kind.depth != 0)
      ≤ (unit.tokenize options).tokens.countP (!·.isEof) := List.countP_mono_left proper
    _ ≤ (Cell.translate unit.chars).length := by
        have tokens := run.countP_le
        rwa [Scanner.start, Cursor.chars_ofCells, List.length_map] at tokens
    _ ≤ unit.chars.length := Cell.length_translate_le unit.chars
    _ ≤ unit.size := length_le_byteSize unit.chars

/-- The word counts the brackets of a unit with fewer than 2 ^ 31 bytes. -/
theorem SourceUnit.exists_depth? (unit : SourceUnit) (options : Options)
    (room : unit.size ≤ 2147483647) :
    ∃ word, (unit.tokenize options).depth? = some word ∧
      word.toInt = (unit.tokenize options).depth := by
  apply exists_depthFrom?
  have counted := unit.countP_depth_le options
  have zero : (0 : Int32).toInt.natAbs = 0 := rfl
  omega

/-- On a text with fewer than 2 ^ 31 bytes, the check does not fail and is right. -/
theorem isIncomplete?_eq (options : Options) {text : List Char}
    (room : byteSize text ≤ 2147483647) :
    isIncomplete? options text = some (isIncomplete options text) := by
  have size : (SourceUnit.ofChars text).size = byteSize text := by
    rw [SourceUnit.size, SourceUnit.chars, SourceUnit.ofChars, String.toList_ofList]
  obtain ⟨word, counted, same⟩ := (SourceUnit.ofChars text).exists_depth?
    { options with keepComments := false } (size ▸ room)
  have positive : (0 < word) = (0 < word.toInt) := by
    rw [Int32.lt_iff_toInt_lt]
    rfl
  unfold isIncomplete? isIncomplete
  cases parsed : Command.parse? text with
  | some command => rfl
  | none =>
      dsimp only
      rw [counted]
      simp [positive, same]

/-! ## More brackets than a word can count -/

/-- No other operator begins with an opening parenthesis. -/
theorem Operator.longest?_leftParen (rest : List Char) :
    longest? ('(' :: rest) = some .leftParen := by
  have only : ∀ other : Operator, other.chars.head? = some '(' → other = .leftParen := by
    intro other
    cases other <;> decide
  apply longest?_eq_some_iff.mpr
  constructor
  · exact ⟨rest, rfl⟩
  · intro other starts
    have first : other.chars.head? = some '(' := by
      cases spelled : other.chars with
      | nil => exact absurd (congrArg List.length spelled) (Nat.ne_of_gt other.size_pos)
      | cons c more =>
          rw [spelled] at starts
          rw [List.head?_cons, (List.cons_prefix_cons.mp starts).1]
    exact Nat.le_of_eq (congrArg size (only other first))

theorem Lexeme.read_leftParen (rest : List Char) :
    read '(' rest = ⟨.token (.operator .leftParen) none, 1⟩ := by
  have symbol : read '(' rest = symbol '(' rest := by
    unfold read
    rfl
  rw [symbol, Lexeme.symbol, Operator.longest?_leftParen]
  rfl

namespace Scanner

variable {scanner last : Scanner} {tokens : List Token} {count : Nat}

theorem atLexeme_of_leftParens
    (cells : scanner.cursor.cells = List.replicate count (.verbatim '(')) :
    scanner.atLexeme = scanner.cursor := by
  have blanks : Charset.blankSize scanner.cursor.chars = 0 := by
    rw [scanner.cursor.chars_eq, cells]
    cases count <;> rfl
  rw [atLexeme, blanks, Cursor.advance_zero]

theorem lexeme_of_leftParens {c : Char} {rest : List Char}
    (cells : scanner.cursor.cells = List.replicate count (.verbatim '('))
    (chars : scanner.atLexeme.chars = c :: rest) :
    scanner.atLexeme.lexeme c rest = ⟨.token (.operator .leftParen) none, 1⟩ ∧
      scanner.atLexeme.faults ⟨.token (.operator .leftParen) none, 1⟩ = [] := by
  rw [atLexeme_of_leftParens cells] at chars ⊢
  have plain : ∀ cell ∈ scanner.cursor.cells, cell.malformed = false := by
    intro cell member
    rw [cells] at member
    rw [List.eq_of_mem_replicate member]
    rfl
  have paren : c = '(' := by
    have member : c ∈ scanner.cursor.chars := chars ▸ List.mem_cons_self
    rw [Cursor.chars_eq, cells, List.map_replicate] at member
    exact List.eq_of_mem_replicate member
  constructor
  · rw [Cursor.lexeme_of_plain plain, paren]
    exact Lexeme.read_leftParen rest
  · exact Cursor.faults_eq_nil_of_plain plain rfl

theorem Accepts.of_token {here : Cursor} {lexeme : Lexeme} {result : Option Token} {later : Scanner}
    {kind : Kind} {value : Option Literal} (accepts : Accepts scanner here lexeme result later)
    (outcome : lexeme.outcome = .token kind value) (clean : here.faults lexeme = []) :
    result.map (·.kind) = some kind ∧
      later = { scanner with cursor := here.advance lexeme.size } := by
  cases accepts with
  | faulty errors =>
      rw [Cursor.errorsOf, clean] at errors
      cases errors
  | token _ same =>
      obtain ⟨rfl, rfl⟩ := Outcome.token.inj (same.symm.trans outcome)
      exact ⟨rfl, rfl⟩
  | name _ other | reserved _ other | comment _ other | skipped _ other =>
      cases other.symm.trans outcome

theorem Run.kinds_of_leftParens (run : Run scanner tokens last) (going : scanner.exhausted = false)
    (cells : scanner.cursor.cells = List.replicate count (.verbatim '(')) :
    tokens.map (·.kind) = List.replicate count (.operator .leftParen) ++ [.eof] := by
  induction run generalizing count with
  | exhausted done => cases going.symm.trans done
  | ended _ none =>
      have size := congrArg List.length none
      rw [atLexeme_of_leftParens cells, Cursor.chars_eq, cells, List.length_map,
        List.length_replicate, List.length_nil] at size
      rw [size]
      rfl
  | skipped _ chars accepts =>
      obtain ⟨lexeme, clean⟩ := lexeme_of_leftParens cells chars
      rw [lexeme] at accepts
      cases (accepts.of_token rfl clean).1
  | @token scanner later last c rest token tokens _ chars accepts _ ih =>
      obtain ⟨lexeme, clean⟩ := lexeme_of_leftParens cells chars
      rw [lexeme] at accepts
      obtain ⟨kind, moved⟩ := accepts.of_token rfl clean
      rw [atLexeme_of_leftParens cells] at chars moved
      cases count with
      | zero =>
          rw [Cursor.chars_eq, cells] at chars
          cases chars
      | succ count =>
          have left : later.cursor.cells = List.replicate count (.verbatim '(') := by
            rw [moved, Cursor.cells_advance, cells]
            rfl
          have goes : later.exhausted = false := by rw [moved, going]
          have paren : token.kind = .operator .leftParen := Option.some.inj kind
          rw [List.map_cons, ih goes left, paren]
          rfl

end Scanner

theorem depthFrom?_of_leftParens {tokens : List Token} {depth : Int32} {count : Nat}
    (kinds : tokens.map (·.kind) = List.replicate count (.operator .leftParen) ++ [.eof])
    (full : 2147483647 < depth.toInt + count) : depthFrom? depth tokens = none := by
  induction count generalizing depth tokens with
  | zero =>
      have := depth.toInt_lt
      omega
  | succ count ih =>
      obtain ⟨token, more, rfl, paren, rest⟩ := List.map_eq_cons_iff.mp kinds
      rw [depthFrom?]
      cases stepped : stepDepth? depth token.kind.depth with
      | none => rfl
      | some sum =>
          have added := stepDepth?_eq_some_iff.mp stepped
          rw [show token.kind.depth = 1 by rw [paren]; rfl] at added
          exact ih rest (by omega)

/-- The word does not hold the count of 2 ^ 31 opening parentheses or more. -/
theorem isIncomplete?_leftParens (options : Options) {count : Nat} (many : 2147483648 ≤ count) :
    isIncomplete? options (List.replicate count '(') = none := by
  have inert : Inert (List.replicate count '(') := .of_not_mem (by simp)
  have cells : Cell.translate (SourceUnit.ofChars (List.replicate count '(')).chars =
      List.replicate count (.verbatim '(') := by
    rw [SourceUnit.chars, SourceUnit.ofChars, String.toList_ofList, inert.translate,
      List.map_replicate]
  have source : Command.parse? (List.replicate count '(') = none := by
    have blank : Charset.isWhiteSpace '(' = false := rfl
    have trimmed : Charset.trim (List.replicate count '(') = List.replicate count '(' := by
      simp [Charset.trim, blank]
    rw [Command.parse?, trimmed]
    cases count <;> rfl
  obtain ⟨last, run, -, -⟩ := (SourceUnit.ofChars (List.replicate count '(')).run_tokenize
    { options with keepComments := false }
  have full : 2147483647 < (0 : Int32).toInt + count := by
    rw [Int32.toInt_zero]
    omega
  have uncounted := depthFrom?_of_leftParens (run.kinds_of_leftParens rfl cells) full
  rw [isIncomplete?, source, if_neg (by decide)]
  dsimp only
  rw [ScannedUnit.depth?, uncounted]
  rfl

end JavaLex
