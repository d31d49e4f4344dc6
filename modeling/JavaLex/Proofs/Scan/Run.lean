import JavaLex.Proofs.Scan.Lexeme

/-! # Runs of a scanner

`Accepts` lists what one lexeme can give, and `Run` is the scan lexeme by lexeme. A property of all
tokens of a scan is proved by induction on its run, with one case for each kind of step.
-/

namespace JavaLex

/-! ## Lexemes at a cursor -/

namespace Cursor

def textOf (here : Cursor) (lexeme : Lexeme) : String :=
  String.ofList (here.chars.take lexeme.size)

def spanOf (here : Cursor) (lexeme : Lexeme) : Span :=
  ⟨here.position.offset, (here.advance lexeme.size).position.offset⟩

def errorsOf (here : Cursor) (lexeme : Lexeme) : List LexicalError :=
  (here.faults lexeme).map (Fault.locate here)

theorem faults_eq_nil_iff {here : Cursor} {lexeme : Lexeme} :
    here.faults lexeme = [] ↔
      here.malformedWithin lexeme.size = [] ∧ lexeme.outcome.faults = [] := by
  rw [← List.length_eq_zero_iff, faults, List.length_mergeSort, List.length_eq_zero_iff,
    List.append_eq_nil_iff, List.map_eq_nil_iff]

theorem mem_faults_iff {here : Cursor} {lexeme : Lexeme} {fault : Fault} :
    fault ∈ here.faults lexeme ↔
      fault ∈ (here.malformedWithin lexeme.size).map (Fault.of .malformedEscape) ∨
        fault ∈ lexeme.outcome.faults := by
  rw [faults, List.mem_mergeSort, List.mem_append]

theorem mem_malformedWithin_iff {cursor : Cursor} {count index : Nat} :
    index ∈ cursor.malformedWithin count ↔
      index < count ∧ ∃ cell, cursor.cells[index]? = some cell ∧ cell.malformed = true := by
  simp only [malformedWithin, List.mem_filterMap, Prod.exists, List.mk_mem_zipIdx_iff_getElem?,
    List.getElem?_take]
  constructor
  · rintro ⟨cell, place, found, kept⟩
    split at kept
    · next marked =>
      obtain rfl := Option.some.inj kept
      split at found
      · next within => exact ⟨within, cell, found, marked⟩
      · cases found
    · cases kept
  · rintro ⟨within, cell, found, marked⟩
    exact ⟨cell, index, by rw [if_pos within, found], by rw [if_pos marked]⟩

theorem malformedWithin_ne_nil {here : Cursor} {count : Nat} (marked : here.atMalformed = true)
    (positive : 0 < count) : here.malformedWithin count ≠ [] := by
  obtain ⟨cell, first, malformed⟩ := (Option.any_eq_true _ _).mp marked
  rw [List.head?_eq_getElem?] at first
  exact List.ne_nil_of_mem (mem_malformedWithin_iff.mpr ⟨positive, cell, first, malformed⟩)

theorem lexeme_of_plain {here : Cursor} (plain : ∀ cell ∈ here.cells, cell.malformed = false)
    (c : Char) (rest : List Char) : here.lexeme c rest = Lexeme.read c rest := by
  have unmarked : here.atMalformed = false := by
    apply Bool.eq_false_iff.mpr
    intro marked
    obtain ⟨cell, first, malformed⟩ := (Option.any_eq_true _ _).mp marked
    rw [plain cell (List.mem_of_mem_head? first)] at malformed
    cases malformed
  rw [lexeme, unmarked, if_neg (by decide)]

theorem faults_eq_nil_of_plain {here : Cursor} (plain : ∀ cell ∈ here.cells, cell.malformed = false)
    {lexeme : Lexeme} (faultless : lexeme.outcome.faults = []) : here.faults lexeme = [] := by
  refine faults_eq_nil_iff.mpr ⟨List.eq_nil_iff_forall_not_mem.mpr ?_, faultless⟩
  intro index member
  obtain ⟨-, cell, found, malformed⟩ := mem_malformedWithin_iff.mp member
  rw [plain cell (List.mem_of_getElem? found)] at malformed
  cases malformed

theorem sound_lexeme {here : Cursor} {c : Char} {rest : List Char}
    (clean : here.faults (here.lexeme c rest) = []) :
    Lexeme.Sound (c :: rest) (here.lexeme c rest) := by
  by_cases marked : here.atMalformed = true
  · have escapes := (faults_eq_nil_iff.mp clean).1
    exact absurd escapes (malformedWithin_ne_nil marked (here.size_lexeme_pos c rest))
  · rw [lexeme, if_neg marked]
    exact (Lexeme.readAs_read c rest).sound

theorem faults_ne_nil {here : Cursor} {c : Char} {rest : List Char} {faults : List Fault}
    (outcome : (here.lexeme c rest).outcome = .faulty faults) :
    here.faults (here.lexeme c rest) ≠ [] := by
  intro clean
  have sound := sound_lexeme clean
  have faultless := (faults_eq_nil_iff.mp clean).2
  rw [outcome] at faultless
  generalize here.lexeme c rest = read at sound outcome
  cases sound with
  | faulty some => exact some ((Outcome.faulty.inj outcome).trans faultless)
  | literal | operator | word | comment => cases outcome

theorem isLiteral_or_isOperator {here : Cursor} {c : Char} {rest : List Char} {kind : Kind}
    {value : Option Literal} (outcome : (here.lexeme c rest).outcome = .token kind value) :
    kind.isLiteral = true ∨ kind.isOperator = true := by
  unfold lexeme at outcome
  split at outcome
  · cases outcome
  · exact (Lexeme.readAs_read c rest).isLiteral_or_isOperator outcome

/-- A fault that ends the scan belongs to a lexeme that takes the rest of the text. -/
theorem size_lexeme_of_fatal {here : Cursor} {c : Char} {rest : List Char} {fault : Fault}
    (member : fault ∈ here.faults (here.lexeme c rest)) (fatal : fault.recoverable = false) :
    (here.lexeme c rest).size = rest.length + 1 := by
  rcases mem_faults_iff.mp member with escape | own
  · obtain ⟨index, -, rfl⟩ := List.mem_map.mp escape
    cases fatal
  · unfold lexeme at own ⊢
    split
    · next marked =>
      rw [if_pos marked] at own
      cases own
    · next unmarked =>
      rw [if_neg unmarked] at own
      have sound := (Lexeme.readAs_read c rest).sound
      generalize Lexeme.read c rest = read at sound own
      cases sound with
      | faulty _ takesAll => exact takesAll fault own fatal
      | literal | operator | word | comment => cases own

end Cursor

/-! ## One lexeme -/

namespace Reserved

theorem mem_table {allowUnderscore : Bool} {text : String} {kind : Kind}
    (member : (text, kind) ∈ table allowUnderscore) :
    (∃ word : Keyword, text = word.spelling ∧ kind = .keyword word) ∨
      kind = .booleanLiteral ∨ kind = .nullLiteral := by
  unfold table at member
  rcases List.mem_append.mp member with keyword | literal
  · rcases List.mem_append.mp keyword with listed | underscore
    · obtain ⟨word, -, same⟩ := List.mem_map.mp listed
      obtain ⟨rfl, rfl⟩ := Prod.mk.inj same
      exact .inl ⟨word, rfl, rfl⟩
    · split at underscore
      · cases underscore
      · obtain ⟨rfl, rfl⟩ := Prod.mk.inj (List.mem_singleton.mp underscore)
        exact .inl ⟨.underscore, rfl, rfl⟩
  · simp only [List.mem_cons, Prod.mk.injEq, List.not_mem_nil, or_false] at literal
    exact .inr (by grind)

theorem lookup?_eq_none_iff {allowUnderscore : Bool} {text : String} :
    lookup? allowUnderscore text = none ↔ text ∉ words allowUnderscore := by
  rw [lookup?, Option.map_eq_none_iff, List.find?_eq_none, words, List.mem_mergeSort, List.mem_map]
  constructor
  · rintro missing ⟨entry, member, same⟩
    exact missing entry member (beq_iff_eq.mpr same)
  · intro missing entry member same
    exact missing ⟨entry, member, eq_of_beq same⟩

/-- What a word is: an identifier unless it is reserved, else a keyword or a literal. -/
inductive Classified (allowUnderscore : Bool) (text : String) : Kind × Option Literal → Prop where
  | identifier : text ∉ words allowUnderscore →
      Classified allowUnderscore text (.identifier, none)
  | keyword {word : Keyword} : text = word.spelling →
      Classified allowUnderscore text (.keyword word, none)
  | literal (value : Literal) : Classified allowUnderscore text (value.kind, some value)

theorem classified_classify (allowUnderscore : Bool) (text : String) :
    Classified allowUnderscore text (classify allowUnderscore text) := by
  unfold classify
  split
  · exact .literal (.bool _)
  · exact .literal .null
  · next kind boolean null found =>
    obtain ⟨entry, searched, rfl⟩ := Option.map_eq_some_iff.mp found
    have matched := List.find?_some searched
    obtain rfl : entry.1 = text := eq_of_beq matched
    rcases mem_table (List.mem_of_find?_eq_some searched) with ⟨word, same, kind⟩ | other
    · rw [kind]
      exact .keyword same
    · rcases other with same | same
      · exact absurd same boolean
      · exact absurd same null
  · next missing => exact .identifier (lookup?_eq_none_iff.mp missing)

theorem not_mem_words_of_classify {allowUnderscore : Bool} {text : String}
    (identifier : (classify allowUnderscore text).1 = .identifier) :
    text ∉ words allowUnderscore := by
  have meaning := classified_classify allowUnderscore text
  generalize classify allowUnderscore text = classified at meaning identifier
  cases meaning with
  | identifier unreserved => exact unreserved
  | keyword => cases identifier
  | literal value => cases value <;> cases identifier

theorem kind_classify (allowUnderscore : Bool) (text : String) :
    (classify allowUnderscore text).1 = .identifier ∨
      (classify allowUnderscore text).1.isKeyword = true ∨
        (classify allowUnderscore text).1.isLiteral = true := by
  have meaning := classified_classify allowUnderscore text
  generalize classify allowUnderscore text = classified at meaning ⊢
  cases meaning with
  | identifier => exact .inl rfl
  | keyword => exact .inr (.inl rfl)
  | literal value => exact .inr (.inr value.isLiteral_kind)

theorem kind_classify_ne (allowUnderscore : Bool) (text : String) {kind : Kind}
    (named : kind ≠ .identifier) (reserved : kind.isKeyword = false)
    (literal : kind.isLiteral = false) : (classify allowUnderscore text).1 ≠ kind := by
  rintro rfl
  rcases kind_classify allowUnderscore text with identifier | keyword | value
  · exact named identifier
  · exact absurd (keyword.symm.trans reserved) (by decide)
  · exact absurd (value.symm.trans literal) (by decide)

end Reserved

namespace Scanner

/-- What a scanner gives for a lexeme, and how it goes on. -/
inductive Accepts (scanner : Scanner) (here : Cursor) (lexeme : Lexeme) :
    Option Token → Scanner → Prop where
  | faulty {first : LexicalError} {more : List LexicalError} :
      here.errorsOf lexeme = first :: more →
      Accepts scanner here lexeme
        (some (.ofError first (here.textOf lexeme) (here.spanOf lexeme) here.position))
        { scanner with
          cursor := here.advance lexeme.size
          errors := scanner.errors ++ first :: more
          exhausted := !(first :: more).all (·.recoverable) }
  | token {kind : Kind} {value : Option Literal} :
      here.faults lexeme = [] → lexeme.outcome = .token kind value →
      Accepts scanner here lexeme
        (some { Token.plain kind (here.textOf lexeme) (here.spanOf lexeme) here.position with
          value := value })
        { scanner with cursor := here.advance lexeme.size }
  | name :
      here.faults lexeme = [] → lexeme.outcome = .word →
      (Reserved.classify scanner.options.allowUnderscore (here.textOf lexeme)).1 = .identifier →
      Accepts scanner here lexeme
        (some { Token.plain .identifier (here.textOf lexeme) (here.spanOf lexeme) here.position with
          name := some (scanner.names.intern (here.textOf lexeme)).1 })
        { scanner with
          cursor := here.advance lexeme.size
          names := (scanner.names.intern (here.textOf lexeme)).2 }
  | reserved {kind : Kind} {value : Option Literal} :
      here.faults lexeme = [] → lexeme.outcome = .word → kind ≠ .identifier →
      Reserved.classify scanner.options.allowUnderscore (here.textOf lexeme) = (kind, value) →
      Accepts scanner here lexeme
        (some { Token.plain kind (here.textOf lexeme) (here.spanOf lexeme) here.position with
          value := value })
        { scanner with cursor := here.advance lexeme.size }
  | comment {style : CommentStyle} :
      here.faults lexeme = [] → lexeme.outcome = .comment style →
      scanner.options.keepComments = true →
      Accepts scanner here lexeme
        (some (.plain (.comment style) (here.textOf lexeme) (here.spanOf lexeme) here.position))
        { scanner with cursor := here.advance lexeme.size }
  | skipped {style : CommentStyle} :
      here.faults lexeme = [] → lexeme.outcome = .comment style →
      scanner.options.keepComments = false →
      Accepts scanner here lexeme none { scanner with cursor := here.advance lexeme.size }

theorem accepts_accept (scanner : Scanner) (here : Cursor) (c : Char) (rest : List Char) :
    Accepts scanner here (here.lexeme c rest) (scanner.accept here (here.lexeme c rest)).1
      (scanner.accept here (here.lexeme c rest)).2 := by
  have faulty : ∀ faults, (here.lexeme c rest).outcome = .faulty faults →
      here.faults (here.lexeme c rest) ≠ [] := fun _ => here.faults_ne_nil
  generalize here.lexeme c rest = lexeme at faulty ⊢
  unfold accept acceptWith
  dsimp only
  split
  · next first more errors => exact .faulty errors
  · next errors =>
    have clean : here.faults lexeme = [] := List.map_eq_nil_iff.mp errors
    split
    · next kind value outcome => exact .token clean outcome
    · next outcome =>
      unfold acceptWord
      dsimp only
      split
      · next identifier =>
        have kind := eq_of_beq identifier
        have named : Accepts scanner here lexeme _ _ := .name clean outcome kind
        rw [← kind] at named
        exact named
      · next other => exact .reserved clean outcome (by simpa using other) rfl
    · next style outcome =>
      split
      · next kept => exact .comment clean outcome kept
      · next dropped => exact .skipped clean outcome (by simpa using dropped)
    · next faults outcome => exact absurd clean (faulty faults outcome)

private theorem acceptWord_of_identifier (scanner : Scanner) (token : Token)
    (identifier : (Reserved.classify scanner.options.allowUnderscore token.text).1 = .identifier) :
    scanner.acceptWord token =
      ({ token with kind := .identifier, name := some (scanner.names.intern token.text).1 },
        { scanner with names := (scanner.names.intern token.text).2 }) := by
  unfold acceptWord
  dsimp only
  rw [if_pos (beq_iff_eq.mpr identifier), identifier]

private theorem acceptWord_of_reserved (scanner : Scanner) (token : Token) {kind : Kind}
    {value : Option Literal}
    (classified : Reserved.classify scanner.options.allowUnderscore token.text = (kind, value))
    (other : kind ≠ .identifier) :
    scanner.acceptWord token = ({ token with kind := kind, value := value }, scanner) := by
  unfold acceptWord
  rw [classified]
  exact if_neg (by simpa using other)

namespace Accepts

variable {scanner later : Scanner} {here : Cursor} {lexeme : Lexeme} {token : Token}
  {result : Option Token}

/-- A lexeme gives one thing only. -/
theorem accept_eq (accepts : Accepts scanner here lexeme result later) :
    scanner.accept here lexeme = (result, later) := by
  unfold accept acceptWith
  cases accepts with
  | @faulty first more errors =>
      rw [show (here.faults lexeme).map (Fault.locate here) = first :: more from errors]
      rfl
  | token clean outcome =>
      rw [clean, outcome]
      rfl
  | name clean outcome identifier =>
      have word := acceptWord_of_identifier { scanner with cursor := here.advance lexeme.size }
        (.plain .identifier (here.textOf lexeme) (here.spanOf lexeme) here.position) identifier
      rw [clean, outcome]
      exact congrArg (fun word => (some word.1, word.2)) word
  | reserved clean outcome other classified =>
      have word := acceptWord_of_reserved { scanner with cursor := here.advance lexeme.size }
        (.plain .identifier (here.textOf lexeme) (here.spanOf lexeme) here.position) classified other
      rw [clean, outcome]
      exact congrArg (fun word => (some word.1, word.2)) word
  | comment clean outcome kept =>
      rw [clean, outcome]
      exact if_pos kept
  | skipped clean outcome dropped =>
      rw [clean, outcome]
      exact if_neg (by simp [dropped])

theorem cursor_eq (accepts : Accepts scanner here lexeme result later) :
    later.cursor = here.advance lexeme.size := by
  cases accepts <;> rfl

theorem source_eq (accepts : Accepts scanner here lexeme result later) :
    later.source = scanner.source := by
  cases accepts <;> rfl

theorem options_eq (accepts : Accepts scanner here lexeme result later) :
    later.options = scanner.options := by
  cases accepts <;> rfl

theorem errors_eq (accepts : Accepts scanner here lexeme result later) :
    later.errors = scanner.errors ++ here.errorsOf lexeme := by
  cases accepts with
  | faulty errors => rw [errors]
  | token clean => simp [Cursor.errorsOf, clean]
  | name clean => simp [Cursor.errorsOf, clean]
  | reserved clean => simp [Cursor.errorsOf, clean]
  | comment clean => simp [Cursor.errorsOf, clean]
  | skipped clean => simp [Cursor.errorsOf, clean]

theorem names_eq (accepts : Accepts scanner here lexeme none later) :
    later.names = scanner.names := by
  cases accepts
  rfl

theorem text_eq (accepts : Accepts scanner here lexeme (some token) later) :
    token.text = here.textOf lexeme := by
  cases accepts <;> rfl

theorem span_eq (accepts : Accepts scanner here lexeme (some token) later) :
    token.span = here.spanOf lexeme := by
  cases accepts <;> rfl

theorem position_eq (accepts : Accepts scanner here lexeme (some token) later) :
    token.position = here.position := by
  cases accepts <;> rfl

theorem exists_fatal (accepts : Accepts scanner here lexeme result later)
    (ready : scanner.exhausted = false) (exhausted : later.exhausted = true) :
    ∃ fault ∈ here.faults lexeme, fault.recoverable = false := by
  cases accepts with
  | @faulty first more errors =>
      have unrecoverable : (first :: more).all (·.recoverable) = false := by
        rwa [Bool.not_eq_true'] at exhausted
      obtain ⟨error, member, fatal⟩ := List.all_eq_false.mp unrecoverable
      rw [← errors] at member
      obtain ⟨fault, found, rfl⟩ := List.mem_map.mp member
      exact ⟨fault, found, by simpa [Fault.locate] using fatal⟩
  | token | name | reserved | comment | skipped =>
      exact absurd (ready.symm.trans exhausted) (by decide)

theorem exhausted_of_fatal (accepts : Accepts scanner here lexeme result later)
    {error : LexicalError} (member : error ∈ here.errorsOf lexeme)
    (fatal : error.recoverable = false) : later.exhausted = true := by
  cases accepts with
  | @faulty first more errors =>
      have unrecoverable : (first :: more).all (·.recoverable) = false :=
        List.all_eq_false.mpr ⟨error, errors ▸ member, by simp [fatal]⟩
      simp [unrecoverable]
  | token clean | name clean | reserved clean | comment clean | skipped clean =>
      rw [Cursor.errorsOf, clean] at member
      cases member

theorem isEof_eq_false {c : Char} {rest : List Char}
    (accepts : Accepts scanner here (here.lexeme c rest) (some token) later) :
    token.isEof = false := by
  have kinds : ∀ {kind : Kind}, kind ≠ .eof → (kind == Kind.eof) = false := beq_false_of_ne
  cases accepts with
  | faulty => rfl
  | token clean outcome =>
      apply kinds
      rintro rfl
      rcases here.isLiteral_or_isOperator outcome with literal | operator
      · cases literal
      · cases operator
  | name => rfl
  | reserved _ _ _ classified =>
      have kind : _ ≠ Kind.eof := Reserved.kind_classify_ne scanner.options.allowUnderscore
        (here.textOf (here.lexeme c rest)) (by decide) rfl rfl
      rw [classified] at kind
      exact kinds kind
  | comment => rfl

theorem error_eq (accepts : Accepts scanner here lexeme (some token) later) :
    token.error = (here.errorsOf lexeme).head? := by
  cases accepts with
  | faulty errors => rw [errors]; rfl
  | token clean | name clean | reserved clean | comment clean =>
      rw [Cursor.errorsOf, clean]
      rfl

/-- The tokens for text that forms none are those of the lexemes with errors. -/
theorem kind_eq_error_iff {c : Char} {rest : List Char}
    (accepts : Accepts scanner here (here.lexeme c rest) (some token) later) :
    token.kind = .error ↔ here.errorsOf (here.lexeme c rest) ≠ [] := by
  have sound : ∀ {kind : Kind}, kind ≠ .error → here.faults (here.lexeme c rest) = [] →
      (kind = .error ↔ here.errorsOf (here.lexeme c rest) ≠ []) := by
    intro kind other clean
    simp [Cursor.errorsOf, clean, other]
  cases accepts with
  | faulty errors =>
      rw [errors]
      exact ⟨fun _ => List.cons_ne_nil _ _, fun _ => rfl⟩
  | token clean outcome =>
      refine sound ?_ clean
      rintro rfl
      rcases here.isLiteral_or_isOperator outcome with literal | operator
      · cases literal
      · cases operator
  | name clean => exact sound (fun same => by cases same) clean
  | reserved clean _ _ classified =>
      have kind : _ ≠ Kind.error := Reserved.kind_classify_ne scanner.options.allowUnderscore
        (here.textOf (here.lexeme c rest)) (by decide) rfl rfl
      rw [classified] at kind
      exact sound kind clean
  | comment clean => exact sound (fun same => by cases same) clean

end Accepts

/-! ## One call -/

structure Passes (scanner : Scanner) (lexeme : Lexeme) (result : Option Token)
    (later : Scanner) : Prop where
  going : scanner.exhausted = false
  reads : ∃ c rest, scanner.atLexeme.chars = c :: rest ∧ lexeme = scanner.atLexeme.lexeme c rest
  accepts : Accepts scanner scanner.atLexeme lexeme result later

/-- What one call gives: the sentinel, or the token of the first lexeme that is not skipped. -/
inductive Gives : Scanner → Token → Scanner → Prop where
  | exhausted {scanner : Scanner} : scanner.exhausted = true →
      Gives scanner (.eof scanner.source.endPosition) scanner
  | ended {scanner : Scanner} : scanner.exhausted = false → scanner.atLexeme.chars = [] →
      Gives scanner (.eof scanner.atLexeme.position)
        { scanner with cursor := scanner.atLexeme, exhausted := true }
  | token {scanner later : Scanner} {lexeme : Lexeme} {token : Token} :
      Passes scanner lexeme (some token) later → Gives scanner token later
  | skipped {scanner later last : Scanner} {lexeme : Lexeme} {token : Token} :
      Passes scanner lexeme none later → Gives later token last → Gives scanner token last

namespace Passes

variable {scanner later : Scanner} {lexeme : Lexeme} {token : Token} {result : Option Token}

theorem isEof_eq_false (passes : Passes scanner lexeme (some token) later) :
    token.isEof = false := by
  obtain ⟨c, rest, -, rfl⟩ := passes.reads
  exact passes.accepts.isEof_eq_false

theorem kind_eq_error_iff (passes : Passes scanner lexeme (some token) later) :
    token.kind = .error ↔ scanner.atLexeme.errorsOf lexeme ≠ [] := by
  obtain ⟨c, rest, -, rfl⟩ := passes.reads
  exact passes.accepts.kind_eq_error_iff

/-- A comment that is skipped leaves a scanner going and without new errors. -/
theorem of_skipped (passes : Passes scanner lexeme none later) :
    later.exhausted = false ∧ scanner.atLexeme.faults lexeme = [] := by
  obtain ⟨going, -, accepts⟩ := passes
  cases accepts with
  | skipped clean => exact ⟨going, clean⟩

end Passes

theorem gives_scan (scanner : Scanner) (going : scanner.exhausted = false) :
    Gives scanner scanner.scan.1 scanner.scan.2 := by
  fun_induction scan scanner with
  | case1 scanner ended => exact .ended going ended
  | case2 scanner c rest chars token later accepted =>
      have accepts := scanner.accepts_accept scanner.atLexeme c rest
      rw [accepted] at accepts
      exact .token ⟨going, ⟨c, rest, chars, rfl⟩, accepts⟩
  | case3 scanner c rest chars later accepted ih =>
      have accepts := scanner.accepts_accept scanner.atLexeme c rest
      rw [accepted] at accepts
      have passes : Passes scanner _ none later := ⟨going, ⟨c, rest, chars, rfl⟩, accepts⟩
      exact .skipped passes (ih passes.of_skipped.1)

theorem next_of_exhausted {scanner : Scanner} (exhausted : scanner.exhausted = true) :
    scanner.next = (.eof scanner.source.endPosition, scanner) := by
  rw [next, if_pos exhausted]

theorem next_of_going {scanner : Scanner} (going : scanner.exhausted = false) :
    scanner.next = scanner.scan := by
  rw [next, if_neg (by simp [going])]

theorem scan_of_cons {scanner : Scanner} {c : Char} {rest : List Char}
    (chars : scanner.atLexeme.chars = c :: rest) :
    scanner.scan =
      match scanner.accept scanner.atLexeme (scanner.atLexeme.lexeme c rest) with
      | (some token, later) => (token, later)
      | (none, later) => later.scan := by
  rw [scan]
  split
  · next ended => cases ended.symm.trans chars
  · next d more same =>
    obtain ⟨rfl, rfl⟩ := List.cons.inj (same.symm.trans chars)
    split
    · next accepted => rw [accepted]
    · next accepted => rw [accepted]

/-- Every call gives a token in one of these ways. -/
theorem gives_next (scanner : Scanner) : Gives scanner scanner.next.1 scanner.next.2 := by
  by_cases exhausted : scanner.exhausted = true
  · rw [next_of_exhausted exhausted]
    exact .exhausted exhausted
  · have going : scanner.exhausted = false := by simpa using exhausted
    rw [next_of_going going]
    exact scanner.gives_scan going

theorem Gives.next_eq {scanner later : Scanner} {token : Token}
    (gives : Gives scanner token later) : scanner.next = (token, later) := by
  induction gives with
  | exhausted exhausted => exact next_of_exhausted exhausted
  | ended going ended =>
      rw [next_of_going going, scan]
      split
      · rfl
      · next chars => cases ended.symm.trans chars
  | token passes =>
      obtain ⟨going, ⟨c, rest, chars, rfl⟩, accepts⟩ := passes
      rw [next_of_going going, scan_of_cons chars, accepts.accept_eq]
  | skipped passes _ ih =>
      rw [next_of_going passes.of_skipped.1] at ih
      obtain ⟨going, ⟨c, rest, chars, rfl⟩, accepts⟩ := passes
      rw [next_of_going going, scan_of_cons chars, accepts.accept_eq]
      exact ih

/-! ## Whole scans -/

/-- The tokens that a scanner gives from now on, and the scanner after them. -/
inductive Run : Scanner → List Token → Scanner → Prop where
  | exhausted {scanner : Scanner} : scanner.exhausted = true →
      Run scanner [.eof scanner.source.endPosition] scanner
  | ended {scanner : Scanner} : scanner.exhausted = false → scanner.atLexeme.chars = [] →
      Run scanner [.eof scanner.atLexeme.position]
        { scanner with cursor := scanner.atLexeme, exhausted := true }
  | skipped {scanner later last : Scanner} {c : Char} {rest : List Char} {tokens : List Token} :
      scanner.exhausted = false → scanner.atLexeme.chars = c :: rest →
      Accepts scanner scanner.atLexeme (scanner.atLexeme.lexeme c rest) none later →
      Run later tokens last → Run scanner tokens last
  | token {scanner later last : Scanner} {c : Char} {rest : List Char} {token : Token}
      {tokens : List Token} :
      scanner.exhausted = false → scanner.atLexeme.chars = c :: rest →
      Accepts scanner scanner.atLexeme (scanner.atLexeme.lexeme c rest) (some token) later →
      Run later tokens last → Run scanner (token :: tokens) last

namespace Passes

variable {scanner later last : Scanner} {lexeme : Lexeme} {token : Token} {tokens : List Token}

theorem run_skipped (passes : Passes scanner lexeme none later) (run : Run later tokens last) :
    Run scanner tokens last := by
  obtain ⟨going, ⟨c, rest, chars, rfl⟩, accepts⟩ := passes
  exact .skipped going chars accepts run

theorem run_token (passes : Passes scanner lexeme (some token) later)
    (run : Run later tokens last) : Run scanner (token :: tokens) last := by
  obtain ⟨going, ⟨c, rest, chars, rfl⟩, accepts⟩ := passes
  exact .token going chars accepts run

end Passes

/-- A run begins with the token of a call, and ends there if that is the sentinel. -/
private theorem Gives.run {scanner later : Scanner} {token : Token}
    (gives : Gives scanner token later) :
    (token.isEof = true → Run scanner [token] later) ∧
      (token.isEof = false → ∀ tokens last, Run later tokens last →
        Run scanner (token :: tokens) last) := by
  induction gives with
  | exhausted exhausted => exact ⟨fun _ => .exhausted exhausted, fun other => by cases other⟩
  | ended going ended => exact ⟨fun _ => .ended going ended, fun other => by cases other⟩
  | token passes =>
      constructor
      · intro eof
        rw [passes.isEof_eq_false] at eof
        cases eof
      · exact fun _ tokens last run => passes.run_token run
  | skipped passes _ ih =>
      obtain ⟨closing, opening⟩ := ih
      exact ⟨fun eof => passes.run_skipped (closing eof),
        fun other tokens last run => passes.run_skipped (opening other tokens last run)⟩

theorem remaining_of_isEof {scanner : Scanner} (ended : scanner.next.1.isEof = true) :
    scanner.remaining = ([scanner.next.1], scanner.next.2) := by
  rw [remaining]
  exact dif_pos ended

theorem remaining_of_proper {scanner : Scanner} (proper : scanner.next.1.isEof = false) :
    scanner.remaining =
      (scanner.next.1 :: scanner.next.2.remaining.1, scanner.next.2.remaining.2) := by
  rw [remaining]
  exact dif_neg (Bool.eq_false_iff.mp proper)

/-- The tokens left are those of a run. -/
theorem run_remaining (scanner : Scanner) :
    Run scanner scanner.remaining.1 scanner.remaining.2 := by
  fun_induction remaining scanner with
  | case1 scanner token later next ended =>
      have gives := scanner.gives_next
      rw [next] at gives
      exact gives.run.1 ended
  | case2 scanner token later next going tokens last rest ih =>
      have gives := scanner.gives_next
      rw [next] at gives
      rw [rest] at ih
      exact gives.run.2 (by simpa using going) tokens last ih

/-- There is only one run. -/
theorem Run.remaining_eq {scanner last : Scanner} {tokens : List Token}
    (run : Run scanner tokens last) : scanner.remaining = (tokens, last) := by
  induction run with
  | exhausted exhausted =>
      have next := next_of_exhausted exhausted
      rw [remaining_of_isEof (by rw [next]; rfl), next]
  | ended going ended =>
      have next := (Gives.ended going ended).next_eq
      rw [remaining_of_isEof (by rw [next]; rfl), next]
  | @skipped scanner later last c rest tokens going chars accepts _ ih =>
      have passes : Passes scanner _ none later := ⟨going, ⟨c, rest, chars, rfl⟩, accepts⟩
      have same := (Gives.skipped passes later.gives_next).next_eq
      rw [remaining] at ih ⊢
      rw [same]
      exact ih
  | @token scanner later last c rest token tokens going chars accepts _ ih =>
      have passes : Passes scanner _ (some token) later := ⟨going, ⟨c, rest, chars, rfl⟩, accepts⟩
      have next := (Gives.token passes).next_eq
      rw [remaining_of_proper (by rw [next]; exact passes.isEof_eq_false), next, ih]

theorem Run.errors_prefix {scanner last : Scanner} {tokens : List Token}
    (run : Run scanner tokens last) : scanner.errors <+: last.errors := by
  induction run with
  | exhausted => exact List.prefix_refl _
  | ended => exact List.prefix_refl _
  | skipped _ _ accepts _ ih =>
      rw [accepts.errors_eq] at ih
      exact (List.prefix_append _ _).trans ih
  | token _ _ accepts _ ih =>
      rw [accepts.errors_eq] at ih
      exact (List.prefix_append _ _).trans ih

end Scanner

/-- The scan of a unit is a run from its start. -/
theorem SourceUnit.run_tokenize (source : SourceUnit) (options : Options) :
    ∃ last : Scanner, Scanner.Run (.start options source) (source.tokenize options).tokens last ∧
      (source.tokenize options).errors = last.errors ∧
      (source.tokenize options).names = last.names :=
  ⟨_, Scanner.run_remaining _, rfl, rfl⟩

theorem Scanner.Run.tokenize_eq {source : SourceUnit} {options : Options} {last : Scanner}
    {tokens : List Token} (run : Run (.start options source) tokens last) :
    source.tokenize options = ⟨last.source, tokens, last.errors, last.names⟩ := by
  rw [SourceUnit.tokenize, finish, run.remaining_eq]

end JavaLex
