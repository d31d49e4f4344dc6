import JavaLex.Proofs.Front.Compound
import JavaLex.Proofs.Scan.Calls

/-! # Well-formed tokens

The kind of a token decides which of its other fields are there: a value for literals, a name for
identifiers, an error for text that forms no token. It also decides the text of keywords and
operators, and an identifier is a word that is not reserved.
-/

namespace JavaLex

open Charset

structure IsIdentifier (allowUnderscore : Bool) (text : String) : Prop where
  word : ∃ c rest, text.toList = c :: rest ∧ isIdentifierStart c = true ∧
    ∀ d ∈ rest, isIdentifierPart d = true
  unreserved : text ∉ Reserved.words allowUnderscore

namespace Token

/-- The fields of a token go with its kind. -/
structure WellFormed (allowUnderscore : Bool) (token : Token) : Prop where
  /-- Literals have a value of their own type, and nothing else has a value. -/
  value : token.value.map Literal.kind = if token.kind.isLiteral then some token.kind else none
  error : token.error.isSome = true ↔ token.kind = .error
  name : token.name.isSome = true ↔ token.kind = .identifier
  fixedText : ∀ text, token.kind.fixedText? = some text → token.text = text
  identifier : token.kind = .identifier → IsIdentifier allowUnderscore token.text

variable {allowUnderscore : Bool}

/-- A token without value, error or name is well formed if its kind asks for none. -/
theorem wellFormed_plain {kind : Kind} {text : String} (span : Span) (start : Position)
    (other : kind.isLiteral = false) (sound : kind ≠ .error) (nameless : kind ≠ .identifier)
    (fixed : ∀ spelling, kind.fixedText? = some spelling → text = spelling) :
    (plain kind text span start).WellFormed allowUnderscore where
  value := by simp [plain, other]
  error := by simp [plain, sound]
  name := by simp [plain, nameless]
  fixedText := fixed
  identifier := fun same => absurd same nameless

theorem wellFormed_eof (place : Position) : (eof place).WellFormed allowUnderscore :=
  wellFormed_plain _ _ rfl (by decide) (by decide) fun _ none => by cases none

theorem wellFormed_operator (symbol : Operator) (span : Span) (start : Position) :
    (plain (.operator symbol) symbol.spelling span start).WellFormed allowUnderscore :=
  wellFormed_plain span start rfl (fun same => by cases same) (fun same => by cases same)
    fun _ spelling => Option.some.inj spelling

theorem wellFormed_keyword (word : Keyword) (span : Span) (start : Position) :
    (plain (.keyword word) word.spelling span start).WellFormed allowUnderscore :=
  wellFormed_plain span start rfl (fun same => by cases same) (fun same => by cases same)
    fun _ spelling => Option.some.inj spelling

theorem wellFormed_comment (style : CommentStyle) (text : String) (span : Span)
    (start : Position) : (plain (.comment style) text span start).WellFormed allowUnderscore :=
  wellFormed_plain span start rfl (fun same => by cases same) (fun same => by cases same)
    fun _ none => by cases none

theorem wellFormed_ofError (error : LexicalError) (text : String) (span : Span)
    (start : Position) : (ofError error text span start).WellFormed allowUnderscore where
  value := rfl
  error := by simp [ofError, plain]
  name := by simp [ofError, plain]
  fixedText := fun _ none => by cases none
  identifier := fun same => by cases same

theorem wellFormed_literal (literal : Literal) (text : String) (span : Span) (start : Position) :
    { plain literal.kind text span start with value := some literal }.WellFormed
      allowUnderscore where
  value := by simp [plain, literal.isLiteral_kind]
  error := by cases literal <;> simp [plain, Literal.kind]
  name := by cases literal <;> simp [plain, Literal.kind]
  fixedText := by cases literal <;> exact fun _ none => by cases none
  identifier := by cases literal <;> exact fun same => by cases same

theorem wellFormed_identifier {text : String} (identifier : IsIdentifier allowUnderscore text)
    (name : Nat) (span : Span) (start : Position) :
    { plain .identifier text span start with name := some name }.WellFormed
      allowUnderscore where
  value := rfl
  error := by simp [plain]
  name := by simp [plain]
  fixedText := fun _ none => by cases none
  identifier := fun _ => identifier

theorem wellFormed_of_split? {token head tail : Token} (split : token.split? = some (head, tail)) :
    head.WellFormed allowUnderscore ∧ tail.WellFormed allowUnderscore := by
  obtain ⟨_, first, second, -, -, -, rfl, rfl⟩ := split?_eq_some_iff.mp split
  exact ⟨wellFormed_operator first _ _, wellFormed_operator second _ _⟩

end Token

namespace Scanner

variable {scanner later : Scanner} {here : Cursor} {c : Char} {rest : List Char} {token : Token}

theorem isIdentifier_of_word {allowUnderscore : Bool} (chars : here.chars = c :: rest)
    (clean : here.faults (here.lexeme c rest) = [])
    (outcome : (here.lexeme c rest).outcome = .word)
    (unreserved : here.textOf (here.lexeme c rest) ∉ Reserved.words allowUnderscore) :
    IsIdentifier allowUnderscore (here.textOf (here.lexeme c rest)) := by
  refine ⟨?_, unreserved⟩
  have sound := Cursor.sound_lexeme clean
  generalize here.lexeme c rest = lexeme at sound outcome
  cases sound with
  | word same start =>
      obtain ⟨rfl, rfl⟩ := List.cons.inj same
      have taken : rest.take (rest.takeWhile isIdentifierPart).length =
          rest.takeWhile isIdentifierPart :=
        (List.prefix_iff_eq_take.mp (List.takeWhile_prefix _)).symm
      refine ⟨c, rest.takeWhile isIdentifierPart, ?_, start, ?_⟩
      · rw [Cursor.textOf, chars, String.toList_ofList, Lexeme.word, List.take_succ_cons, taken]
      · exact fun d member => List.all_eq_true.mp List.all_takeWhile d member
  | literal | operator | comment | faulty => cases outcome

theorem Accepts.wellFormed
    (accepts : Accepts scanner here (here.lexeme c rest) (some token) later)
    (chars : here.chars = c :: rest) : token.WellFormed scanner.options.allowUnderscore := by
  cases accepts with
  | faulty => exact Token.wellFormed_ofError _ _ _ _
  | token clean outcome =>
      have sound := Cursor.sound_lexeme clean
      generalize here.lexeme c rest = lexeme at sound outcome
      cases sound with
      | literal value =>
          obtain ⟨rfl, rfl⟩ := Outcome.token.inj outcome
          exact Token.wellFormed_literal value _ _ _
      | @operator symbol spelled =>
          obtain ⟨rfl, rfl⟩ := Outcome.token.inj outcome
          have text : here.textOf ⟨.token (.operator symbol) none, symbol.size⟩ =
              symbol.spelling := by
            rw [Cursor.textOf, chars, spelled]
            exact String.ofList_toList
          rw [text]
          exact Token.wellFormed_operator symbol _ _
      | word | comment | faulty => cases outcome
  | name clean outcome identifier =>
      have unreserved := Reserved.not_mem_words_of_classify identifier
      exact Token.wellFormed_identifier (isIdentifier_of_word chars clean outcome unreserved) _ _ _
  | reserved clean outcome other classified =>
      have meaning := Reserved.classified_classify scanner.options.allowUnderscore
        (here.textOf (here.lexeme c rest))
      rw [classified] at meaning
      cases meaning with
      | identifier => exact absurd rfl other
      | keyword spelled =>
          rw [spelled]
          exact Token.wellFormed_keyword _ _ _
      | literal value => exact Token.wellFormed_literal value _ _ _
  | comment => exact Token.wellFormed_comment _ _ _ _

theorem Gives.wellFormed (gives : Gives scanner token later) :
    token.WellFormed scanner.options.allowUnderscore := by
  induction gives with
  | exhausted => exact Token.wellFormed_eof _
  | ended => exact Token.wellFormed_eof _
  | token passes =>
      obtain ⟨-, ⟨c, rest, chars, rfl⟩, accepts⟩ := passes
      exact accepts.wellFormed chars
  | skipped passes _ ih =>
      rw [passes.accepts.options_eq] at ih
      exact ih

theorem invariant_options (options : Options) :
    Invariant fun scanner => scanner.options = options where
  passes := fun same passes => passes.accepts.options_eq.trans same
  ended := fun same _ _ => same

end Scanner

/-! ## Units -/

namespace SourceUnit

variable (unit : SourceUnit) (options : Options)

theorem options_scannerAfter (count : Nat) :
    (unit.scannerAfter options count).options = options :=
  (Scanner.invariant_options options).calls rfl count

theorem wellFormed_firstTokens (count : Nat) :
    ∀ token ∈ unit.firstTokens options count, token.WellFormed options.allowUnderscore := by
  intro token member
  obtain ⟨earlier, _, -, gives⟩ := unit.exists_gives_of_mem options count member
  have wellFormed := gives.wellFormed
  rwa [unit.options_scannerAfter options earlier] at wellFormed

end SourceUnit

/-- Every token of a unit is well formed, whether it comes from a whole scan or from a call of its
scanner, and so are the two parts that it can be split into. -/
theorem tokens_wellFormed (unit : SourceUnit) (options : Options) (token : Token)
    (given : token ∈ (unit.tokenize options).tokens ∨
      ∃ count, token ∈ unit.firstTokens options count) :
    token.WellFormed options.allowUnderscore ∧
      ∀ head tail, token.split? = some (head, tail) →
        head.WellFormed options.allowUnderscore ∧ tail.WellFormed options.allowUnderscore := by
  have called : ∃ count, token ∈ unit.firstTokens options count := by
    rcases given with scanned | called
    · obtain ⟨count, -, tokens, -⟩ := unit.exists_calls_tokenize options
      exact ⟨count, tokens ▸ scanned⟩
    · exact called
  obtain ⟨count, member⟩ := called
  exact ⟨unit.wellFormed_firstTokens options count token member,
    fun _ _ => Token.wellFormed_of_split?⟩

/-- The keyword is written with an escape, and its text is the keyword. -/
theorem tokens_wellFormed_escape :
    ∃ token ∈ (SourceUnit.tokenize ⟨"Types.java", "i\\u006et x"⟩ .usual).tokens,
      token.span = ⟨0, 8⟩ ∧ token.WellFormed false :=
  ⟨⟨.keyword .kwInt, "int", ⟨0, 8⟩, 1, 1, none, none, none⟩, by decide +kernel, rfl,
    (tokens_wellFormed ⟨"Types.java", "i\\u006et x"⟩ .usual _ (.inl (by decide +kernel))).1⟩

end JavaLex
