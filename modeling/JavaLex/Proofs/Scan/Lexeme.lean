import JavaLex.Scanner

/-! # What a lexeme can be

`ReadAs` lists the ways in which the front of a text is read. Three facts about all of them carry
the proofs about scans: an outcome without a token has a reason, a token is a literal or an
operator, and a fault that ends the scan takes the rest of the text.
-/

namespace JavaLex

open Charset

/-! ## Literals and operators -/

def Literal.kind : Literal → Kind
  | int _ => .intLiteral
  | long _ => .longLiteral
  | float _ => .floatLiteral
  | double _ => .doubleLiteral
  | char _ => .charLiteral
  | string _ => .stringLiteral
  | bool _ => .booleanLiteral
  | null => .nullLiteral

theorem Literal.isLiteral_kind (value : Literal) : value.kind.isLiteral = true := by
  cases value <;> rfl

namespace Operator

theorem chars_of_ofChars? {text : List Char} {operator : Operator}
    (found : ofChars? text = some operator) : operator.chars = text := by
  have matched := List.find?_some found
  exact eq_of_beq matched

theorem take_of_longest? {text : List Char} {operator : Operator}
    (found : longest? text = some operator) : text.take operator.size = operator.chars := by
  obtain ⟨size, -, spelled⟩ := List.exists_of_findSome?_eq_some found
  have whole := chars_of_ofChars? spelled
  rw [Operator.size, whole, List.length_take, ← List.take_eq_take_min]

end Operator

namespace Quoted

theorem size_escape_le (text : List Char) : (escape text).2 ≤ text.length := by
  unfold escape
  split
  · simp
  · next c rest =>
    split
    · simp
    split
    · dsimp only
      exact Nat.le_trans (List.takeWhile_prefix _).length_le (List.length_take_le' _ _)
    · split <;> simp

theorem size_body_of_inputEnd (index : Nat) (text : List Char)
    (ended : (body index text).stop = .inputEnd) : (body index text).size = text.length := by
  fun_induction body index text with
  | case1 => rfl
  | case2 => cases ended
  | case3 => cases ended
  | case4 index c rest _ _ _ sequence tail decoded _ ih =>
      have taken : sequence.2 ≤ rest.length := size_escape_le rest
      have left : tail.size = (rest.drop sequence.2).length := ih ended
      simp only [List.length_drop] at left
      simp only [List.length_cons, left]
      omega
  | case5 index c rest _ _ _ sequence tail illegal _ ih =>
      have taken : sequence.2 ≤ rest.length := size_escape_le rest
      have left : tail.size = (rest.drop sequence.2).length := ih ended
      simp only [List.length_drop] at left
      simp only [List.length_cons, left]
      omega
  | case6 index c rest _ _ _ tail ih =>
      have left : tail.size = rest.length := ih ended
      simp only [List.length_cons, left]

end Quoted

namespace Numeral

theorem kind_of_value? {numeral : Numeral} {kind : Kind} {value : Literal}
    (found : numeral.value? = some (kind, value)) : kind = value.kind := by
  unfold value? at found
  split at found
  · dsimp only at found
    split at found
    · cases found
    · split at found
      · obtain ⟨rfl, rfl⟩ := Prod.mk.inj (Option.some.inj found)
        rfl
      · obtain ⟨rfl, rfl⟩ := Prod.mk.inj (Option.some.inj found)
        rfl
  · obtain ⟨bits, -, same⟩ := Option.map_eq_some_iff.mp found
    obtain ⟨rfl, rfl⟩ := Prod.mk.inj same
    rfl
  · obtain ⟨bits, -, same⟩ := Option.map_eq_some_iff.mp found
    obtain ⟨rfl, rfl⟩ := Prod.mk.inj same
    rfl

theorem kind_of_scan {text : List Char} {kind : Kind} {value : Literal} {size : Nat}
    (scanned : scan text = (.ok (kind, value), size)) : kind = value.kind := by
  unfold scan at scanned
  dsimp only at scanned
  split at scanned
  · simp at scanned
  · split at scanned
    · next result found =>
      obtain ⟨rfl, -⟩ : result = (kind, value) ∧ _ := by simpa using scanned
      exact kind_of_value? found
    · simp at scanned

theorem isRecoverable_of_scan {text : List Char} {cause : Cause} {size : Nat}
    (scanned : scan text = (.error cause, size)) : cause.isRecoverable = true := by
  unfold scan at scanned
  dsimp only at scanned
  split at scanned
  · obtain ⟨rfl, -⟩ : Cause.malformedNumber = cause ∧ _ := by simpa using scanned
    rfl
  · split at scanned
    · simp at scanned
    · obtain ⟨rfl, -⟩ : Cause.numberOutOfRange = cause ∧ _ := by simpa using scanned
      rfl

end Numeral

namespace Lexeme

/-! ## Ways of reading -/

def StartsNumber (c : Char) (rest : List Char) : Prop :=
  c.isDigit = true ∨ (c = '.' ∧ rest.head?.any Char.isDigit = true)

/-- The text `c :: rest` begins with an operator, if with anything. -/
structure StartsSymbol (c : Char) (rest : List Char) : Prop where
  comment : c = '/' → rest.head? ≠ some '/' ∧ rest.head? ≠ some '*'
  quote : c ≠ '"' ∧ c ≠ '\''
  number : ¬ StartsNumber c rest
  word : isIdentifierStart c = false

inductive ReadAs : Char → List Char → Lexeme → Prop where
  | lineComment (text : List Char) : ReadAs '/' ('/' :: text) (lineComment text)
  | blockComment (text : List Char) : ReadAs '/' ('*' :: text) (blockComment text)
  | string (text : List Char) : ReadAs '"' text (string text)
  | character (text : List Char) : ReadAs '\'' text (character text)
  | number {c : Char} {rest : List Char} : StartsNumber c rest → ReadAs c rest (number (c :: rest))
  | word {c : Char} (rest : List Char) : isIdentifierStart c = true → ReadAs c rest (word rest)
  | symbol {c : Char} {rest : List Char} : StartsSymbol c rest → ReadAs c rest (symbol c rest)

theorem readAs_read (c : Char) (rest : List Char) : ReadAs c rest (read c rest) := by
  unfold read
  split
  · next slashes =>
    obtain ⟨slash, starts⟩ := Bool.and_eq_true_iff.mp slashes
    obtain ⟨text, rfl⟩ := List.head?_eq_some_iff.mp (eq_of_beq starts)
    obtain rfl := eq_of_beq slash
    exact .lineComment text
  next oneSlash =>
  split
  · next opening =>
    obtain ⟨slash, starts⟩ := Bool.and_eq_true_iff.mp opening
    obtain ⟨text, rfl⟩ := List.head?_eq_some_iff.mp (eq_of_beq starts)
    obtain rfl := eq_of_beq slash
    exact .blockComment text
  next unopened =>
  split
  · next quote =>
    obtain rfl := eq_of_beq quote
    exact .string rest
  next double =>
  split
  · next quote =>
    obtain rfl := eq_of_beq quote
    exact .character rest
  next single =>
  split
  · next start =>
    refine .number ?_
    simpa [StartsNumber] using start
  next other =>
  split
  · next start => exact .word rest start
  · next start =>
    refine .symbol ⟨?_, ⟨by simpa using double, by simpa using single⟩, ?_, by simpa using start⟩
    · rintro rfl
      exact ⟨by simpa using oneSlash, by simpa using unopened⟩
    · simpa [StartsNumber] using other

theorem isIdentifierStart_of_isDigit {c : Char} (digit : c.isDigit = true) :
    isIdentifierStart c = false := by
  have digits : ∀ code < 58, 48 ≤ code → isIdentifierStart (Char.ofNat code) = false := by decide
  simp only [Char.isDigit, Bool.and_eq_true, decide_eq_true_eq] at digit
  have lower : 48 ≤ c.toNat := digit.1
  have upper : c.toNat ≤ 57 := digit.2
  rw [← Char.ofNat_toNat c]
  exact digits c.toNat (by omega) lower

theorem StartsNumber.ne {c d : Char} {rest : List Char} (start : StartsNumber c rest)
    (other : d.isDigit = false) (point : d ≠ '.') : (c == d) = false := by
  apply beq_false_of_ne
  rintro rfl
  rcases start with digit | ⟨same, -⟩
  · exact absurd (digit.symm.trans other) (by decide)
  · exact point same

theorem ne_of_isIdentifierStart {c d : Char} (start : isIdentifierStart c = true)
    (other : isIdentifierStart d = false) : (c == d) = false := by
  apply beq_false_of_ne
  rintro rfl
  exact absurd (start.symm.trans other) (by decide)

/-- There is only one way to read. -/
theorem ReadAs.read_eq {c : Char} {rest : List Char} {lexeme : Lexeme}
    (reads : ReadAs c rest lexeme) : read c rest = lexeme := by
  cases reads with
  | lineComment | blockComment | string | character => simp [read]
  | number start =>
      have slash : (c == '/') = false := start.ne (by decide) (by decide)
      have double : (c == '"') = false := start.ne (by decide) (by decide)
      have single : (c == '\'') = false := start.ne (by decide) (by decide)
      have number : (c.isDigit || (c == '.' && rest.head?.any Char.isDigit)) = true := by
        simpa [StartsNumber] using start
      simp [read, slash, double, single, number]
  | word _ start =>
      have slash : (c == '/') = false := ne_of_isIdentifierStart start (by decide)
      have double : (c == '"') = false := ne_of_isIdentifierStart start (by decide)
      have single : (c == '\'') = false := ne_of_isIdentifierStart start (by decide)
      have point : (c == '.') = false := ne_of_isIdentifierStart start (by decide)
      have digit : c.isDigit = false := by
        apply Bool.eq_false_iff.mpr
        intro digit
        rw [isIdentifierStart_of_isDigit digit] at start
        cases start
      simp [read, slash, double, single, point, digit, start]
  | symbol start =>
      have comment : ∀ d, d = '/' ∨ d = '*' →
          (c == '/' && rest.head? == some d) = false := by
        intro d mark
        apply Bool.eq_false_iff.mpr
        intro opening
        obtain ⟨slash, starts⟩ := Bool.and_eq_true_iff.mp opening
        obtain ⟨line, block⟩ := start.comment (eq_of_beq slash)
        rcases mark with rfl | rfl
        · exact line (eq_of_beq starts)
        · exact block (eq_of_beq starts)
      have number : (c.isDigit || (c == '.' && rest.head?.any Char.isDigit)) = false := by
        simpa [StartsNumber] using start.number
      simp [read, comment, number, start.quote.1, start.quote.2, start.word]

/-! ## Outcomes -/

/-- What a lexeme says about the text: a token is a literal, or the operator that the text begins
with; a word takes all characters of an identifier; a lexeme without a token has faults, and one
with a fault that ends the scan takes the whole text. -/
inductive Sound (text : List Char) : Lexeme → Prop where
  | literal (value : Literal) (size : Nat) : Sound text ⟨.token value.kind (some value), size⟩
  | operator {symbol : Operator} : text.take symbol.size = symbol.chars →
      Sound text ⟨.token (.operator symbol) none, symbol.size⟩
  | word {c : Char} {rest : List Char} : text = c :: rest → isIdentifierStart c = true →
      Sound text (word rest)
  | comment (style : CommentStyle) (size : Nat) : Sound text ⟨.comment style, size⟩
  | faulty {faults : List Fault} {size : Nat} : faults ≠ [] →
      (∀ fault ∈ faults, fault.recoverable = false → size = text.length) →
      Sound text ⟨.faulty faults, size⟩

theorem Sound.recoverable {text : List Char} {cause : Cause}
    (usual : cause.isRecoverable = true) (index size : Nat) :
    Sound text ⟨.faulty [.of cause index], size⟩ := by
  refine .faulty (List.cons_ne_nil _ _) fun fault member fatal => ?_
  obtain rfl := List.mem_singleton.mp member
  exact absurd (usual.symm.trans fatal) (by decide)

theorem sound_blockComment (text : List Char) : Sound ('/' :: '*' :: text) (blockComment text) := by
  unfold blockComment
  split
  · exact .comment _ _
  · exact .faulty (List.cons_ne_nil _ _) fun _ _ _ => rfl

theorem sound_string (text : List Char) : Sound ('"' :: text) (string text) := by
  unfold string
  extract_lets body faults outcome
  have illegal : ∀ fault ∈ faults, fault.recoverable = true := by
    intro fault member
    obtain ⟨⟨index, c⟩, -, rfl⟩ := List.mem_map.mp member
    rfl
  unfold outcome
  split
  · exact .literal (.string _) _
  · next some =>
    refine .faulty some fun fault member fatal => ?_
    exact absurd ((illegal fault member).symm.trans fatal) (by decide)
  · refine .faulty (List.cons_ne_nil _ _) fun fault member fatal => ?_
    rcases List.mem_cons.mp member with rfl | later
    · cases fatal
    · exact absurd ((illegal fault later).symm.trans fatal) (by decide)
  · next stop =>
    exact .faulty (List.cons_ne_nil _ _) fun _ _ _ => by
      rw [Quoted.size_body_of_inputEnd 1 text stop, List.length_cons]

theorem sound_character (text : List Char) : Sound ('\'' :: text) (character text) := by
  unfold character
  split
  dsimp only
  split
  · exact .literal (.char _) _
  · exact .recoverable rfl _ _
  · exact .recoverable rfl _ _

theorem sound_number (text : List Char) : Sound text (number text) := by
  unfold number
  split
  next result size scanned =>
  split
  · next kind value =>
    rw [Numeral.kind_of_scan scanned]
    exact .literal value _
  · next cause => exact .recoverable (Numeral.isRecoverable_of_scan scanned) _ _

theorem sound_symbol (c : Char) (rest : List Char) : Sound (c :: rest) (symbol c rest) := by
  unfold symbol
  split
  · next found => exact .operator (Operator.take_of_longest? found)
  · exact .recoverable rfl _ _

theorem ReadAs.sound {c : Char} {rest : List Char} {lexeme : Lexeme}
    (reads : ReadAs c rest lexeme) : Sound (c :: rest) lexeme := by
  cases reads with
  | lineComment text => exact .comment _ _
  | blockComment text => exact sound_blockComment text
  | string text => exact sound_string rest
  | character text => exact sound_character rest
  | number => exact sound_number _
  | word _ start => exact .word rfl start
  | symbol => exact sound_symbol c rest

theorem ReadAs.isLiteral_or_isOperator {c : Char} {rest : List Char} {lexeme : Lexeme}
    (reads : ReadAs c rest lexeme) {kind : Kind} {value : Option Literal}
    (outcome : lexeme.outcome = .token kind value) :
    kind.isLiteral = true ∨ kind.isOperator = true := by
  cases reads.sound with
  | literal literal =>
      obtain ⟨rfl, -⟩ := Outcome.token.inj outcome
      exact .inl literal.isLiteral_kind
  | operator =>
      obtain ⟨rfl, -⟩ := Outcome.token.inj outcome
      exact .inr rfl
  | word | comment | faulty => cases outcome

end Lexeme

end JavaLex
