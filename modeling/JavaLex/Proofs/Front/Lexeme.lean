import JavaLex.Proofs.Front.Quoted

/-! # Tokens stand alone

A token reads the same wherever a blank or the end of the text follows it, and its text translates
to itself. `standsAlone_read` says so for every lexeme that is a token or a word; comments and
faulty lexemes have no such property.
-/

namespace JavaLex

open Charset

/-! ## What follows a token -/

/-- The text ends, or a blank separates it from what came before. -/
def Apart (after : List Char) : Prop :=
  after.head? = none ∨ after.head? = some ' '

theorem SameFront.of_take {size : Nat} {text after : List Char} (bound : size ≤ text.length)
    (apart : Apart after) : SameFront size text (text.take size ++ after) where
  take := List.take_left' (List.length_take_of_le bound)
  next := by
    have length : (text.take size).length = size := List.length_take_of_le bound
    rw [List.getElem?_append_right (Nat.le_of_eq length), length, Nat.sub_self,
      ← List.head?_eq_getElem?]
    exact .inr apart

/-! ## Operators -/

theorem prefix_append_cons_iff {α : Type} {list text more : List α} {a : α} (other : a ∉ list) :
    list <+: text ++ a :: more ↔ list <+: text := by
  induction text generalizing list with
  | nil =>
      cases list with
      | nil => simp
      | cons b list =>
          simp only [List.nil_append, List.cons_prefix_cons, List.prefix_nil, reduceCtorEq,
            iff_false]
          rintro ⟨rfl, -⟩
          exact other List.mem_cons_self
  | cons b text ih =>
      cases list with
      | nil => simp
      | cons c list =>
          rw [List.cons_append, List.cons_prefix_cons, List.cons_prefix_cons,
            ih fun member => other (List.mem_cons_of_mem c member)]

namespace Operator

theorem ofChars?_chars (operator : Operator) : ofChars? operator.chars = some operator := by
  cases operator <;> decide

theorem blank_not_mem_chars (operator : Operator) : ' ' ∉ operator.chars := by
  cases operator <;> decide

theorem backslash_not_mem_chars (operator : Operator) : '\\' ∉ operator.chars := by
  cases operator <;> decide

theorem ofChars?_eq_some_iff {text : List Char} {operator : Operator} :
    ofChars? text = some operator ↔ operator.chars = text := by
  constructor
  · exact chars_of_ofChars?
  · rintro rfl
    exact ofChars?_chars operator

/-- An operator at the front of a text is found when its size is tried. -/
theorem ofChars?_take {operator : Operator} {text : List Char} (starts : operator.chars <+: text) :
    ofChars? (text.take operator.size) = some operator :=
  ofChars?_eq_some_iff.mpr (List.prefix_iff_eq_take.mp starts)

theorem size_mem_sizes (operator : Operator) : operator.size ∈ [4, 3, 2, 1] := by
  cases operator <;> decide

/-- With sizes tried in descending order, what is found is the longest. -/
theorem size_le_of_findSome? {sizes : List Nat} {text : List Char} {found other : Operator}
    (descending : sizes.Pairwise (· > ·))
    (searched : (sizes.findSome? fun size => ofChars? (text.take size)) = some found)
    (starts : other.chars <+: text) (member : other.size ∈ sizes) : other.size ≤ found.size := by
  induction sizes with
  | nil => cases member
  | cons size sizes ih =>
      obtain ⟨largest, later⟩ := List.pairwise_cons.mp descending
      rw [List.findSome?_cons] at searched
      cases first : ofChars? (text.take size) with
      | some operator =>
          rw [first] at searched
          obtain rfl := Option.some.inj searched
          have bound : other.size ≤ size := by
            rcases List.mem_cons.mp member with same | smaller
            · exact Nat.le_of_eq same
            · exact Nat.le_of_lt (largest _ smaller)
          rw [Operator.size, Operator.size, chars_of_ofChars? first, List.length_take]
          exact Nat.le_min.mpr ⟨bound, starts.length_le⟩
      | none =>
          rw [first] at searched
          rcases List.mem_cons.mp member with rfl | smaller
          · cases first.symm.trans (ofChars?_take starts)
          · exact ih later searched smaller

/-- The operator found is the longest one that the text begins with. -/
theorem longest?_eq_some_iff {text : List Char} {operator : Operator} :
    longest? text = some operator ↔ operator.chars <+: text ∧
      ∀ other : Operator, other.chars <+: text → other.size ≤ operator.size := by
  have longest : ∀ {found : Operator}, longest? text = some found → found.chars <+: text ∧
      ∀ other : Operator, other.chars <+: text → other.size ≤ found.size := by
    intro found searched
    exact ⟨take_of_longest? searched ▸ List.take_prefix _ _, fun other starts =>
      size_le_of_findSome? (by decide) searched starts other.size_mem_sizes⟩
  refine ⟨longest, fun ⟨starts, greatest⟩ => ?_⟩
  have some : (longest? text).isSome := List.findSome?_isSome_iff.mpr
    ⟨operator.size, operator.size_mem_sizes, by rw [ofChars?_take starts]; rfl⟩
  obtain ⟨found, searched⟩ := Option.isSome_iff_exists.mp some
  obtain ⟨begins, maximal⟩ := longest searched
  have size : found.size = operator.size :=
    Nat.le_antisymm (greatest found begins) (maximal operator starts)
  have same := ofChars?_take begins
  rw [size, ofChars?_take starts] at same
  rw [searched, same]

theorem lineFeed_not_mem_chars (operator : Operator) : '\n' ∉ operator.chars := by
  cases operator <;> decide

theorem stopsAtLine_longest? : StopsAtLine longest? := by
  intro text more
  apply Option.ext
  intro operator
  rw [longest?_eq_some_iff, longest?_eq_some_iff]
  simp only [prefix_append_cons_iff (lineFeed_not_mem_chars _)]

/-- A longer match would take the blank along, which no operator has. -/
theorem longest?_append (operator : Operator) {after : List Char} (apart : Apart after) :
    longest? (operator.chars ++ after) = some operator := by
  refine longest?_eq_some_iff.mpr ⟨List.prefix_append _ _, fun other starts => ?_⟩
  rcases apart with ends | blank
  · obtain rfl : after = [] := List.head?_eq_none_iff.mp ends
    rw [List.append_nil] at starts
    exact starts.length_le
  · obtain ⟨rest, rfl⟩ := List.head?_eq_some_iff.mp blank
    exact ((prefix_append_cons_iff other.blank_not_mem_chars).mp starts).length_le

end Operator

/-! ## Lexemes -/

def Outcome.isToken : Outcome → Bool
  | .token _ _ => true
  | .word => true
  | _ => false

namespace Lexeme

def separators : List Char :=
  [' ', '\t', '\x0c', '\n', '\r', '\x1a']

/-- A character of a class without separators separates no tokens. -/
theorem start_of_refuses {p : Char → Bool} (refuses : separators.any p = false) {c : Char}
    (holds : p c = true) : isBlank c = false ∧ c ≠ substitute := by
  have other : c ∉ separators := by
    intro member
    have found : separators.any p = true := List.any_eq_true.mpr ⟨c, member, holds⟩
    rw [refuses] at found
    cases found
  simp only [separators, List.mem_cons, List.not_mem_nil, or_false, not_or] at other
  simp [isBlank, isLineTerminator, substitute, other]

/-- What is taken of `rest` after `c` reads as the lexeme whatever stands apart from it. -/
structure StandsAlone (c : Char) (rest : List Char) (lexeme : Lexeme) (taken : Nat) : Prop where
  size : lexeme.size = taken + 1
  within : taken ≤ rest.length
  start : isBlank c = false ∧ c ≠ substitute
  inert : Inert (c :: rest.take taken)
  reads : ∀ after, Apart after → read c (rest.take taken ++ after) = lexeme

theorem standsAlone_string {text : List Char} (token : (string text).outcome.isToken = true) :
    ∃ taken, StandsAlone '"' text (string text) taken := by
  have closed : (Quoted.body 1 text).stop = .quote ∧ (Quoted.body 1 text).illegal = [] := by
    unfold string at token
    dsimp only at token
    split at token
    · next closed legal => exact ⟨closed, List.map_eq_nil_iff.mp legal⟩
    all_goals cases token
  obtain ⟨closed, legal⟩ := closed
  have within := Quoted.size_body_le 1 text
  refine ⟨(Quoted.body 1 text).size, rfl, within, by decide,
    .plain (by decide) (Quoted.inert_body closed legal), fun after apart => ?_⟩
  have same := Quoted.body_of_sameFront closed legal (.of_take within apart)
  rw [(ReadAs.string _).read_eq]
  unfold string
  rw [same]

theorem standsAlone_character {text : List Char}
    (token : (character text).outcome.isToken = true) :
    ∃ taken, StandsAlone '\'' text (character text) taken := by
  have read : ∃ value size, Quoted.character text = (.ok value, size) := by
    unfold character at token
    split at token
    next result size found =>
    dsimp only at token
    split at token
    · next value => exact ⟨value, size, found⟩
    all_goals cases token
  obtain ⟨value, size, read⟩ := read
  have holds := Quoted.character_eq_ok_iff.mp read
  refine ⟨size, ?_, holds.size_le, by decide, .plain (by decide) holds.inert,
    fun after apart => ?_⟩
  · simp [character, read]
  · have again := holds.of_sameFront (.of_take holds.size_le apart)
    rw [(ReadAs.character _).read_eq]
    simp [character, read, Quoted.character_eq_ok_iff.mpr again]

theorem standsAlone_word {c : Char} (rest : List Char) (start : isIdentifierStart c = true) :
    ∃ taken, StandsAlone c rest (word rest) taken := by
  have starts := List.takeWhile_prefix (l := rest) isIdentifierPart
  have plain : '\\' ∉ c :: rest.takeWhile isIdentifierPart := by
    intro member
    rcases List.mem_cons.mp member with same | part
    · rw [← same] at start
      exact absurd start (by decide)
    · have part := List.all_eq_true.mp List.all_takeWhile _ part
      exact absurd part (by decide)
  refine ⟨(rest.takeWhile isIdentifierPart).length, rfl, starts.length_le,
    start_of_refuses (by decide) start, .of_not_mem ?_, fun after apart => ?_⟩
  · rwa [← List.prefix_iff_eq_take.mp starts]
  · have same := SameFront.of_take starts.length_le apart
    rw [(ReadAs.word _ start).read_eq, word, word,
      same.takeWhile Numeral.isIdentifierPart_blank]

theorem exists_scan_of_isToken {text : List Char}
    (token : (number text).outcome.isToken = true) :
    ∃ result size, Numeral.scan text = (.ok result, size) := by
  unfold number at token
  split at token
  next result size found =>
  split at token
  · exact ⟨_, size, found⟩
  · cases token

/-- What a number takes after its first character begins a number again. -/
theorem StartsNumber.take_append {c : Char} {rest : List Char} (start : StartsNumber c rest)
    {taken : Nat} (size : (Numeral.read (c :: rest)).size = taken + 1) (after : List Char) :
    StartsNumber c (rest.take taken ++ after) := by
  rcases start with digit | ⟨rfl, fraction⟩
  · exact .inl digit
  · obtain ⟨d, head, digit⟩ := (Option.any_eq_true _ _).mp fraction
    obtain ⟨rest, rfl⟩ := List.head?_eq_some_iff.mp head
    have both := Numeral.two_le_size_read digit rest
    rw [size] at both
    have positive : 0 < taken := Nat.le_of_succ_le_succ both
    obtain ⟨fewer, rfl⟩ := Nat.exists_eq_add_one_of_ne_zero (Nat.ne_of_gt positive)
    exact .inr ⟨rfl, by simpa using digit⟩

theorem standsAlone_number {c : Char} {rest : List Char} (start : StartsNumber c rest)
    (token : (number (c :: rest)).outcome.isToken = true) :
    ∃ taken, StandsAlone c rest (number (c :: rest)) taken := by
  obtain ⟨result, size, scanned⟩ := exists_scan_of_isToken token
  obtain ⟨-, -, -, rfl⟩ := Numeral.read_of_scan scanned
  have lexeme : number (c :: rest) =
      ⟨.token result.1 (some result.2), (Numeral.read (c :: rest)).size⟩ := by
    simp [number, scanned]
  have positive : 0 < (Numeral.read (c :: rest)).size :=
    Numeral.size_read_pos (start.imp id And.left)
  obtain ⟨taken, size⟩ := Nat.exists_eq_add_one_of_ne_zero (Nat.ne_of_gt positive)
  have within := Numeral.regular_read.size_le (c :: rest)
  have plain := Numeral.regular_read.backslash (c :: rest)
  have begins : (c.isDigit || c == '.') = true := by
    rcases start with digit | ⟨rfl, -⟩
    · simp [digit]
    · rfl
  rw [size] at scanned lexeme within plain
  rw [lexeme]
  refine ⟨taken, rfl, Nat.le_of_succ_le_succ within,
    start_of_refuses (p := fun c => c.isDigit || c == '.') (by decide) begins, .of_not_mem plain,
    fun after apart => ?_⟩
  have same := SameFront.of_take within apart
  rw [List.take_succ_cons, List.cons_append] at same
  rw [(ReadAs.number (start.take_append size after)).read_eq]
  simp [number, Numeral.scan_of_sameFront scanned same]

/-- What follows the first character of a symbol may be replaced by what continues none. -/
theorem StartsSymbol.of_head? {c : Char} {rest other : List Char} (start : StartsSymbol c rest)
    (head : ∀ d, other.head? = some d →
      rest.head? = some d ∨ (d ≠ '/' ∧ d ≠ '*' ∧ d.isDigit = false)) :
    StartsSymbol c other where
  comment slash := by
    obtain ⟨line, block⟩ := start.comment slash
    constructor
    · intro found
      rcases head _ found with same | ⟨neither, -, -⟩
      · exact line same
      · exact neither rfl
    · intro found
      rcases head _ found with same | ⟨-, neither, -⟩
      · exact block same
      · exact neither rfl
  quote := start.quote
  number begins := by
    rcases begins with digit | ⟨point, fraction⟩
    · exact start.number (.inl digit)
    obtain ⟨d, found, digit⟩ := (Option.any_eq_true _ _).mp fraction
    rcases head d found with same | ⟨-, -, none⟩
    · exact start.number (.inr ⟨point, (Option.any_eq_true _ _).mpr ⟨d, same, digit⟩⟩)
    · exact absurd (digit.symm.trans none) (by decide)
  word := start.word

theorem standsAlone_symbol {c : Char} {rest : List Char} (start : StartsSymbol c rest)
    (token : (symbol c rest).outcome.isToken = true) :
    ∃ taken, StandsAlone c rest (symbol c rest) taken := by
  have matched : ∃ operator, Operator.longest? (c :: rest) = some operator := by
    unfold symbol at token
    split at token
    · next operator found => exact ⟨operator, found⟩
    · cases token
  obtain ⟨operator, found⟩ := matched
  have front := Operator.take_of_longest? found
  obtain ⟨taken, size⟩ := Nat.exists_eq_add_one_of_ne_zero (Nat.ne_of_gt operator.size_pos)
  have lexeme : symbol c rest = ⟨.token (.operator operator) none, taken + 1⟩ := by
    simp [symbol, found, size]
  have within : taken ≤ rest.length := by
    have length := congrArg List.length front
    rw [← Operator.size, size, List.length_take, List.length_cons] at length
    omega
  rw [size, List.take_succ_cons] at front
  rw [lexeme]
  refine ⟨taken, rfl, within, start_of_refuses (p := Operator.isStart) (by decide) ?_,
    .of_not_mem ?_, fun after apart => ?_⟩
  · rw [Operator.isStart, List.any_eq_true]
    exact ⟨operator, operator.mem_all, by rw [← front]; simp⟩
  · rw [front]
    exact operator.backslash_not_mem_chars
  · have again := operator.longest?_append apart
    rw [← front, List.cons_append] at again
    have begins : StartsSymbol c (rest.take taken ++ after) := by
      apply start.of_head?
      intro d found
      rcases (SameFront.of_take within apart).head with same | ends | blank
      · exact .inl (same.symm.trans found)
      · cases ends.symm.trans found
      · obtain rfl : ' ' = d := Option.some.inj (blank.symm.trans found)
        exact .inr (by decide)
    rw [(ReadAs.symbol begins).read_eq]
    simp [symbol, again, size]

/-- Every token and every word stands alone. -/
theorem standsAlone_read {c : Char} {rest : List Char}
    (token : (read c rest).outcome.isToken = true) :
    ∃ taken, StandsAlone c rest (read c rest) taken := by
  have reads := readAs_read c rest
  generalize read c rest = lexeme at reads token
  cases reads with
  | lineComment => cases token
  | blockComment text =>
      unfold blockComment at token
      split at token <;> cases token
  | string => exact standsAlone_string token
  | character => exact standsAlone_character token
  | number start => exact standsAlone_number start token
  | word _ start => exact standsAlone_word rest start
  | symbol start => exact standsAlone_symbol start token

end Lexeme

end JavaLex
