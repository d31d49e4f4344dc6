import JavaLex.Literal.Accumulate
import JavaLex.Proofs.Literal.Digits
import JavaLex.Proofs.Literal.Number
import JavaLex.Proofs.Literal.Window

/-! # Integer literals

An integer literal has the number of its digits as its value, as far as its type holds it. Putting
the digits together in a word of 64 bits gives the same, since a number that leaves the word on the
way is above every limit. Underscores change nothing, and digits without a mark that begin with a
zero are octal or nothing at all.
-/

namespace JavaLex

open Charset Grammar

/-! ## Words -/

theorem Word.multiply?_of_lt {width : Nat} {left right : BitVec width}
    (fits : left.toNat * right.toNat < 2 ^ width) :
    ∃ product, multiply? left right = some product ∧
      product.toNat = left.toNat * right.toNat :=
  ⟨left * right, if_pos fits, BitVec.toNat_mul_of_lt fits⟩

namespace Numeral

def fitted (number : Nat) : Except Cause (BitVec 64) :=
  if number < 2 ^ 64 then .ok (BitVec.ofNat 64 number) else .error .numberOutOfRange

theorem fitted_toNat (word : BitVec 64) : fitted word.toNat = .ok word := by
  rw [fitted, if_pos word.isLt, BitVec.ofNat_toNat, BitVec.setWidth_eq]

theorem fitted_of_le {number : Nat} (large : 2 ^ 64 ≤ number) :
    fitted number = .error .numberOutOfRange :=
  if_neg (Nat.not_lt.mpr large)

variable {radix : Nat}

theorem pushDigit_eq (positive : 0 < radix) (small : radix < 2 ^ 64) {c : Char}
    (digit : isDigitOf radix c = true) (word : BitVec 64) :
    pushDigit radix word c = fitted (word.toNat * radix + (digit? radix c).getD 0) := by
  obtain ⟨value, found⟩ := Option.isSome_iff_exists.mp digit
  have below : value < 2 ^ 64 := by
    have bound := getD_digit?_lt positive c
    rw [found] at bound
    exact Nat.lt_trans bound small
  have radix_eq : (BitVec.ofNat 64 radix).toNat = radix := Nat.mod_eq_of_lt small
  have value_eq : (BitVec.ofNat 64 value).toNat = value := Nat.mod_eq_of_lt below
  rw [found, Option.getD_some]
  unfold pushDigit
  simp only [found]
  by_cases room : word.toNat * radix < 2 ^ 64
  · have product : word.toNat * (BitVec.ofNat 64 radix).toNat < 2 ^ 64 := by rwa [radix_eq]
    obtain ⟨shifted, multiplied, shifted_eq⟩ := Word.multiply?_of_lt product
    rw [radix_eq] at shifted_eq
    simp only [multiplied]
    by_cases fits : word.toNat * radix + value < 2 ^ 64
    · have total : shifted.toNat + (BitVec.ofNat 64 value).toNat < 2 ^ 64 := by
        rwa [shifted_eq, value_eq]
      obtain ⟨sum, added, sum_eq⟩ := Word.add?_of_lt total
      simp only [added]
      rw [← shifted_eq, ← value_eq, ← sum_eq, fitted_toNat]
      rfl
    · have outside : Word.add? shifted (BitVec.ofNat 64 value) = none := by
        rw [Word.add?, if_neg (by rwa [shifted_eq, value_eq])]
      simp only [outside]
      rw [fitted_of_le (by omega)]
      rfl
  · have outside : Word.multiply? word (BitVec.ofNat 64 radix) = none := by
      rw [Word.multiply?, if_neg (by rwa [radix_eq])]
    simp only [outside]
    rw [fitted_of_le (by omega)]
    rfl

/-- Digits are put together unless the number leaves the word, where it ends above every limit. -/
theorem foldlM_pushDigit (positive : 0 < radix) (small : radix < 2 ^ 64) {digits : List Char}
    (all : digits.all (isDigitOf radix) = true) (word : BitVec 64) :
    digits.foldlM (pushDigit radix) word =
      fitted (word.toNat * radix ^ digits.length + valueOf radix digits) := by
  induction digits generalizing word with
  | nil =>
      rw [List.length_nil, pow_zero, Nat.mul_one, valueOf_nil, Nat.add_zero, fitted_toNat]
      rfl
  | cons c digits ih =>
      rw [List.all_cons, Bool.and_eq_true] at all
      have whole : word.toNat * radix ^ (c :: digits).length + valueOf radix (c :: digits) =
          (word.toNat * radix + (digit? radix c).getD 0) * radix ^ digits.length +
            valueOf radix digits := by
        rw [valueOf_cons, List.length_cons, pow_succ]
        ring
      rw [List.foldlM_cons, pushDigit_eq positive small all.1, whole]
      by_cases fits : word.toNat * radix + (digit? radix c).getD 0 < 2 ^ 64
      · rw [fitted, if_pos fits]
        change digits.foldlM (pushDigit radix) _ = _
        rw [ih all.2, BitVec.toNat_ofNat, Nat.mod_eq_of_lt fits]
      · have grows := Nat.le_mul_of_pos_right
          (word.toNat * radix + (digit? radix c).getD 0) (Nat.pow_pos (n := digits.length) positive)
        rw [fitted_of_le (by omega), fitted_of_le (by omega)]
        rfl

theorem integerLimit_lt (radix : Nat) (long : Bool) : integerLimit radix long < 2 ^ 64 := by
  unfold integerLimit
  split <;> decide

/-- Putting digits together in a word gives the value of their number. -/
theorem integerInWords_eq (positive : 0 < radix) (small : radix < 2 ^ 64) {digits : List Char}
    (all : digits.all (isDigitOf radix) = true) (long : Bool) :
    integerInWords radix digits long = (Numeral.integer radix digits long).result := by
  have limit := integerLimit_lt radix long
  have folded := foldlM_pushDigit positive small all 0
  rw [show (0 : BitVec 64).toNat = 0 from rfl, Nat.zero_mul, Nat.zero_add] at folded
  unfold integerInWords
  rw [folded, result, value?]
  by_cases fits : valueOf radix digits < 2 ^ 64
  · have above : BitVec.ofNat 64 (integerLimit radix long) < BitVec.ofNat 64 (valueOf radix digits) ↔
        integerLimit radix long < valueOf radix digits := by
      rw [BitVec.lt_def, BitVec.toNat_ofNat, BitVec.toNat_ofNat, Nat.mod_eq_of_lt limit,
        Nat.mod_eq_of_lt fits]
    have narrow : (BitVec.ofNat 64 (valueOf radix digits)).setWidth 32 =
        BitVec.ofNat 32 (valueOf radix digits) := BitVec.setWidth_ofNat_of_le (by decide) _
    rw [fitted, if_pos fits]
    change (if _ then _ else if _ then _ else _) = _
    rw [narrow]
    by_cases outOfRange : integerLimit radix long < valueOf radix digits
    · rw [if_pos (above.mpr outOfRange), if_pos outOfRange]
      rfl
    · rw [if_neg (mt above.mp outOfRange), if_neg outOfRange]
      cases long <;> rfl
  · rw [fitted_of_le (by omega), if_pos (by omega)]
    rfl

end Numeral

/-! ## Underscores -/

namespace Grammar

namespace Group

variable {radix : Nat} (group : Group radix)

def plain : Group radix :=
  .ofDigits group.digits group.all_digits group.digits_ne_nil

theorem digits_plain : group.plain.digits = group.digits :=
  digits_ofDigits group.all_digits group.digits_ne_nil

theorem leadsWithZero_plain : group.plain.LeadsWithZero ↔ group.LeadsWithZero := by
  rw [LeadsWithZero, LeadsWithZero, digits_plain]

end Group

def IntegerDigits.plain : IntegerDigits → IntegerDigits
  | decimal group unmarked => .decimal group.plain (mt group.leadsWithZero_plain.mp unmarked)
  | octal group marked => .octal group.plain (group.leadsWithZero_plain.mpr marked)
  | hexadecimal mark group => .hexadecimal mark group.plain
  | binary mark group => .binary mark group.plain

theorem filter_letter {letters : List Char} (others : '_' ∉ letters) (letter : Letter letters)
    (text : List Char) :
    (letter.val :: text).filter (· != '_') = letter.val :: text.filter (· != '_') := by
  rw [List.filter_cons_of_pos]
  simpa using ne_of_mem_of_not_mem letter.property others

theorem IntegerDigits.text_plain (digits : IntegerDigits) :
    digits.plain.text = digits.text.filter (· != '_') := by
  have zero : isDigitOf 8 '0' = true := rfl
  cases digits with
  | decimal group _ => rfl
  | octal group _ => rfl
  | hexadecimal mark group =>
      rw [plain, text, text, filter_cons zero, filter_letter (by decide)]
      rfl
  | binary mark group =>
      rw [plain, text, text, filter_cons zero, filter_letter (by decide)]
      rfl

namespace Integer

variable (literal : Integer)

def plain : Integer :=
  ⟨literal.digits.plain, literal.suffix⟩

theorem text_plain : literal.plain.text = literal.text.filter (· != '_') := by
  have suffix : (spelling literal.suffix).filter (· != '_') = spelling literal.suffix := by
    cases literal.suffix with
    | none => rfl
    | some letter => exact filter_letter (by decide) letter []
  rw [text, text, List.filter_append, suffix, plain, IntegerDigits.text_plain]

theorem numeral_plain : literal.plain.numeral = literal.numeral := by
  obtain ⟨digits, suffix⟩ := literal
  cases digits <;>
    simp [numeral, plain, IntegerDigits.plain, IntegerDigits.radix, IntegerDigits.digits,
      Group.digits_plain]

theorem ends_plain {rest : List Char} (ends : (Number.integer literal).Ends rest) :
    (Number.integer literal.plain).Ends rest := by
  refine ⟨ends.word, fun takesPoint => ends.point ?_⟩
  obtain ⟨digits, suffix⟩ := literal
  cases digits <;> exact takesPoint

def magnitude : Nat :=
  valueOf literal.digits.radix literal.digits.digits

/-- A decimal literal denotes at most one more than the greatest value of its type, any other one
at most the number that has every bit set. -/
def InRange : Prop :=
  literal.magnitude ≤
    if literal.digits.radix = 10 then
      if literal.suffix.isSome then 2 ^ 63 else 2 ^ 31
    else
      if literal.suffix.isSome then 2 ^ 64 - 1 else 2 ^ 32 - 1

instance instDecidableInRange : Decidable literal.InRange :=
  inferInstanceAs (Decidable (_ ≤ _))

def value : Kind × Literal :=
  if literal.suffix.isSome then (.longLiteral, .long (BitVec.ofNat 64 literal.magnitude))
  else (.intLiteral, .int (BitVec.ofNat 32 literal.magnitude))

theorem inRange_iff :
    literal.InRange ↔
      literal.magnitude ≤ Numeral.integerLimit literal.digits.radix literal.suffix.isSome := by
  obtain ⟨digits, suffix⟩ := literal
  cases digits <;> cases suffix <;> exact Iff.rfl

theorem result_numeral :
    literal.numeral.result =
      if literal.InRange then .ok literal.value else .error .numberOutOfRange := by
  rw [numeral, Numeral.result, Numeral.value?, ← magnitude]
  by_cases inRange : literal.InRange
  · rw [if_pos inRange, if_neg (Nat.not_lt.mpr (literal.inRange_iff.mp inRange)), value]
    cases literal.suffix.isSome <;> rfl
  · rw [if_neg inRange, if_pos (Nat.lt_of_not_le (mt literal.inRange_iff.mpr inRange))]

/-- Putting the digits of the literal together in a word gives what its numeral gives. -/
theorem integerInWords_eq :
    Numeral.integerInWords literal.digits.radix literal.digits.digits literal.suffix.isSome =
      literal.numeral.result := by
  obtain ⟨digits, suffix⟩ := literal
  cases digits with
  | decimal group _ => exact Numeral.integerInWords_eq (by decide) (by decide) group.all_digits _
  | octal group _ => exact Numeral.integerInWords_eq (by decide) (by decide) group.all_digits _
  | hexadecimal _ group => exact Numeral.integerInWords_eq (by decide) (by decide) group.all_digits _
  | binary _ group => exact Numeral.integerInWords_eq (by decide) (by decide) group.all_digits _

end Integer

/-! ## Zeros in front -/

/-- A zero in front of more digits is followed by a digit or an underscore. -/
theorem Group.LeadsWithZero.exists_text {radix : Nat} {group : Group radix}
    (leads : group.LeadsWithZero) :
    ∃ first second more, group.text = first :: second :: more ∧
      Numeral.continuesGroup radix second = true := by
  obtain ⟨first, rest, text, -, digits⟩ := group.exists_digits_eq
  cases rest with
  | nil => exact absurd leads.2 (by simp [digits])
  | cons second more =>
      exact ⟨first, second, more, text,
        Numeral.continuesGroup_of_grouped group.grouped second (by simp [text])⟩

end Grammar

namespace Numeral

open Reader

theorem read_eq_decimal {group : Group 10} (leads : group.LeadsWithZero) (rest : List Char) :
    read (group.text ++ rest) = decimal (group.text ++ rest) := by
  obtain ⟨first, second, more, text, goesOn⟩ := leads.exists_text
  have unmarked : ∀ mark ∈ ['x', 'X', 'b', 'B'], ∀ after,
      group.text ++ rest ≠ '0' :: mark :: after := by
    intro mark marked after same
    rw [text] at same
    obtain ⟨-, rfl, -⟩ : first = '0' ∧ second = mark ∧ more ++ rest = after := by simpa using same
    have refuses : ['x', 'X', 'b', 'B'].any (continuesGroup 10) = false := by decide
    exact List.any_eq_false.mp refuses _ marked goesOn
  rcases marked_or_read_eq_decimal (group.text ++ rest) with ⟨mark, after, whole⟩ |
    ⟨mark, after, whole⟩ | same
  · exact absurd whole (unmarked _ (List.mem_append_left _ mark.property) _)
  · exact absurd whole (unmarked _ (List.mem_append_right ['x', 'X'] mark.property) _)
  · exact same

/-- Digits that lead with a zero are no literal unless all of them are octal. -/
theorem scan_eq_malformed {group : Group 10} {suffix : Option LongSuffix} {rest : List Char}
    (leads : group.LeadsWithZero) (other : group.digits.all (isDigitOf 8) = false)
    (word : Stops isIdentifierPart rest) (noPoint : Stops (· == '.') (spelling suffix ++ rest)) :
    (scan (group.text ++ (spelling suffix ++ rest))).1 = .error .malformedNumber := by
  have nothing : (read (group.text ++ (spelling suffix ++ rest))).value = none := by
    rw [read_eq_decimal leads]
    cases found : (decimal (group.text ++ (spelling suffix ++ rest))).value with
    | none => rfl
    | some numeral =>
        have takes := Takes.of_regular regular_decimal found
        rw [takes_decimalInteger_iff group suffix word noPoint, takes_unmarked_iff] at takes
        simp [leads, other] at takes
  rw [scan, nothing]

end Numeral

open Numeral

/-- Integer literals have the number of their digits as their value, cut to the width of their
type, if that is in range for their radix and type. Putting the digits together in a word of 64
bits gives the same, and so does the literal without underscores. Digits without a mark that lead
with a zero are no literal if one of them is not octal, with underscores or without. -/
theorem integer_value_exact :
    (∀ (literal : Integer) (rest : List Char), (Number.integer literal).Ends rest →
      (read (literal.text ++ rest)).size = literal.text.length ∧
        (scan (literal.text ++ rest)).1 =
          (if literal.InRange then .ok literal.value else .error .numberOutOfRange) ∧
        integerInWords literal.digits.radix literal.digits.digits literal.suffix.isSome =
          (scan (literal.text ++ rest)).1 ∧
        (scan (literal.text.filter (· != '_') ++ rest)).1 = (scan (literal.text ++ rest)).1) ∧
    (∀ (group : Group 10) (suffix : Option LongSuffix) (rest : List Char),
      group.LeadsWithZero → group.digits.all (isDigitOf 8) = false →
      rest.head?.any isIdentifierPart = false → (suffix = none → rest.head? ≠ some '.') →
      (scan (group.text ++ (spelling suffix ++ rest))).1 = .error .malformedNumber ∧
        (scan (group.digits ++ (spelling suffix ++ rest))).1 = .error .malformedNumber) := by
  constructor
  · intro literal rest ends
    obtain ⟨size, scanned⟩ := scan_of_takes (takes_read (.integer literal) ends)
    obtain ⟨-, plain⟩ :=
      scan_of_takes (takes_read (.integer literal.plain) (literal.ends_plain ends))
    simp only [Number.text, Number.numeral, Integer.text_plain, Integer.numeral_plain]
      at size scanned plain
    exact ⟨size, scanned.trans literal.result_numeral, literal.integerInWords_eq.trans scanned.symm,
      plain.trans scanned.symm⟩
  · intro group suffix rest leads other word noPoint
    have separated := stops_suffix noPoint
    refine ⟨scan_eq_malformed leads other word separated, ?_⟩
    have plain : group.plain.digits.all (isDigitOf 8) = false := by rwa [group.digits_plain]
    exact scan_eq_malformed (group.leadsWithZero_plain.mpr leads) plain word separated

/-- The greatest decimal literal of type `int`, which is for use under a minus sign. -/
def Grammar.Integer.greatest : Integer :=
  ⟨.decimal ⟨"2_147_483_648".toList, by decide⟩ (by decide), none⟩

theorem integer_value_exact_greatest :
    Integer.greatest.InRange ∧ Integer.greatest.value = (.intLiteral, .int 0x80000000#32) ∧
      ((read (Integer.greatest.text ++ [';'])).size = 13 ∧
        (scan (Integer.greatest.text ++ [';'])).1 =
          (if Integer.greatest.InRange then .ok Integer.greatest.value
            else .error .numberOutOfRange) ∧
        integerInWords 10 Integer.greatest.digits.digits false =
          (scan (Integer.greatest.text ++ [';'])).1 ∧
        (scan (Integer.greatest.text.filter (· != '_') ++ [';'])).1 =
          (scan (Integer.greatest.text ++ [';'])).1) ∧
      ((scan "0_9L;".toList).1 = .error .malformedNumber ∧
        (scan "09L;".toList).1 = .error .malformedNumber) :=
  ⟨by decide, by decide,
    integer_value_exact.1 .greatest [';'] ⟨by decide, by decide⟩,
    integer_value_exact.2 ⟨"0_9".toList, by decide⟩ (some ⟨'L', by decide⟩) [';'] (by decide)
      (by decide) (by decide) nofun⟩

end JavaLex
