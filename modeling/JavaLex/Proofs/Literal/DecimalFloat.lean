import JavaLex.Proofs.Literal.Digits
import JavaLex.Proofs.Literal.Number
import JavaLex.Proofs.Literal.Rounding

/-! # Decimal floats

A decimal float denotes the number of its digits before and after the point, scaled by its power of
ten. Its value is that number rounded once to the format of its type, however many digits it has and
however long its exponent is; it has no value where rounding leads to infinity, or to zero from
another number.
-/

namespace JavaLex

open Charset Grammar

namespace Grammar.DecimalFloat

variable {literal : DecimalFloat} {bits : Nat}

/-- The number that the literal denotes; digits that are missing on either side of the point denote
zero. -/
def denoted (literal : DecimalFloat) : ℚ :=
  (valueOf 10 literal.significand.units +
    valueOf 10 literal.significand.places / 10 ^ literal.significand.places.length) *
      10 ^ literal.power

def format (literal : DecimalFloat) : BinaryFormat :=
  if literal.double then .binary64 else .binary32

def value (literal : DecimalFloat) (bits : Nat) : Kind × Literal :=
  if literal.double then (.doubleLiteral, .double (BitVec.ofNat 64 bits))
  else (.floatLiteral, .float (BitVec.ofNat 32 bits))

def magnitude (literal : DecimalFloat) : Nat :=
  valueOf 10 (literal.significand.units ++ literal.significand.places)

theorem denoted_eq (literal : DecimalFloat) :
    literal.denoted =
      literal.magnitude * 10 ^ (literal.power - literal.significand.places.length) := by
  rw [denoted, magnitude, valueOf_append, zpow_sub₀ (by norm_num), zpow_natCast]
  push_cast
  field_simp

theorem denoted_nonneg (literal : DecimalFloat) : 0 ≤ literal.denoted := by
  rw [denoted_eq]
  positivity

theorem denoted_eq_zero_iff (literal : DecimalFloat) :
    literal.denoted = 0 ↔ literal.magnitude = 0 := by
  rw [denoted_eq, mul_eq_zero, or_iff_left (by positivity), Nat.cast_eq_zero]

theorem format_proper (literal : DecimalFloat) : literal.format.Proper := by
  unfold format
  split
  · exact BinaryFormat.binary64_proper
  · exact BinaryFormat.binary32_proper

theorem value?_eq_map (literal : DecimalFloat) :
    literal.numeral.value? =
      (literal.format.ofScaled? literal.magnitude 10
        (literal.power - literal.significand.places.length)).map literal.value := by
  unfold numeral format value magnitude
  cases literal.double <;> simp [Numeral.value?]

/-- The number is out of range where it is rounded to infinity, or to zero and is not zero. -/
theorem outOfRange_iff (rounds : literal.format.Rounds literal.denoted bits) :
    literal.magnitude ≠ 0 ∧ (bits = 0 ∨ bits = literal.format.infinity) ↔
      bits = literal.format.infinity ∨ (bits = 0 ∧ literal.denoted ≠ 0) := by
  rw [Ne, Ne, ← denoted_eq_zero_iff]
  by_cases zero : literal.denoted = 0
  · rw [zero] at rounds
    have positive := literal.format.infinity_pos
    simp [zero, rounds.eq_zero literal.format_proper, Nat.ne_of_lt positive]
  · simp [zero, or_comm]

/-- The numeral of the literal has the value of the number, unless that is out of range. -/
theorem result_numeral (rounds : literal.format.Rounds literal.denoted bits) :
    literal.numeral.result =
      if bits = literal.format.infinity ∨ (bits = 0 ∧ literal.denoted ≠ 0) then
        .error .numberOutOfRange
      else
        .ok (literal.value bits) := by
  have scaled := rounds
  rw [denoted_eq, show (10 : ℚ) = ((10 : Nat) : ℚ) by norm_num] at scaled
  rw [Numeral.result, value?_eq_map,
    BinaryFormat.ofScaled?_eq literal.format_proper (by decide) scaled]
  simp only [outOfRange_iff rounds]
  by_cases outOfRange :
      bits = literal.format.infinity ∨ (bits = 0 ∧ literal.denoted ≠ 0)
  · simp [outOfRange]
  · simp [outOfRange]

end Grammar.DecimalFloat

open Numeral

/-- A decimal float is rounded once. There is one row of bits to which its number rounds to nearest
with ties to even, and scanning takes the literal and gives the value with these bits. It is out of
range where they are those of infinity, or those of zero for a number other than zero. -/
theorem decimalFloat_rounds_once (literal : DecimalFloat) (rest : List Char)
    (ends : rest.head?.any isIdentifierPart = false) :
    ∃ bits, literal.format.Rounds literal.denoted bits ∧
      (∀ other, literal.format.Rounds literal.denoted other → other = bits) ∧
      (read (literal.text ++ rest)).size = literal.text.length ∧
      (scan (literal.text ++ rest)).1 =
        if bits = literal.format.infinity ∨ (bits = 0 ∧ literal.denoted ≠ 0) then
          .error .numberOutOfRange
        else
          .ok (literal.value bits) := by
  obtain ⟨bits, rounds⟩ := BinaryFormat.exists_rounds literal.format_proper literal.denoted_nonneg
  have stands : (Number.decimalFloat literal).Ends rest := ⟨ends, nofun⟩
  obtain ⟨size, result⟩ := scan_of_takes (takes_read _ stands)
  exact ⟨bits, rounds, fun other => rounds.unique, size, result.trans (literal.result_numeral rounds)⟩

/-- The number in the middle between two values of type `double`, of which the lower one is even. -/
def Grammar.DecimalFloat.tie : DecimalFloat where
  significand := .trailing ⟨"9_007_199_254_740_993".toList, by decide⟩
  exponent := none
  suffix := none
  floating := .inl rfl

theorem decimalFloat_rounds_once_tie :
    DecimalFloat.tie.text = "9_007_199_254_740_993.".toList ∧
      (scan "9_007_199_254_740_993.+1".toList).1 =
        .ok (.doubleLiteral, .double 0x4340000000000000#64) ∧
      ∃ bits, DecimalFloat.tie.format.Rounds DecimalFloat.tie.denoted bits ∧
        (∀ other, DecimalFloat.tie.format.Rounds DecimalFloat.tie.denoted other → other = bits) ∧
        (read (DecimalFloat.tie.text ++ ['+', '1'])).size = DecimalFloat.tie.text.length ∧
        (scan (DecimalFloat.tie.text ++ ['+', '1'])).1 =
          if bits = DecimalFloat.tie.format.infinity ∨
              (bits = 0 ∧ DecimalFloat.tie.denoted ≠ 0) then
            .error .numberOutOfRange
          else
            .ok (DecimalFloat.tie.value bits) :=
  ⟨by decide, rfl, decimalFloat_rounds_once .tie ['+', '1'] (by decide)⟩

end JavaLex
