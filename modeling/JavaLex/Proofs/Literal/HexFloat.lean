import JavaLex.Proofs.Literal.Digits
import JavaLex.Proofs.Literal.Number
import JavaLex.Proofs.Literal.Window

/-! # Hexadecimal floats

A hexadecimal float denotes the number of its digits, scaled by its point and by its power of two.
Its value is that number rounded once to the format of its type; a number other than zero that is
rounded to zero or to infinity has none. Rounding in machine words gives the same, and no step of
it leaves the range of its word.
-/

namespace JavaLex

open Charset

namespace HexFloat

variable {float : HexFloat}

def denoted (float : HexFloat) : ℚ :=
  valueOf 16 float.digits / 16 ^ float.fraction.length * 2 ^ float.exponent

theorem denoted_eq (float : HexFloat) :
    float.denoted =
      valueOf 16 float.digits * 2 ^ (float.exponent - 4 * float.fraction.length) := by
  have places : (2 : ℚ) ^ (4 * float.fraction.length : ℤ) = 16 ^ float.fraction.length := by
    rw [zpow_mul, zpow_natCast]
    norm_num
  rw [denoted, zpow_sub₀ (by norm_num), places]
  ring

theorem all_significant (float : HexFloat) :
    ∀ c ∈ float.significant, isDigitOf 16 c = true := by
  intro c member
  exact List.all_eq_true.mp float.hexadecimal c ((List.dropWhile_suffix _).subset member)

theorem length_significant_le (float : HexFloat) :
    float.significant.length ≤ float.digits.length :=
  (List.dropWhile_suffix _).length_le

theorem length_fraction_le (float : HexFloat) : float.fraction.length ≤ float.digits.length := by
  rw [digits, List.length_append]
  exact Nat.le_add_left _ _

theorem valueOf_significant (float : HexFloat) :
    valueOf 16 float.significant = valueOf 16 float.digits := by
  have zeros : valueOf 16 (float.digits.takeWhile (· == '0')) = 0 := by
    rw [valueOf_eq_zero_iff (by decide)]
    intro c member
    have marks : (float.digits.takeWhile (· == '0')).all (· == '0') = true := List.all_takeWhile
    rw [beq_iff_eq.mp (List.all_eq_true.mp marks c member)]
    rfl
  have parts := List.takeWhile_append_dropWhile (p := (· == '0')) (l := float.digits)
  rw [significant]
  conv_rhs => rw [← parts]
  rw [valueOf_append, zeros, Nat.zero_mul, Nat.zero_add]

theorem significant_head (float : HexFloat) {c : Char} {more : List Char}
    (front : float.significant = c :: more) : (digit? 16 c).getD 0 ≠ 0 := by
  intro zero
  have digit := float.all_significant c (by rw [front]; exact .head _)
  have refused := List.head?_dropWhile_not (· == '0') float.digits
  rw [← significant, front, List.head?_cons] at refused
  rw [eq_zero_of_getD_digit? digit zero] at refused
  simp at refused

theorem significant_eq_nil_iff (float : HexFloat) :
    float.significant = [] ↔ valueOf 16 float.digits = 0 := by
  rw [← valueOf_significant]
  cases front : float.significant with
  | nil => simp
  | cons c more =>
      have head := float.significant_head front
      have power : 0 < 16 ^ more.length := Nat.pow_pos (by decide)
      rw [valueOf_cons]
      simp [head]

theorem toNat_pushDigit {word : BitVec 64} (room : word.toNat < 2 ^ 60) (c : Char) :
    (pushDigit word c).toNat = word.toNat * 16 + (digit? 16 c).getD 0 := by
  have digit := getD_digit?_lt (show 0 < 16 by decide) c
  have shifted : (word <<< 4).toNat = 2 ^ 4 * word.toNat := by
    rw [BitVec.toNat_shiftLeft, Nat.shiftLeft_eq, Nat.mod_eq_of_lt (by omega), Nat.mul_comm]
  rw [pushDigit, BitVec.toNat_or, shifted, BitVec.toNat_ofNat, Nat.mod_eq_of_lt (by omega),
    ← Nat.two_pow_add_eq_or_of_lt digit, Nat.mul_comm]

theorem toNat_foldl_pushDigit (digits : List Char) {word : BitVec 64} {size : Nat}
    (below : word.toNat < 16 ^ size) (room : size + digits.length ≤ 16) :
    (digits.foldl pushDigit word).toNat =
      word.toNat * 16 ^ digits.length + valueOf 16 digits := by
  induction digits generalizing word size with
  | nil => simp
  | cons c digits ih =>
      rw [List.length_cons] at room
      have short : 16 ^ size ≤ 2 ^ 60 := by
        have := Nat.pow_le_pow_right (show 0 < 16 by decide) (show size ≤ 15 by omega)
        omega
      have pushed := toNat_pushDigit (show word.toNat < 2 ^ 60 by omega) c
      have digit := getD_digit?_lt (show 0 < 16 by decide) c
      have next : (pushDigit word c).toNat < 16 ^ (size + 1) := by
        rw [pushed, Nat.pow_succ]
        omega
      rw [List.foldl_cons, ih next (by omega), pushed, valueOf_cons, List.length_cons, pow_succ]
      ring

theorem toNat_mantissa (float : HexFloat) :
    float.mantissa.toNat = valueOf 16 (float.significant.take 16) := by
  have short : (float.significant.take 16).length ≤ 16 := List.length_take_le _ _
  have fold := toNat_foldl_pushDigit (float.significant.take 16)
    (show (0 : BitVec 64).toNat < 16 ^ 0 by decide) (by omega)
  rw [mantissa, fold]
  simp

theorem sticky_iff (float : HexFloat) :
    float.sticky = true ↔ valueOf 16 (float.significant.drop 16) ≠ 0 := by
  rw [Ne, valueOf_eq_zero_iff (by decide), sticky, List.any_eq_true]
  simp

/-! ## Rounding in words -/

/-- The exponent of the word that holds the leading digits, in whole numbers without bound. -/
def scale (float : HexFloat) : Int :=
  float.exponent + 4 * (float.significant.length - 16 : Nat) - 4 * float.fraction.length -
    Word.leadingZeros float.mantissa + 63

/-- Sixteen digits fill the word up to the bits of the first one. -/
theorem mantissa_ge (float : HexFloat) (long : 16 < float.significant.length) :
    2 ^ 60 ≤ float.mantissa.toNat := by
  rw [toNat_mantissa]
  cases front : float.significant with
  | nil => simp [front] at long
  | cons c more =>
      have head := float.significant_head front
      rw [front, List.length_cons] at long
      have rest : (more.take 15).length = 15 := by
        rw [List.length_take]
        omega
      rw [List.take_succ_cons, valueOf_cons, rest]
      omega

theorem mantissa_ne_zero (float : HexFloat) (nonzero : float.significant ≠ []) :
    float.mantissa.toNat ≠ 0 := by
  rw [toNat_mantissa, Ne, valueOf_eq_zero_iff (by decide)]
  obtain ⟨c, more, front⟩ := List.exists_cons_of_ne_nil nonzero
  intro zeros
  exact float.significant_head front (zeros c (by rw [front]; exact .head _))

theorem exists_fraction (float : HexFloat) :
    ∃ fraction : ℚ, 0 ≤ fraction ∧ fraction < 1 ∧ (float.sticky = true ↔ fraction ≠ 0) ∧
      float.denoted = (float.mantissa.toNat + fraction) *
        2 ^ Word.leadingZeros float.mantissa * 2 ^ (float.scale - 63) := by
  have power : (0 : ℚ) < 16 ^ (float.significant.drop 16).length := by positivity
  have below := valueOf_lt (show 0 < 16 by decide) (float.significant.drop 16)
  have whole : valueOf 16 float.digits =
      float.mantissa.toNat * 16 ^ (float.significant.drop 16).length +
        valueOf 16 (float.significant.drop 16) := by
    rw [toNat_mantissa, ← valueOf_append, List.take_append_drop, valueOf_significant]
  refine ⟨valueOf 16 (float.significant.drop 16) / 16 ^ (float.significant.drop 16).length,
    by positivity, ?_, ?_, ?_⟩
  · rw [div_lt_one power]
    exact_mod_cast below
  · rw [sticky_iff, Ne, Ne, div_eq_zero_iff, or_iff_left (ne_of_gt power), Nat.cast_eq_zero]
  · have exponents : (2 : ℚ) ^ (float.exponent - 4 * float.fraction.length) *
        16 ^ (float.significant.drop 16).length =
          2 ^ Word.leadingZeros float.mantissa * 2 ^ (float.scale - 63) := by
      rw [show (16 : ℚ) = 2 ^ 4 by norm_num, ← pow_mul, ← zpow_natCast, ← zpow_natCast,
        ← zpow_add₀ (by norm_num), ← zpow_add₀ (by norm_num), scale, List.length_drop]
      congr 1
      push_cast
      ring
    rw [denoted_eq, whole, mul_assoc, ← exponents]
    push_cast
    field_simp

theorem exists_held (float : HexFloat) (nonzero : float.significant ≠ []) :
    ∃ mantissa, Word.shiftLeft? float.mantissa (Word.leadingZeros float.mantissa) = some mantissa ∧
      Held float.denoted mantissa float.sticky float.scale := by
  obtain ⟨shifted, shifted_eq, shifted_val, top⟩ :=
    Word.exists_normalised (float.mantissa_ne_zero nonzero)
  obtain ⟨fraction, low, high, marked, equal⟩ := float.exists_fraction
  refine ⟨shifted, shifted_eq, top, ?_⟩
  by_cases absent : fraction = 0
  · refine ⟨0, shifted.toNat, 0, by omega, by simp, le_refl _, by norm_num, ?_, ?_⟩
    · rw [marked, absent]
    · rw [equal, absent, shifted_val]
      push_cast
      ring
  · have long : 16 < float.significant.length := by
      by_contra short
      have sticky := marked.mpr absent
      rw [sticky_iff, List.drop_of_length_le (by omega)] at sticky
      exact sticky rfl
    have few := Word.leadingZeros_le (float.mantissa_ge long)
    exact ⟨Word.leadingZeros float.mantissa, float.mantissa.toNat, fraction, by omega, shifted_val,
      low, high, marked, equal⟩

/-- An exponent that saturates is as far out of range as the true one. -/
theorem saturatingExponent_cases (exponent dropped places : ℤ) (shift : Nat) (scale : ℤ)
    (exact_scale : scale = exponent + dropped - places - shift + 63)
    (dropped_nonneg : 0 ≤ dropped) (dropped_lt : dropped < 2 ^ 35) (places_nonneg : 0 ≤ places)
    (places_lt : places < 2 ^ 35) (shift_le : shift ≤ 64) :
    saturatingExponent exponent dropped places shift = scale ∨
      2 ^ 62 ≤ saturatingExponent exponent dropped places shift ∧ 2 ^ 62 ≤ scale ∨
      saturatingExponent exponent dropped places shift ≤ 2 ^ 37 - 2 ^ 63 ∧
        scale ≤ 2 ^ 37 - 2 ^ 63 := by
  unfold saturatingExponent Word.saturate
  dsimp only
  omega

def outcome (float : HexFloat) (bits : Nat) : Option (Kind × Literal) :=
  if float.denoted = 0 then
    some (float.value 0)
  else if bits = 0 ∨ bits = float.format.infinity then
    none
  else
    some (float.value (BitVec.ofNat 64 bits))

theorem denoted_eq_zero_iff (float : HexFloat) :
    float.denoted = 0 ↔ valueOf 16 float.digits = 0 := by
  rw [denoted_eq, mul_eq_zero, or_iff_left (by positivity), Nat.cast_eq_zero]

theorem format_fitsWord (float : HexFloat) : float.format.FitsWord := by
  unfold format
  split
  · exact BinaryFormat.binary64_fitsWord
  · exact BinaryFormat.binary32_fitsWord

theorem bits_eq_zero (float : HexFloat) {bits : Nat}
    (rounds : float.format.Rounds float.denoted bits) (zero : float.denoted = 0) : bits = 0 := by
  rw [zero] at rounds
  exact rounds.eq_zero float.format_fitsWord.toProper

theorem outcome_of_ne_zero (float : HexFloat) (bits : Nat) (nonzero : float.denoted ≠ 0) :
    float.outcome bits = (float.format.inRange? bits).map float.value := by
  rw [outcome, if_neg nonzero, BinaryFormat.inRange?]
  split <;> rfl

theorem value?_eq_map (float : HexFloat) :
    float.numeral.value? =
      (float.format.ofScaled? (valueOf 16 float.digits) 2
        (float.exponent - 4 * float.fraction.length)).map
          fun bits => float.value (BitVec.ofNat 64 bits) := by
  have narrow : ∀ bits, (BitVec.ofNat 64 bits).setWidth 32 = BitVec.ofNat 32 bits :=
    fun bits => BitVec.setWidth_ofNat_of_le (by decide) bits
  unfold numeral format value
  cases float.double <;> simp [Numeral.value?, narrow]

theorem value?_numeral (float : HexFloat) {bits : Nat}
    (rounds : float.format.Rounds float.denoted bits) :
    float.numeral.value? = float.outcome bits := by
  have scaled := rounds
  rw [denoted_eq, show (2 : ℚ) = ((2 : Nat) : ℚ) by norm_num] at scaled
  rw [value?_eq_map,
    BinaryFormat.ofScaled?_eq float.format_fitsWord.toProper (le_refl 2) scaled]
  by_cases zero : float.denoted = 0
  · rw [if_neg (fun other => other.1 (float.denoted_eq_zero_iff.mp zero)), outcome, if_pos zero,
      float.bits_eq_zero rounds zero]
    rfl
  · have nonzero : valueOf 16 float.digits ≠ 0 := mt float.denoted_eq_zero_iff.mpr zero
    rw [outcome_of_ne_zero float bits zero, BinaryFormat.inRange?]
    simp only [nonzero, ne_eq, not_false_eq_true, true_and]
    split <;> rfl

theorem roundWord?_saturatingExponent (float : HexFloat) (size : float.digits.length < 2 ^ 32)
    {mantissa : BitVec 64} {bits : Nat}
    (held : Held float.denoted mantissa float.sticky float.scale)
    (rounds : float.format.Rounds float.denoted bits) :
    float.format.roundWord? mantissa float.sticky
      (saturatingExponent float.exponent (4 * (float.significant.length - 16 : Nat))
        (4 * float.fraction.length) (Word.leadingZeros float.mantissa)) =
      some (float.format.inRange? bits) := by
  have fits := float.format_fitsWord
  have result := BinaryFormat.roundWord?_eq fits held rounds
  have short := float.length_significant_le
  have places := float.length_fraction_le
  have shift_le := Word.leadingZeros_le_width float.mantissa
  rcases saturatingExponent_cases float.exponent (4 * (float.significant.length - 16 : Nat))
    (4 * float.fraction.length) (Word.leadingZeros float.mantissa) float.scale rfl (by omega)
    (by omega) (by omega) (by omega) shift_le with
    same | ⟨machine_far, far⟩ | ⟨machine_far, far⟩
  · rw [same]
    exact result
  · rw [BinaryFormat.roundWord?_of_far fits (.inl far)] at result
    rw [BinaryFormat.roundWord?_of_far fits (.inl machine_far), result]
  · rw [BinaryFormat.roundWord?_of_far fits (.inr far)] at result
    rw [BinaryFormat.roundWord?_of_far fits (.inr machine_far), result]

/-- Rounding in words gives the same value, and every step has a result. -/
theorem window?_eq (float : HexFloat) (size : float.digits.length < 2 ^ 32) {bits : Nat}
    (rounds : float.format.Rounds float.denoted bits) :
    float.window? = some (float.outcome bits) := by
  by_cases zero : float.denoted = 0
  · have empty := float.significant_eq_nil_iff.mpr (float.denoted_eq_zero_iff.mp zero)
    rw [window?, if_pos empty, outcome, if_pos zero]
  · have digits : float.significant ≠ [] := fun empty =>
      zero (float.denoted_eq_zero_iff.mpr (float.significant_eq_nil_iff.mp empty))
    obtain ⟨mantissa, mantissa_eq, held⟩ := float.exists_held digits
    have short := float.length_significant_le
    have places := float.length_fraction_le
    have dropped_eq : Word.signed? (4 * (float.significant.length - 16 : Nat)) =
        some (4 * ((float.significant.length - 16 : Nat) : ℤ)) :=
      Word.signed?_of_bounds (by omega) (by omega)
    have places_eq : Word.signed? (4 * float.fraction.length) =
        some (4 * (float.fraction.length : ℤ)) :=
      Word.signed?_of_bounds (by omega) (by omega)
    rw [window?, if_neg digits, outcome_of_ne_zero float bits zero]
    simp only [mantissa_eq, dropped_eq, places_eq,
      float.roundWord?_saturatingExponent size held rounds, Option.bind_eq_bind, Option.bind_some]
    rfl

/-! ## Reading -/

theorem exists_power (float : HexFloat) :
    ∃ power : Grammar.Power, power.text = float.sign.toList ++ float.power ∧
      power.value = float.exponent := by
  have digits := Grammar.Group.digits_ofDigits float.decimal float.power_ne_nil
  have signed := float.signed
  cases sign : float.sign with
  | none =>
      refine ⟨⟨none, .ofDigits float.power float.decimal float.power_ne_nil⟩, rfl, ?_⟩
      simp [Grammar.Power.value, exponent, sign, digits]
  | some c =>
      rw [sign] at signed
      refine ⟨⟨some ⟨c, by simpa using signed⟩,
        .ofDigits float.power float.decimal float.power_ne_nil⟩, rfl, ?_⟩
      simp [Grammar.Power.value, exponent, sign, digits]

theorem exists_literal (float : HexFloat) :
    ∃ literal : Grammar.HexadecimalFloat,
      literal.text = float.text ∧ literal.numeral = float.numeral := by
  have all := float.hexadecimal
  rw [List.all_append, Bool.and_eq_true] at all
  obtain ⟨significand, units, places, spelled⟩ :=
    Grammar.Significand.exists_of_digits all.1 all.2 float.digits_ne_nil
  obtain ⟨power, signed, value⟩ := float.exists_power
  refine ⟨⟨⟨'x', by decide⟩, significand, ⟨⟨'p', by decide⟩, power⟩,
    if float.double then none else some ⟨'f', by decide⟩⟩, ?_, ?_⟩
  · simp only [Grammar.HexadecimalFloat.text, Grammar.Exponent.text, spelled, signed, text, suffix]
    cases float.double <;> simp [Grammar.spelling]
  · simp only [Grammar.HexadecimalFloat.numeral, Grammar.HexadecimalFloat.double, units, places,
      value, numeral, HexFloat.digits]
    cases float.double <;> simp [Grammar.isDouble]

/-- The whole literal is scanned, to its value or to a number out of range. -/
theorem scan_text (float : HexFloat) :
    Numeral.scan float.text =
      (match float.numeral.value? with
        | some value => .ok value
        | none => .error .numberOutOfRange, float.text.length) := by
  obtain ⟨literal, text, numeral⟩ := float.exists_literal
  have scanned := Numeral.scan_of_stops (.hexadecimalFloat literal) .nil
  rw [List.append_nil] at scanned
  rw [← text, ← numeral]
  refine scanned.trans ?_
  change (literal.numeral.result, literal.text.length) = _
  unfold Numeral.result
  cases literal.numeral.value? <;> rfl

end HexFloat

/-- A hexadecimal float is rounded once. There is one row of bits to which its number rounds to
nearest with ties to even, and scanning gives the value with these bits; zero is positive zero, and
another number that rounds to zero or infinity is out of range. Rounding in machine words agrees:
no shift and no difference is out of range, and a saturated exponent changes nothing. -/
theorem hexFloat_rounds_once (float : HexFloat) (size : float.digits.length < 2 ^ 32) :
    ∃ bits, float.format.Rounds float.denoted bits ∧
      (∀ other, float.format.Rounds float.denoted other → other = bits) ∧
      Numeral.scan float.text =
        (match float.outcome bits with
          | some value => .ok value
          | none => .error .numberOutOfRange, float.text.length) ∧
      float.window? = some (float.outcome bits) := by
  have nonneg : 0 ≤ float.denoted := by
    unfold HexFloat.denoted
    positivity
  obtain ⟨bits, rounds⟩ := BinaryFormat.exists_rounds float.format_fitsWord.toProper nonneg
  refine ⟨bits, rounds, fun other => rounds.unique, ?_, float.window?_eq size rounds⟩
  rw [float.scan_text, float.value?_numeral rounds]

/-- A `float` just above the middle between two values: its seventeenth digit decides. -/
def HexFloat.aboveTie : HexFloat where
  whole := ['1']
  fraction := "0000010000000001".toList
  sign := none
  power := ['0']
  double := false
  hexadecimal := by decide
  digits_ne_nil := by decide
  signed := rfl
  decimal := by decide
  power_ne_nil := by decide

theorem hexFloat_rounds_once_aboveTie :
    HexFloat.aboveTie.digits.length < 2 ^ 32 ∧
      HexFloat.aboveTie.text = "0x1.0000010000000001p0f".toList ∧
      HexFloat.aboveTie.window? = some (some (.floatLiteral, .float 0x3F800001#32)) ∧
      ∃ bits, HexFloat.aboveTie.format.Rounds HexFloat.aboveTie.denoted bits ∧
        (∀ other, HexFloat.aboveTie.format.Rounds HexFloat.aboveTie.denoted other →
          other = bits) ∧
        Numeral.scan HexFloat.aboveTie.text =
          (match HexFloat.aboveTie.outcome bits with
            | some value => .ok value
            | none => .error .numberOutOfRange, HexFloat.aboveTie.text.length) ∧
        HexFloat.aboveTie.window? = some (HexFloat.aboveTie.outcome bits) :=
  ⟨by decide, by decide, by decide +kernel, hexFloat_rounds_once HexFloat.aboveTie (by decide)⟩

end JavaLex
