import JavaLex.Literal.Window
import JavaLex.Proofs.Literal.Rounding

/-! # Rounding in machine words

A word of 64 bits and one bit for what follows it are enough to round a number once: the word is
cut at least eleven bits above its end, so that what follows only decides ties. Every step stays
within the range of its word.
-/

namespace JavaLex

/-! ## Steps within range -/

namespace Word

variable {width amount : Nat} {word left right : BitVec width}

theorem shiftLeft?_of_lt (lt : amount < width) (fits : word.toNat * 2 ^ amount < 2 ^ width) :
    ∃ shifted, shiftLeft? word amount = some shifted ∧
      shifted.toNat = word.toNat * 2 ^ amount := by
  refine ⟨word <<< amount, if_pos lt, ?_⟩
  rw [BitVec.toNat_shiftLeft, Nat.shiftLeft_eq, Nat.mod_eq_of_lt fits]

theorem shiftLeft?_one (lt : amount < width) :
    ∃ power, shiftLeft? (1 : BitVec width) amount = some power ∧ power.toNat = 2 ^ amount := by
  have one : (1 : BitVec width).toNat = 1 := BitVec.toNat_one (by omega)
  have fits : (1 : BitVec width).toNat * 2 ^ amount < 2 ^ width := by
    rw [one, Nat.one_mul]
    exact Nat.pow_lt_pow_right (by decide) lt
  obtain ⟨power, equal, val⟩ := shiftLeft?_of_lt lt fits
  exact ⟨power, equal, by rw [val, one, Nat.one_mul]⟩

theorem shiftRight?_of_lt (word : BitVec width) (lt : amount < width) :
    ∃ shifted, shiftRight? word amount = some shifted ∧
      shifted.toNat = word.toNat / 2 ^ amount := by
  refine ⟨word >>> amount, if_pos lt, ?_⟩
  rw [BitVec.toNat_ushiftRight, Nat.shiftRight_eq_div_pow]

theorem add?_of_lt (fits : left.toNat + right.toNat < 2 ^ width) :
    ∃ sum, add? left right = some sum ∧ sum.toNat = left.toNat + right.toNat :=
  ⟨left + right, if_pos fits, BitVec.toNat_add_of_lt fits⟩

theorem subtract?_of_le (le : right.toNat ≤ left.toNat) :
    ∃ difference, subtract? left right = some difference ∧
      difference.toNat = left.toNat - right.toNat :=
  ⟨left - right, if_pos le, BitVec.toNat_sub_of_le le⟩

theorem signed?_of_bounds {number : ℤ} (low : -2 ^ 63 ≤ number) (high : number < 2 ^ 63) :
    signed? number = some number := by
  refine if_pos ?_
  unfold saturate
  omega

theorem exists_normalised {word : BitVec 64} (nonzero : word.toNat ≠ 0) :
    ∃ shifted, shiftLeft? word (leadingZeros word) = some shifted ∧
      shifted.toNat = word.toNat * 2 ^ leadingZeros word ∧ 2 ^ 63 ≤ shifted.toNat := by
  have low := Nat.log2_self_le nonzero
  have high := Nat.lt_log2_self (n := word.toNat)
  have top : word.toNat.log2 < 64 := Nat.log2_lt nonzero |>.mpr word.isLt
  have zeros : leadingZeros word = 63 - word.toNat.log2 := by
    rw [leadingZeros, if_neg]
    rintro rfl
    exact nonzero rfl
  have least : 2 ^ 63 = 2 ^ word.toNat.log2 * 2 ^ leadingZeros word := by
    rw [← Nat.pow_add]
    congr 1
    omega
  have most : 2 ^ 64 = 2 ^ (word.toNat.log2 + 1) * 2 ^ leadingZeros word := by
    rw [← Nat.pow_add]
    congr 1
    omega
  have fits : word.toNat * 2 ^ leadingZeros word < 2 ^ 64 := by
    rw [most]
    exact Nat.mul_lt_mul_of_pos_right high (Nat.two_pow_pos _)
  obtain ⟨shifted, equal, val⟩ := shiftLeft?_of_lt (show leadingZeros word < 64 by omega) fits
  refine ⟨shifted, equal, val, ?_⟩
  rw [val, least]
  exact Nat.mul_le_mul_right _ low

theorem leadingZeros_le_width (word : BitVec width) : leadingZeros word ≤ width := by
  unfold leadingZeros
  split <;> omega

/-- A word that fills fifteen of its sixteen digits has few leading zeros. -/
theorem leadingZeros_le {word : BitVec 64} (full : 2 ^ 60 ≤ word.toNat) :
    leadingZeros word ≤ 3 := by
  have nonzero : word.toNat ≠ 0 := by omega
  have log : 60 ≤ word.toNat.log2 := (Nat.le_log2 nonzero).mpr full
  rw [leadingZeros, if_neg]
  · omega
  · rintro rfl
    exact nonzero rfl

end Word

namespace BinaryFormat

/-- The mask of the bits that are cut off, and half of their unit. -/
private theorem exists_mask {drop : BitVec 32} (positive : 0 < drop.toNat)
    (bound : drop.toNat < 128) :
    ∃ unit mask place half, Word.shiftLeft? (1 : BitVec 128) drop.toNat = some unit ∧
      Word.subtract? unit 1 = some mask ∧ Word.subtract? drop 1 = some place ∧
      Word.shiftLeft? (1 : BitVec 128) place.toNat = some half ∧
      mask.toNat = 2 ^ drop.toNat - 1 ∧ 2 * half.toNat = 2 ^ drop.toNat := by
  have one_wide : (1 : BitVec 128).toNat = 1 := rfl
  have one_short : (1 : BitVec 32).toNat = 1 := rfl
  obtain ⟨unit, unit_eq, unit_val⟩ := Word.shiftLeft?_one bound
  obtain ⟨mask, mask_eq, mask_val⟩ :=
    Word.subtract?_of_le (show (1 : BitVec 128).toNat ≤ unit.toNat by
      rw [unit_val]; exact Nat.two_pow_pos _)
  obtain ⟨place, place_eq, place_val⟩ :=
    Word.subtract?_of_le (show (1 : BitVec 32).toNat ≤ drop.toNat from positive)
  obtain ⟨half, half_eq, half_val⟩ := Word.shiftLeft?_one (show place.toNat < 128 by omega)
  refine ⟨unit, mask, place, half, unit_eq, mask_eq, place_eq, half_eq, ?_, ?_⟩
  · rw [mask_val, unit_val, one_wide]
  · rw [half_val, place_val, one_short, ← Nat.pow_succ']
    congr 1
    omega

/-- Cutting a word keeps the quotient, rounded to the nearest with ties to even. -/
theorem cut?_eq (wide : BitVec 128) {drop : BitVec 32} (positive : 0 < drop.toNat)
    (bound : drop.toNat < 128) :
    ∃ kept, cut? wide drop = some kept ∧
      kept.toNat = roundQuotient wide.toNat (2 ^ drop.toNat) := by
  have one_wide : (1 : BitVec 128).toNat = 1 := rfl
  obtain ⟨kept, kept_eq, kept_val⟩ := Word.shiftRight?_of_lt wide bound
  obtain ⟨unit, mask, place, half, unit_eq, mask_eq, place_eq, half_eq, mask_val, half_val⟩ :=
    exists_mask positive bound
  have rest_val : (wide &&& mask).toNat = wide.toNat % 2 ^ drop.toNat := by
    rw [BitVec.toNat_and, mask_val, Nat.and_two_pow_sub_one_eq_mod]
  have parity : kept &&& 1 = 1 ↔ wide.toNat / 2 ^ drop.toNat % 2 = 1 := by
    rw [← BitVec.toNat_inj, BitVec.toNat_and, one_wide, Nat.and_one_is_mod, kept_val]
  have up : (half < wide &&& mask ∨ wide &&& mask = half ∧ kept &&& 1 = 1) ↔
      (2 ^ drop.toNat < 2 * (wide.toNat % 2 ^ drop.toNat) ∨
        2 * (wide.toNat % 2 ^ drop.toNat) = 2 ^ drop.toNat ∧
          wide.toNat / 2 ^ drop.toNat % 2 = 1) := by
    rw [parity, BitVec.lt_def, ← BitVec.toNat_inj, rest_val]
    omega
  have run : cut? wide drop =
      if half < wide &&& mask ∨ wide &&& mask = half ∧ kept &&& 1 = 1 then
        Word.add? kept 1
      else
        some kept := by
    simp only [cut?, kept_eq, unit_eq, mask_eq, place_eq, half_eq, Option.bind_eq_bind,
      Option.bind_some]
    rfl
  rw [run, roundQuotient_eq]
  split
  case isTrue more =>
    have below := wide.isLt
    have halved : wide.toNat / 2 ^ drop.toNat ≤ wide.toNat / 2 :=
      Nat.div_le_div_left (Nat.le_self_pow (by omega) 2) (by decide)
    obtain ⟨sum, sum_eq, sum_val⟩ := Word.add?_of_lt
      (show kept.toNat + (1 : BitVec 128).toNat < 2 ^ 128 by rw [kept_val, one_wide]; omega)
    exact ⟨sum, sum_eq, by rw [if_pos (up.mp more), sum_val, kept_val, one_wide]⟩
  case isFalse less =>
    exact ⟨kept, rfl, by rw [if_neg (mt up.mpr less), kept_val]⟩

theorem keep?_eq (wide : BitVec 128) {width : Nat} (bound : width ≤ 64) :
    ∃ kept, keep? wide width = some kept ∧
      kept.toNat = roundQuotient wide.toNat (2 ^ (128 - width)) := by
  rcases Nat.eq_zero_or_pos width with rfl | positive
  · have below := wide.isLt
    have above : BitVec.twoPow 128 127 < wide ↔ 2 ^ 128 < 2 * wide.toNat := by
      change 2 ^ 127 < wide.toNat ↔ _
      omega
    refine ⟨_, rfl, ?_⟩
    rw [roundQuotient_eq, Nat.sub_zero, Nat.div_eq_of_lt below, Nat.mod_eq_of_lt below]
    by_cases more : 2 ^ 128 < 2 * wide.toNat
    · rw [if_pos (above.mpr more), if_pos (.inl more)]
      rfl
    · rw [if_neg (mt above.mp more), if_neg (by omega)]
      rfl
  · have width_toNat : (BitVec.ofInt 32 width).toNat = width := by
      rw [BitVec.ofInt_natCast, BitVec.toNat_ofNat, Nat.mod_eq_of_lt (by omega)]
    have size : (128 : BitVec 32).toNat = 128 := rfl
    obtain ⟨drop, drop_eq, drop_val⟩ :=
      Word.subtract?_of_le (show (BitVec.ofInt 32 width).toNat ≤ (128 : BitVec 32).toNat by omega)
    rw [size, width_toNat] at drop_val
    obtain ⟨kept, kept_eq, kept_val⟩ := cut?_eq wide (show 0 < drop.toNat by omega) (by omega)
    refine ⟨kept, ?_, by rw [kept_val, drop_val]⟩
    rw [keep?, if_neg (by omega), drop_eq]
    exact kept_eq

/-- The values of the format are bits of a word, with room in a word for eleven bits more than a
significand. -/
structure FitsWord (format : BinaryFormat) : Prop extends format.Proper where
  precision_le : format.precision ≤ 53
  infinity_lt : format.infinity < 2 ^ 64

theorem binary32_fitsWord : binary32.FitsWord :=
  ⟨binary32_proper, by decide, by decide⟩

theorem binary64_fitsWord : binary64.FitsWord :=
  ⟨binary64_proper, by decide, by decide⟩

variable {format : BinaryFormat} {x : ℚ} {bits : Nat} {exponent : ℤ}

def inRange? (format : BinaryFormat) (bits : Nat) : Option (BitVec 64) :=
  if bits = 0 ∨ bits = format.infinity then none else some (BitVec.ofNat 64 bits)

theorem inRange?_infinity (format : BinaryFormat) : format.inRange? format.infinity = none :=
  if_pos (.inr rfl)

theorem inRange?_zero (format : BinaryFormat) : format.inRange? 0 = none :=
  if_pos (.inl rfl)

theorem stride_eq (format : BinaryFormat) : format.stride = 2 ^ (format.precision - 1) :=
  rfl

theorem FitsWord.stride_le (fits : format.FitsWord) : format.stride ≤ 2 ^ 52 := by
  have precision := fits.precision_le
  rw [stride_eq]
  exact Nat.pow_le_pow_right (by decide) (by omega)

theorem FitsWord.maxExponent_lt (fits : format.FitsWord) : format.maxExponent < 2 ^ 62 := by
  have infinity_lt := fits.infinity_lt
  have stride : 2 ≤ format.stride := by
    have even := fits.toProper.stride_even
    have positive := format.stride_pos
    omega
  have exponents : (2 * format.maxExponent + 1) * 2 ≤ format.infinity :=
    Nat.mul_le_mul_left _ stride
  omega

theorem FitsWord.leading (fits : format.FitsWord) :
    ∃ leading, Word.shiftLeft? (1 : BitVec 128) (format.precision - 1) = some leading ∧
      leading.toNat = format.stride := by
  have precision := fits.precision_le
  exact Word.shiftLeft?_one (by omega)

private theorem FitsWord.exists_field (fits : format.FitsWord) {binade : Nat}
    (normal : exponent = format.minExponent + binade) (range : exponent ≤ format.maxExponent) :
    ∃ above biased field, Word.signed? (exponent - format.minExponent) = some above ∧
      Word.signed? (above + 1) = some biased ∧
      Word.shiftLeft? (BitVec.ofInt 64 biased) (format.precision - 1) = some field ∧
      field.toNat = (binade + 1) * format.stride := by
  have precision := fits.precision_le
  have infinity_lt := fits.infinity_lt
  have limit := fits.maxExponent_lt
  have least : format.minExponent = 1 - (format.maxExponent : ℤ) := rfl
  have above : exponent - format.minExponent = binade := by omega
  have biased : (binade : ℤ) + 1 = ((binade + 1 : Nat) : ℤ) := by rw [Nat.cast_succ]
  have biased_val : (BitVec.ofInt 64 (binade + 1 : Nat)).toNat = binade + 1 := by
    rw [BitVec.ofInt_natCast, BitVec.toNat_ofNat, Nat.mod_eq_of_lt (by omega)]
  have below : (binade + 1) * format.stride ≤ format.infinity :=
    Nat.mul_le_mul_right _ (by omega)
  obtain ⟨field, field_eq, field_val⟩ :=
    Word.shiftLeft?_of_lt (show format.precision - 1 < 64 by omega)
      (show (BitVec.ofInt 64 (binade + 1 : Nat)).toNat * 2 ^ (format.precision - 1) < 2 ^ 64 by
        rw [biased_val, ← stride_eq]; omega)
  refine ⟨binade, (binade + 1 : Nat), field, ?_, ?_, field_eq, ?_⟩
  · rw [above]
    exact Word.signed?_of_bounds (by omega) (by omega)
  · rw [biased]
    exact Word.signed?_of_bounds (by omega) (by omega)
  · rw [field_val, biased_val, ← stride_eq]

private theorem or_fraction {field : BitVec 64} {fraction : BitVec 128} {field_val : Nat}
    (above : field.toNat = field_val * format.stride) (below : fraction.toNat < format.stride)
    (fits : field_val * format.stride + fraction.toNat < 2 ^ 64) :
    field ||| fraction.setWidth 64 =
      BitVec.ofNat 64 (field_val * format.stride + fraction.toNat) := by
  apply BitVec.eq_of_toNat_eq
  rw [stride_eq] at below
  rw [BitVec.toNat_or, BitVec.toNat_setWidth, BitVec.toNat_ofNat, Nat.mod_eq_of_lt fits,
    Nat.mod_eq_of_lt (by omega), above, stride_eq, Nat.mul_comm,
    Nat.two_pow_add_eq_or_of_lt below]

theorem encode?_eq (fits : format.FitsWord) {significand : BitVec 128} {binade : Nat}
    (normal : exponent = format.minExponent + binade)
    (low : format.stride ≤ significand.toNat) (high : significand.toNat < 2 * format.stride) :
    format.encode? significand exponent =
      some (format.inRange?
        (min (binade * format.stride + significand.toNat) format.infinity)) := by
  have infinity_lt := fits.infinity_lt
  have stride_pos := format.stride_pos
  have least : format.minExponent = 1 - (format.maxExponent : ℤ) := rfl
  have infinity : format.infinity = 2 * format.maxExponent * format.stride + format.stride := by
    rw [BinaryFormat.infinity, Nat.add_mul, Nat.one_mul]
  by_cases overflow : (format.maxExponent : ℤ) < exponent
  · have above : 2 * format.maxExponent * format.stride ≤ binade * format.stride :=
      Nat.mul_le_mul_right _ (by omega)
    rw [encode?, if_pos overflow, min_eq_right (by omega), inRange?_infinity]
  · have below : (binade + 1) * format.stride ≤ 2 * format.maxExponent * format.stride :=
      Nat.mul_le_mul_right _ (by omega)
    have carry : (binade + 1) * format.stride = binade * format.stride + format.stride := by
      rw [Nat.add_mul, Nat.one_mul]
    obtain ⟨leading, leading_eq, leading_val⟩ := fits.leading
    obtain ⟨fraction, fraction_eq, fraction_val⟩ :=
      Word.subtract?_of_le (show leading.toNat ≤ significand.toNat by omega)
    obtain ⟨index, biased, field, index_eq, biased_eq, field_eq, field_val⟩ :=
      fits.exists_field normal (by omega)
    have sum : (binade + 1) * format.stride + fraction.toNat =
        binade * format.stride + significand.toNat := by omega
    have bits := or_fraction field_val (show fraction.toNat < format.stride by omega) (by omega)
    rw [sum] at bits
    rw [encode?, if_neg overflow, min_eq_left (by omega), inRange?, if_neg (by omega), ← bits]
    simp only [Option.bind_eq_bind]
    rw [leading_eq, Option.bind_some, fraction_eq, Option.bind_some, index_eq, Option.bind_some,
      biased_eq, Option.bind_some, field_eq, Option.bind_some]
    rfl

theorem pack?_eq (fits : format.FitsWord) {kept : BitVec 128} {binade : Nat}
    (normal : exponent = format.minExponent + binade) (range : exponent ≤ format.maxExponent)
    (low : format.stride ≤ kept.toNat) (high : kept.toNat ≤ 2 * format.stride) :
    format.pack? kept exponent =
      some (format.inRange? (min (binade * format.stride + kept.toNat) format.infinity)) := by
  have stride_le := fits.stride_le
  obtain ⟨leading, leading_eq, leading_val⟩ := fits.leading
  obtain ⟨carry, carry_eq, carry_val⟩ :=
    Word.shiftLeft?_of_lt (show 1 < 128 by decide) (show leading.toNat * 2 ^ 1 < 2 ^ 128 by omega)
  have run : format.pack? kept exponent =
      if kept = carry then
        (Word.shiftRight? kept 1).bind fun halved =>
          (Word.signed? (exponent + 1)).bind fun next => format.encode? halved next
      else
        format.encode? kept exponent := by
    simp only [pack?, leading_eq, carry_eq, Option.bind_eq_bind, Option.bind_some]
  rw [run]
  split
  case isTrue carried =>
    obtain ⟨halved, halved_eq, halved_val⟩ :=
      Word.shiftRight?_of_lt kept (show 1 < 128 by decide)
    have kept_val : kept.toNat = 2 * format.stride := by
      rw [carried, carry_val, leading_val]
      omega
    have half : halved.toNat = format.stride := by
      rw [halved_val, kept_val]
      omega
    have stride_pos := format.stride_pos
    have bound := fits.maxExponent_lt
    have next : exponent + 1 = format.minExponent + (binade + 1 : Nat) := by omega
    have next_eq : Word.signed? (exponent + 1) = some (exponent + 1) :=
      Word.signed?_of_bounds (by unfold minExponent at next; omega) (by omega)
    rw [halved_eq, Option.bind_some, next_eq, Option.bind_some,
      encode?_eq fits next (by omega) (by omega), kept_val, half]
    congr 3
    ring
  case isFalse plain =>
    have short : kept.toNat ≠ 2 * format.stride := by
      intro full
      apply plain
      apply BitVec.eq_of_toNat_eq
      rw [full, carry_val, leading_val]
      omega
    exact encode?_eq fits normal low (by omega)

end BinaryFormat

/-! ## What follows a word -/

/-- A fraction lies on the same side of every whole number, and meets none unless it is zero. -/
private theorem compare_whole (whole bound : ℤ) {fraction : ℚ} (low : 0 ≤ fraction)
    (high : fraction < 1) :
    ((bound : ℚ) ≤ whole + fraction ↔ bound ≤ whole) ∧
      ((whole + fraction : ℚ) ≤ bound ↔ whole < bound ∨ whole = bound ∧ fraction = 0) ∧
      ((whole + fraction : ℚ) = bound ↔ whole = bound ∧ fraction = 0) := by
  have above : (bound : ℚ) ≤ whole + fraction ↔ bound ≤ whole := by
    constructor
    · intro le
      have less : (bound : ℚ) < (whole + 1 : ℤ) := by
        push_cast
        linarith
      have := Int.cast_lt.mp less
      omega
    · intro le
      have : (bound : ℚ) ≤ whole := by exact_mod_cast le
      linarith
  have meets : (whole + fraction : ℚ) = bound ↔ whole = bound ∧ fraction = 0 := by
    constructor
    · intro equal
      have le := above.mp (le_of_eq equal.symm)
      have ge : (whole : ℚ) ≤ bound := by linarith
      have same : whole = bound := le_antisymm (by exact_mod_cast ge) le
      rw [same] at equal
      exact ⟨same, by linarith⟩
    · rintro ⟨rfl, rfl⟩
      rw [add_zero]
  refine ⟨above, ?_, meets⟩
  rw [le_iff_lt_or_eq, meets, ← not_le, above, not_le]

/-- Rounding a whole number and a fraction after some bits are cut off does not depend on how great
the fraction is, but on whether there is one. -/
private theorem roundsToNat_iff_whole {whole cut n : Nat} {fraction : ℚ} (low : 0 ≤ fraction)
    (high : fraction < 1) :
    RoundsToNat ((whole + fraction) / 2 ^ (cut + 1)) n ↔
      ((2 * n - 1) * 2 ^ cut ≤ (whole : ℤ) ∧
        ((whole : ℤ) < (2 * n + 1) * 2 ^ cut ∨
          (whole : ℤ) = (2 * n + 1) * 2 ^ cut ∧ fraction = 0)) ∧
        ((whole : ℤ) = (2 * n - 1) * 2 ^ cut ∧ fraction = 0 ∨
          (whole : ℤ) = (2 * n + 1) * 2 ^ cut ∧ fraction = 0 → n % 2 = 0) := by
  have power : (0 : ℚ) < 2 ^ cut := by positivity
  have halved : 2 * ((whole + fraction : ℚ) / 2 ^ (cut + 1)) =
      (((whole : ℤ) : ℚ) + fraction) / 2 ^ cut := by
    rw [pow_succ]
    push_cast
    field_simp
  obtain ⟨left, -, left_tie⟩ :=
    compare_whole whole ((2 * n - 1) * 2 ^ cut) low high
  obtain ⟨-, right, right_tie⟩ :=
    compare_whole whole ((2 * n + 1) * 2 ^ cut) low high
  rw [← left, ← right, ← left_tie, ← right_tie, RoundsToNat.iff_bounds, halved,
    le_div_iff₀ power, div_le_iff₀ power, div_eq_iff (ne_of_gt power), div_eq_iff (ne_of_gt power)]
  push_cast
  rfl

/-- A fraction below the bits that are cut off counts only as being there. -/
theorem RoundsToNat.of_sticky {whole cut n : Nat} {fraction fraction' : ℚ} (positive : 0 < cut)
    (low : 0 ≤ fraction) (high : fraction < 1) (low' : 0 ≤ fraction') (high' : fraction' < 1)
    (same : fraction = 0 ↔ fraction' = 0)
    (rounds : RoundsToNat ((whole + fraction) / 2 ^ cut) n) :
    RoundsToNat ((whole + fraction') / 2 ^ cut) n := by
  obtain ⟨more, rfl⟩ : ∃ more, cut = more + 1 := ⟨cut - 1, by omega⟩
  rw [roundsToNat_iff_whole low high, same] at rounds
  exact (roundsToNat_iff_whole low' high').mpr rounds
/-- The word and the bit stand for the number: the word holds its leading bits and the bit says
whether any others follow. -/
structure Held (x : ℚ) (mantissa : BitVec 64) (sticky : Bool) (exponent : ℤ) : Prop where
  leading : 2 ^ 63 ≤ mantissa.toNat
  parts : ∃ (blank whole : Nat) (fraction : ℚ), blank ≤ 10 ∧
    mantissa.toNat = whole * 2 ^ blank ∧ 0 ≤ fraction ∧ fraction < 1 ∧
    (sticky = true ↔ fraction ≠ 0) ∧
    x = (whole + fraction) * 2 ^ blank * 2 ^ (exponent - 63)

namespace Held

variable {x : ℚ} {mantissa : BitVec 64} {sticky : Bool} {exponent : ℤ}

theorem bounds (held : Held x mantissa sticky exponent) :
    (2 : ℚ) ^ exponent ≤ x ∧ x < 2 ^ (exponent + 1) := by
  obtain ⟨blank, whole, fraction, blank_le, word, low, high, -, equal⟩ := held.parts
  have scale : (0 : ℚ) < 2 ^ (exponent - 63) := by positivity
  have shift : (0 : ℚ) < 2 ^ blank := by positivity
  have least : (2 : ℚ) ^ 63 ≤ whole * 2 ^ blank := by
    have leading := held.leading
    rw [word] at leading
    exact_mod_cast leading
  have most : ((whole : ℚ) + 1) * 2 ^ blank ≤ 2 ^ 64 := by
    have parts : 2 ^ 64 = 2 ^ (64 - blank) * 2 ^ blank := by
      rw [← Nat.pow_add]
      congr 1
      omega
    have below := mantissa.isLt
    rw [word, parts] at below
    have fits : (whole + 1) * 2 ^ blank ≤ 2 ^ 64 := by
      rw [parts]
      exact Nat.mul_le_mul_right _ (Nat.lt_of_mul_lt_mul_right below)
    exact_mod_cast fits
  have low_power : (2 : ℚ) ^ exponent = 2 ^ 63 * 2 ^ (exponent - 63) := by
    rw [← zpow_natCast, ← zpow_add₀ (by norm_num)]
    congr 1
    push_cast
    ring
  have high_power : (2 : ℚ) ^ (exponent + 1) = 2 ^ 64 * 2 ^ (exponent - 63) := by
    rw [← zpow_natCast, ← zpow_add₀ (by norm_num)]
    congr 1
    push_cast
    ring
  rw [equal, low_power, high_power]
  constructor
  · refine mul_le_mul_of_nonneg_right (le_trans least ?_) (le_of_lt scale)
    exact mul_le_mul_of_nonneg_right (by linarith) (le_of_lt shift)
  · refine mul_lt_mul_of_pos_right (lt_of_lt_of_le ?_ most) scale
    exact mul_lt_mul_of_pos_right (by linarith) shift

theorem rounds {cut n : Nat} (held : Held x mantissa sticky exponent) (room : 11 ≤ cut)
    (rounded : RoundsToNat
      ((mantissa.toNat * 2 ^ 64 + sticky.toNat : Nat) / (2 ^ (64 + cut) : Nat)) n) :
    RoundsToNat (x / 2 ^ (exponent - 63 + cut)) n := by
  obtain ⟨blank, whole, fraction, blank_le, word, low, high, marked, equal⟩ := held.parts
  obtain ⟨more, rfl⟩ : ∃ more, cut = blank + more := ⟨cut - blank, by omega⟩
  have shift : (2 : ℚ) ^ blank ≠ 0 := by positivity
  have wide : (((mantissa.toNat * 2 ^ 64 + sticky.toNat : Nat) : ℚ) /
      (2 ^ (64 + (blank + more)) : Nat)) =
        (whole + sticky.toNat / 2 ^ (64 + blank)) / 2 ^ more := by
    rw [word, ← add_assoc]
    push_cast
    rw [pow_add _ (64 + blank), pow_add _ 64]
    field_simp
    norm_num
  have number : x / 2 ^ (exponent - 63 + (blank + more : Nat)) = (whole + fraction) / 2 ^ more := by
    rw [equal, zpow_add₀ (by norm_num), zpow_natCast, pow_add]
    have scale : (2 : ℚ) ^ (exponent - 63) ≠ 0 := by positivity
    field_simp
  rw [wide] at rounded
  rw [number]
  have bit_le : (sticky.toNat : ℚ) ≤ 1 := by exact_mod_cast Bool.toNat_le sticky
  have power : (1 : ℚ) < 2 ^ (64 + blank) := one_lt_pow₀ (by norm_num) (by omega)
  refine rounded.of_sticky (by omega) (by positivity) ?_ low high ?_
  · rw [div_lt_one (by linarith)]
    linarith
  · rw [div_eq_zero_iff, or_iff_left (by positivity)]
    cases sticky <;> simp_all

end Held

namespace BinaryFormat

variable {format : BinaryFormat} {x : ℚ} {bits : Nat} {exponent : ℤ} {mantissa : BitVec 64}
  {sticky : Bool}

/-- The bits that are kept are those above the spacing in which the number is rounded. -/
theorem FitsWord.width_cases (fits : format.FitsWord) (exponent : ℤ) :
    format.width exponent < 0 ∧ exponent + 2 ≤ format.unitExponent ∨
      ∃ width : Nat, format.width exponent = width ∧ width ≤ 53 ∧
        max (exponent + 1 - format.precision) format.unitExponent = exponent + 1 - width := by
  have precision := fits.precision
  have precision_le := fits.precision_le
  have infinity_lt := fits.infinity_lt
  have exponents : 2 * format.maxExponent + 1 ≤ format.infinity :=
    Nat.le_mul_of_pos_right _ format.stride_pos
  unfold BinaryFormat.width Word.saturate minExponent unitExponent
  split
  case isTrue normal =>
    exact .inr ⟨format.precision, rfl, precision_le, by omega⟩
  case isFalse subnormal =>
    by_cases empty : format.precision - (1 - (format.maxExponent : ℤ) - exponent) < 0
    · exact .inl (by omega)
    · exact .inr ⟨(format.precision - (1 - (format.maxExponent : ℤ) - exponent)).toNat,
        by omega, by omega, by omega⟩

theorem wide_toNat (mantissa : BitVec 64) (sticky : Bool) :
    ∃ high, Word.shiftLeft? (mantissa.setWidth 128) 64 = some high ∧
      (high ||| (BitVec.ofBool sticky).setWidth 128).toNat =
        mantissa.toNat * 2 ^ 64 + sticky.toNat := by
  have below := mantissa.isLt
  have same : (mantissa.setWidth 128).toNat = mantissa.toNat := by
    rw [BitVec.toNat_setWidth, Nat.mod_eq_of_lt (by omega)]
  obtain ⟨high, equal, val⟩ := Word.shiftLeft?_of_lt (show 64 < 128 by decide)
    (show (mantissa.setWidth 128).toNat * 2 ^ 64 < 2 ^ 128 by rw [same]; omega)
  have bit : ((BitVec.ofBool sticky).setWidth 128).toNat = sticky.toNat := by
    cases sticky <;> rfl
  refine ⟨high, equal, ?_⟩
  rw [BitVec.toNat_or, val, same, bit, Nat.mul_comm,
    Nat.two_pow_add_eq_or_of_lt (by have := Bool.toNat_le sticky; omega)]

/-- The cut word is the number rounded in the spacing of its binade. -/
theorem exists_kept (proper : format.Proper) (held : Held x mantissa sticky exponent)
    {width : Nat} (width_le : width ≤ 53)
    (spaced : max (exponent + 1 - format.precision) format.unitExponent = exponent + 1 - width) :
    ∃ high kept, Word.shiftLeft? (mantissa.setWidth 128) 64 = some high ∧
      keep? (high ||| (BitVec.ofBool sticky).setWidth 128) width = some kept ∧
      format.InBinade x (exponent + 1 - width - format.unitExponent).toNat kept.toNat := by
  obtain ⟨low, high⟩ := held.bounds
  obtain ⟨word, word_eq, wide_val⟩ := wide_toNat mantissa sticky
  obtain ⟨kept, kept_eq, kept_val⟩ :=
    keep?_eq (word ||| (BitVec.ofBool sticky).setWidth 128) (show width ≤ 64 by omega)
  refine ⟨word, kept, word_eq, kept_eq, ?_⟩
  obtain ⟨cut, cut_eq⟩ : ∃ cut, 128 - width = 64 + cut := ⟨64 - width, by omega⟩
  have place : exponent + 1 - width = exponent - 63 + cut := by omega
  have rounded := roundsToNat_roundQuotient (mantissa.toNat * 2 ^ 64 + sticky.toNat)
    (Nat.two_pow_pos (64 + cut))
  have significand := held.rounds (by omega) rounded
  rw [← cut_eq, ← wide_val, ← kept_val, ← place, ← spaced] at significand
  rw [← spaced]
  exact .of_exponent proper low high significand

/-- The bits of a cut word: none for zero, the word itself below the normal values. -/
theorem FitsWord.bits_of_kept (fits : format.FitsWord) {kept : BitVec 128}
    (inside : format.InBinade x
      (max (exponent + 1 - format.precision) format.unitExponent - format.unitExponent).toNat
      kept.toNat)
    (low : (2 : ℚ) ^ exponent ≤ x) (range : exponent ≤ format.maxExponent)
    (rounds : format.Rounds x bits) :
    (if kept = 0 then some none
      else if exponent < format.minExponent then some (some (kept.setWidth 64))
      else format.pack? kept exponent) = some (format.inRange? bits) := by
  have proper := fits.toProper
  have stride_pos := format.stride_pos
  have stride_le := fits.stride_le
  have least : format.unitExponent + format.precision - 1 = format.minExponent := by
    unfold unitExponent minExponent
    omega
  have limit := inside.significand_le
  obtain rfl := rounds.unique (inside.toRounds proper)
  by_cases empty : kept = 0
  · have zero : kept.toNat = 0 := by rw [empty]; rfl
    have lowest := inside.normal.resolve_right (by omega)
    rw [if_pos empty, lowest, zero, Nat.zero_mul, Nat.zero_min, inRange?_zero]
  have nonzero : kept.toNat ≠ 0 := fun zero => empty (BitVec.eq_of_toNat_eq zero)
  rw [if_neg empty]
  by_cases subnormal : exponent < format.minExponent
  · have lowest : max (exponent + 1 - format.precision) format.unitExponent =
        format.unitExponent := by omega
    have finite : kept.toNat < format.infinity := by
      have range := proper.maxExponent
      have three : 3 * format.stride ≤ format.infinity := Nat.mul_le_mul_right _ (by omega)
      omega
    rw [if_pos subnormal, lowest, sub_self, Int.toNat_zero, Nat.zero_mul, Nat.zero_add,
      min_eq_left (Nat.le_of_lt finite), inRange?, if_neg (by omega)]
    rfl
  · obtain ⟨binade, normal⟩ : ∃ binade : Nat, exponent = format.minExponent + binade :=
      ⟨(exponent - format.minExponent).toNat, by omega⟩
    have index : (max (exponent + 1 - format.precision) format.unitExponent -
        format.unitExponent).toNat = binade := by omega
    rw [index] at inside ⊢
    have full : format.stride ≤ kept.toNat := by
      refine inside.rounds.ge_of_ge ?_
      rw [le_div_iff₀ (format.spacing_pos binade), proper.stride_mul_spacing]
      refine le_of_eq_of_le ?_ low
      congr 1
      omega
    rw [if_neg subnormal, pack?_eq fits normal range full limit]

/-- A number in a word is rounded once, and every step has a result. -/
theorem roundWord?_eq (fits : format.FitsWord) (held : Held x mantissa sticky exponent)
    (rounds : format.Rounds x bits) :
    format.roundWord? mantissa sticky exponent = some (format.inRange? bits) := by
  have proper := fits.toProper
  obtain ⟨low, high⟩ := held.bounds
  by_cases large : (format.maxExponent : ℤ) < exponent
  · have infinite : bits = format.infinity := by
      rw [rounds.infinite_iff]
      calc
        format.overflowBound ≤ 2 ^ (format.maxExponent + 1) := format.overflowBound_le
        _ = 2 ^ ((format.maxExponent + 1 : Nat) : ℤ) := by rw [zpow_natCast]
        _ ≤ 2 ^ exponent := zpow_le_zpow_right₀ (by norm_num) (by omega)
        _ ≤ x := low
    rw [roundWord?, if_pos (.inl large), infinite, inRange?_infinity]
  rcases fits.width_cases exponent with ⟨empty, tiny⟩ | ⟨width, width_eq, width_le, spaced⟩
  · have small : 2 * x ≤ format.spacing 0 := by
      have below : 2 * x ≤ 2 ^ (exponent + 2) := by
        have double : (2 : ℚ) ^ (exponent + 2) = 2 * 2 ^ (exponent + 1) := by
          rw [show exponent + 2 = 1 + (exponent + 1) by omega, zpow_add₀ (by norm_num), zpow_one]
        linarith
      exact le_trans below (zpow_le_zpow_right₀ (by norm_num) (by omega))
    have zero : bits = 0 :=
      (rounds.unique (rounds_zero proper (le_trans (by positivity) low) small)).symm
    rw [roundWord?, if_pos (.inr empty), zero, inRange?_zero]
  · obtain ⟨word, kept, word_eq, kept_eq, inside⟩ := exists_kept proper held width_le spaced
    rw [← spaced] at inside
    rw [← fits.bits_of_kept inside low (by omega) rounds, roundWord?, if_neg (by omega), width_eq]
    simp only [word_eq, kept_eq, Option.bind_eq_bind, Option.bind_some]
    rfl

theorem roundWord?_of_far (fits : format.FitsWord)
    (far : 2 ^ 62 ≤ exponent ∨ exponent ≤ 2 ^ 37 - 2 ^ 63) :
    format.roundWord? mantissa sticky exponent = some none := by
  have range := fits.maxExponent_lt
  rw [roundWord?, if_pos]
  rcases far with above | below
  · exact .inl (by omega)
  · rcases fits.width_cases exponent with ⟨empty, -⟩ | ⟨width, -, -, spaced⟩
    · exact .inr empty
    · have precision_le := fits.precision_le
      unfold unitExponent at spaced
      omega

end BinaryFormat

end JavaLex
