import JavaLex.Proofs.Literal.Nearest

/-! # Bits of a ratio

The bits that `BinaryFormat.nearest` gives for a ratio are those of its value, and
`BinaryFormat.ofScaled?` gives a literal the bits of its number unless those are of zero or
infinity, whatever way it takes.
-/

namespace JavaLex

namespace BinaryFormat

variable {format : BinaryFormat} {x : ℚ} {bits : Nat}

theorem roundQuotient_eq (numerator denominator : Nat) :
    roundQuotient numerator denominator =
      if denominator < 2 * (numerator % denominator) ∨
          2 * (numerator % denominator) = denominator ∧ numerator / denominator % 2 = 1 then
        numerator / denominator + 1
      else
        numerator / denominator := by
  simp [roundQuotient]

theorem roundsToNat_roundQuotient (numerator : Nat) {denominator : Nat}
    (positive : 0 < denominator) :
    RoundsToNat (numerator / denominator) (roundQuotient numerator denominator) := by
  have parts := Nat.div_add_mod' numerator denominator
  have rest := Nat.mod_lt numerator positive
  rw [RoundsToNat.div_iff positive, roundQuotient_eq]
  split
  case isTrue up =>
    rw [Nat.add_mul, Nat.one_mul]
    omega
  case isFalse down =>
    omega

private theorem zpow_eq_div {base : ℚ} (base_ne : base ≠ 0) (exponent : ℤ) :
    base ^ exponent = base ^ exponent.toNat / base ^ (-exponent).toNat := by
  rw [← zpow_natCast, ← zpow_natCast, ← zpow_sub₀ base_ne]
  congr 1
  omega

theorem cast_scaleDown (numerator denominator : Nat) (exponent : ℤ) :
    ((scaleDown numerator denominator exponent).1 : ℚ) /
        (scaleDown numerator denominator exponent).2 =
      (numerator / denominator : ℚ) / 2 ^ exponent := by
  rw [scaleDown, zpow_eq_div (by norm_num)]
  push_cast [Nat.pow_eq]
  rw [div_div_div_eq, mul_comm (denominator : ℚ)]

theorem scaleDown_snd_pos (numerator : Nat) {denominator : Nat} (positive : 0 < denominator)
    (exponent : ℤ) : 0 < (scaleDown numerator denominator exponent).2 :=
  Nat.mul_pos positive (Nat.pow_pos (by decide))

private theorem log2_bounds {n : Nat} (positive : 0 < n) :
    (2 : ℚ) ^ (n.log2 : ℤ) ≤ n ∧ (n : ℚ) < 2 ^ (n.log2 + 1 : ℤ) := by
  constructor
  · rw [zpow_natCast]
    exact_mod_cast Nat.log2_self_le (Nat.ne_of_gt positive)
  · rw [show (n.log2 + 1 : ℤ) = ((n.log2 + 1 : Nat) : ℤ) by omega, zpow_natCast]
    exact_mod_cast Nat.lt_log2_self

theorem binade_spec {numerator denominator : Nat} (numerator_pos : 0 < numerator)
    (denominator_pos : 0 < denominator) :
    (2 : ℚ) ^ binade numerator denominator ≤ numerator / denominator ∧
      (numerator / denominator : ℚ) < 2 ^ (binade numerator denominator + 1) := by
  obtain ⟨numerator_low, numerator_high⟩ := log2_bounds numerator_pos
  obtain ⟨denominator_low, denominator_high⟩ := log2_bounds denominator_pos
  have positive : (0 : ℚ) < denominator := by exact_mod_cast denominator_pos
  obtain ⟨guess, guess_eq⟩ : ∃ guess : ℤ, (numerator.log2 : ℤ) - denominator.log2 = guess :=
    ⟨_, rfl⟩
  have low : (2 : ℚ) ^ (guess - 1) ≤ numerator / denominator := by
    rw [le_div_iff₀ positive]
    calc
      (2 : ℚ) ^ (guess - 1) * denominator ≤ 2 ^ (guess - 1) * 2 ^ (denominator.log2 + 1 : ℤ) :=
        mul_le_mul_of_nonneg_left (le_of_lt denominator_high) (by positivity)
      _ = 2 ^ (numerator.log2 : ℤ) := by
        rw [← zpow_add₀ (by norm_num)]
        congr 1
        omega
      _ ≤ numerator := numerator_low
  have high : (numerator / denominator : ℚ) < 2 ^ (guess + 1) := by
    rw [div_lt_iff₀ positive]
    calc
      (numerator : ℚ) < 2 ^ (numerator.log2 + 1 : ℤ) := numerator_high
      _ = 2 ^ (guess + 1) * 2 ^ (denominator.log2 : ℤ) := by
        rw [← zpow_add₀ (by norm_num)]
        congr 1
        omega
      _ ≤ 2 ^ (guess + 1) * denominator :=
        mul_le_mul_of_nonneg_left denominator_low (by positivity)
  have compare : (scaleDown numerator denominator guess).1 <
      (scaleDown numerator denominator guess).2 ↔
        (numerator / denominator : ℚ) < 2 ^ guess := by
    have scaled_pos : (0 : ℚ) < (scaleDown numerator denominator guess).2 := by
      exact_mod_cast scaleDown_snd_pos numerator denominator_pos guess
    have ratio := cast_scaleDown numerator denominator guess
    rw [← @Nat.cast_lt ℚ, ← div_lt_one scaled_pos, ratio, div_lt_one (by positivity)]
  unfold binade
  rw [guess_eq]
  dsimp only
  split
  case isTrue less =>
    rw [Int.sub_add_cancel]
    exact ⟨low, compare.mp less⟩
  case isFalse more =>
    exact ⟨not_lt.mp (mt compare.mpr more), high⟩

theorem rounds_nearest (proper : format.Proper) {numerator denominator : Nat}
    (numerator_pos : 0 < numerator) (denominator_pos : 0 < denominator) :
    format.Rounds (numerator / denominator)
      (min (format.nearest numerator denominator) format.infinity) := by
  obtain ⟨low, high⟩ := binade_spec numerator_pos denominator_pos
  refine InBinade.toRounds (InBinade.of_exponent proper low high ?_) proper
  rw [← cast_scaleDown]
  exact roundsToNat_roundQuotient _ (scaleDown_snd_pos _ denominator_pos _)

/-- A number of at most half the least positive value is rounded to zero. -/
theorem rounds_zero (proper : format.Proper) (nonneg : 0 ≤ x) (small : 2 * x ≤ format.spacing 0) :
    format.Rounds x 0 := by
  have positive := format.spacing_pos 0
  have stride_pos : (1 : ℚ) ≤ format.stride := by exact_mod_cast format.stride_pos
  have ratio_nonneg : 0 ≤ x / format.spacing 0 := div_nonneg nonneg (le_of_lt positive)
  have ratio_small : x / format.spacing 0 ≤ 1 / 2 := by
    rw [div_le_iff₀ positive]
    linarith
  have inside : format.InBinade x 0 0 := by
    refine ⟨.inl rfl, ?_, RoundsToNat.iff_bounds.mpr ⟨?_, ?_⟩⟩
    · have : format.spacing 0 ≤ 2 * format.stride * format.spacing 0 :=
        le_mul_of_one_le_left (le_of_lt positive) (by linarith)
      linarith
    · push_cast
      constructor <;> linarith
    · intro _
      rfl
  simpa using inside.toRounds proper

theorem Rounds.eq_zero (proper : format.Proper) (rounds : format.Rounds 0 bits) : bits = 0 :=
  (rounds.unique
    (rounds_zero proper (le_refl _) (by simpa using le_of_lt (format.spacing_pos 0)))).symm

theorem infinity_pos (format : BinaryFormat) : 0 < format.infinity :=
  Nat.mul_pos (Nat.succ_pos _) format.stride_pos

/-- There are bits for every number. -/
theorem exists_rounds (proper : format.Proper) (nonneg : 0 ≤ x) :
    ∃ bits, format.Rounds x bits := by
  rcases eq_or_lt_of_le nonneg with rfl | positive
  · exact ⟨0, rounds_zero proper (le_refl _) (by simpa using le_of_lt (format.spacing_pos 0))⟩
  · have numerator_pos : 0 < x.num.toNat := by
      have := Rat.num_pos.mpr positive
      omega
    have ratio : ((x.num.toNat : Nat) : ℚ) / (x.den : Nat) = x := by
      have whole : ((x.num.toNat : Nat) : ℤ) = x.num := by omega
      rw [← Int.cast_natCast, whole, Rat.num_div_den]
    exact ⟨_, ratio ▸ rounds_nearest proper numerator_pos x.den_pos⟩

theorem round?_eq (proper : format.Proper) {numerator denominator : Nat}
    (numerator_pos : 0 < numerator) (denominator_pos : 0 < denominator)
    (rounds : format.Rounds (numerator / denominator) bits) :
    format.round? numerator denominator =
      if bits = 0 ∨ bits = format.infinity then none else some bits := by
  have positive := format.infinity_pos
  obtain rfl := rounds.unique (rounds_nearest proper numerator_pos denominator_pos)
  unfold round?
  dsimp only
  by_cases infinite : format.infinity ≤ format.nearest numerator denominator
  · simp [infinite]
  · have finite : format.nearest numerator denominator ≠ format.infinity := by omega
    have least : min (format.nearest numerator denominator) format.infinity =
        format.nearest numerator denominator := by omega
    simp [infinite, finite, least]

theorem overflowBound_le (format : BinaryFormat) :
    format.overflowBound ≤ 2 ^ (format.maxExponent + 1) := by
  rw [overflowBound, pow_succ, mul_comm]
  refine mul_le_mul_of_nonneg_left ?_ (by positivity)
  have : (0 : ℚ) < (1 / 2) ^ format.precision := by positivity
  linarith

/-- A scale as great as the reach of the format makes a number infinite. -/
private theorem eq_infinity_of_reach (proper : format.Proper) {digits base : Nat} {exponent : ℤ}
    (radix : 2 ≤ base) (rounds : format.Rounds (digits * base ^ exponent) bits)
    (positive : 0 < digits) (large : (format.reach : ℤ) ≤ exponent) : bits = format.infinity := by
  have precision := proper.precision
  obtain ⟨power, rfl⟩ := Int.eq_ofNat_of_zero_le (a := exponent) (by omega)
  rw [rounds.infinite_iff]
  have digits_ge : (1 : ℚ) ≤ digits := by exact_mod_cast positive
  have base_ge : (2 : ℚ) ≤ base := by exact_mod_cast radix
  calc
    format.overflowBound ≤ 2 ^ (format.maxExponent + 1) := format.overflowBound_le
    _ ≤ 2 ^ power := pow_le_pow_right₀ (by norm_num) (by unfold reach at large; omega)
    _ ≤ (base : ℚ) ^ power := pow_le_pow_left₀ (by norm_num) base_ge power
    _ ≤ digits * (base : ℚ) ^ power := le_mul_of_one_le_left (by positivity) digits_ge
    _ = digits * (base : ℚ) ^ (power : ℤ) := by rw [zpow_natCast]

private theorem eq_zero_of_reach (proper : format.Proper) {digits base : Nat} {exponent : ℤ}
    (radix : 2 ≤ base) (rounds : format.Rounds (digits * base ^ exponent) bits)
    (positive : 0 < digits) (small : exponent + digits.log2 + 1 ≤ -(format.reach : ℤ)) :
    bits = 0 := by
  have base_ge : (2 : ℚ) ≤ base := by exact_mod_cast radix
  have base_pos : (0 : ℚ) < base := by linarith
  have power : (base : ℚ) ^ exponent ≤ 2 ^ exponent := by
    obtain ⟨size, equal⟩ : ∃ size : Nat, exponent = -size := ⟨(-exponent).toNat, by omega⟩
    rw [equal, zpow_neg, zpow_neg, zpow_natCast, zpow_natCast]
    exact inv_anti₀ (by positivity) (pow_le_pow_left₀ (by norm_num) base_ge size)
  have tiny : (digits * base ^ exponent : ℚ) < 2 ^ (-(format.reach : ℤ)) := by
    calc
      (digits * base ^ exponent : ℚ) ≤ digits * 2 ^ exponent :=
        mul_le_mul_of_nonneg_left power (by positivity)
      _ < 2 ^ (digits.log2 + 1 : ℤ) * 2 ^ exponent :=
        mul_lt_mul_of_pos_right (log2_bounds positive).2 (by positivity)
      _ = 2 ^ (exponent + digits.log2 + 1) := by
        rw [← zpow_add₀ (by norm_num)]
        congr 1
        ring
      _ ≤ 2 ^ (-(format.reach : ℤ)) := zpow_le_zpow_right₀ (by norm_num) small
  have quarter : (4 : ℚ) * 2 ^ (-(format.reach : ℤ)) = format.spacing 0 := by
    rw [spacing, show (4 : ℚ) = 2 ^ (2 : ℤ) by norm_num, ← zpow_add₀ (by norm_num)]
    congr 1
    unfold reach unitExponent
    omega
  have power_pos : (0 : ℚ) < 2 ^ (-(format.reach : ℤ)) := by positivity
  exact (rounds.unique (rounds_zero proper (by positivity) (by linarith))).symm

/-- The value that a literal is given: none for a number other than zero that the format takes for
zero or infinity. -/
theorem ofScaled?_eq (proper : format.Proper) {digits base : Nat} {exponent : ℤ}
    (radix : 2 ≤ base) (rounds : format.Rounds (digits * base ^ exponent) bits) :
    format.ofScaled? digits base exponent =
      if digits ≠ 0 ∧ (bits = 0 ∨ bits = format.infinity) then none else some bits := by
  have base_pos : 0 < base := by omega
  rcases Nat.eq_zero_or_pos digits with rfl | positive
  · have zero : bits = 0 := by
      refine (rounds.unique ?_).symm
      rw [Nat.cast_zero, zero_mul]
      exact rounds_zero proper (le_refl _) (by simpa using le_of_lt (format.spacing_pos 0))
    simp [ofScaled?, zero]
  have nonzero : digits ≠ 0 := Nat.ne_of_gt positive
  unfold ofScaled?
  rw [if_neg (by simpa using nonzero)]
  split
  case isTrue decided =>
    simp only [Bool.or_eq_true, decide_eq_true_eq] at decided
    rcases decided with large | small
    · have infinite := eq_infinity_of_reach proper radix rounds positive large
      simp [nonzero, infinite]
    · have zero := eq_zero_of_reach proper radix rounds positive small
      simp [nonzero, zero]
  case isFalse _ =>
    have base_ne : (base : ℚ) ≠ 0 := by exact_mod_cast Nat.ne_of_gt base_pos
    have ratio : (digits * base ^ exponent : ℚ) =
        ((digits * Nat.pow base exponent.toNat : Nat) : ℚ) /
          (Nat.pow base (-exponent).toNat : Nat) := by
      rw [zpow_eq_div base_ne]
      push_cast [Nat.pow_eq]
      rw [mul_div_assoc]
    have scale_pos : ∀ size, 0 < Nat.pow base size := fun _ => Nat.pow_pos base_pos
    rw [ratio] at rounds
    rw [round?_eq proper (Nat.mul_pos positive (scale_pos _)) (scale_pos _) rounds]
    simp [nonzero]

end BinaryFormat

end JavaLex
