import JavaLex.Literal.Rounding
import Mathlib.Algebra.Order.Field.Power
import Mathlib.Algebra.Order.Field.Rat
import Mathlib.Order.Monotone.Basic
import Mathlib.Tactic.FieldSimp
import Mathlib.Tactic.Linarith
import Mathlib.Tactic.Positivity
import Mathlib.Tactic.Ring

/-! # Numbers that bits denote

`BinaryFormat.Rounds` says what the bits of a number are in IEEE 754: those of the nearest finite
value, the even ones of two, and infinity from half a unit past the greatest value on. No number
has two such bits. `InBinade.toRounds` finds them: a number is rounded by rounding it to a whole
multiple of the spacing in its binade.
-/

namespace JavaLex

/-! ## Rounding to a natural number -/

/-- The natural number is nearest to the number, and even if another one is as near. -/
structure RoundsToNat (x : ℚ) (n : Nat) : Prop where
  near : |x - n| ≤ 1 / 2
  even : |x - n| = 1 / 2 → n % 2 = 0

namespace RoundsToNat

variable {x : ℚ} {n other : Nat}

/-- Rounding compares the number with the two halves beside the result. -/
theorem iff_bounds :
    RoundsToNat x n ↔
      (2 * n - 1 ≤ 2 * x ∧ 2 * x ≤ 2 * n + 1) ∧
        (2 * x = 2 * n - 1 ∨ 2 * x = 2 * n + 1 → n % 2 = 0) := by
  have tie : |x - n| = 1 / 2 ↔ 2 * x = 2 * n - 1 ∨ 2 * x = 2 * n + 1 := by
    rw [abs_eq (by norm_num)]
    constructor
    · rintro (above | below)
      · exact .inr (by linarith)
      · exact .inl (by linarith)
    · rintro (below | above)
      · exact .inr (by linarith)
      · exact .inl (by linarith)
  have near : |x - n| ≤ 1 / 2 ↔ 2 * n - 1 ≤ 2 * x ∧ 2 * x ≤ 2 * n + 1 := by
    rw [abs_le]
    constructor
    · rintro ⟨below, above⟩
      exact ⟨by linarith, by linarith⟩
    · rintro ⟨below, above⟩
      exact ⟨by linarith, by linarith⟩
  rw [← tie, ← near]
  exact ⟨fun rounds => ⟨rounds.near, rounds.even⟩, fun rounds => ⟨rounds.1, rounds.2⟩⟩

theorem div_iff {numerator denominator : Nat} (positive : 0 < denominator) :
    RoundsToNat (numerator / denominator) n ↔
      (2 * (n * denominator) ≤ 2 * numerator + denominator ∧
        2 * numerator ≤ 2 * (n * denominator) + denominator) ∧
        (2 * (n * denominator) = 2 * numerator + denominator ∨
          2 * numerator = 2 * (n * denominator) + denominator → n % 2 = 0) := by
  have denominator_pos : (0 : ℚ) < denominator := by exact_mod_cast positive
  have scaled : 2 * ((numerator : ℚ) / denominator) = 2 * numerator / denominator := by ring
  have left : ((2 * n - 1 : ℚ) ≤ 2 * numerator / denominator) ↔
      2 * (n * denominator) ≤ 2 * numerator + denominator := by
    rw [le_div_iff₀ denominator_pos, ← @Nat.cast_le ℚ]
    push_cast
    constructor <;> intro bound <;> linarith
  have right : (2 * numerator / denominator ≤ (2 * n + 1 : ℚ)) ↔
      2 * numerator ≤ 2 * (n * denominator) + denominator := by
    rw [div_le_iff₀ denominator_pos, ← @Nat.cast_le ℚ]
    push_cast
    constructor <;> intro bound <;> linarith
  have left_tie : (2 * numerator / denominator = (2 * n - 1 : ℚ)) ↔
      2 * (n * denominator) = 2 * numerator + denominator := by
    rw [div_eq_iff (ne_of_gt denominator_pos), ← @Nat.cast_inj ℚ]
    push_cast
    constructor <;> intro bound <;> linarith
  have right_tie : (2 * numerator / denominator = (2 * n + 1 : ℚ)) ↔
      2 * numerator = 2 * (n * denominator) + denominator := by
    rw [div_eq_iff (ne_of_gt denominator_pos), ← @Nat.cast_inj ℚ]
    push_cast
    constructor <;> intro bound <;> linarith
  rw [iff_bounds, scaled, left, right, left_tie, right_tie]

private theorem one_le_add (apart : other ≠ n) : 1 ≤ |x - n| + |x - other| := by
  have whole : (1 : ℤ) ≤ |(n : ℤ) - other| :=
    Int.one_le_abs (sub_ne_zero.mpr (by exact_mod_cast apart.symm))
  calc
    (1 : ℚ) ≤ |(n : ℚ) - other| := by exact_mod_cast whole
    _ = |(x - other) - (x - n)| := by congr 1; ring
    _ ≤ |x - other| + |x - n| := abs_sub _ _
    _ = |x - n| + |x - other| := add_comm _ _

theorem le_abs_sub (rounds : RoundsToNat x n) (other : Nat) : |x - n| ≤ |x - other| := by
  rcases eq_or_ne other n with rfl | apart
  · exact le_refl _
  · have total := one_le_add (x := x) apart
    have near := rounds.near
    linarith

theorem even_of_tie (rounds : RoundsToNat x n) (apart : other ≠ n)
    (tie : |x - other| = |x - n|) : n % 2 = 0 := by
  have total := one_le_add (x := x) apart
  have near := rounds.near
  exact rounds.even (by linarith)

/-- Rounding keeps the number below any natural number that it does not reach. -/
theorem le_of_le (rounds : RoundsToNat x n) (bound : x ≤ other) : n ≤ other := by
  have near := (abs_le.mp rounds.near).1
  have below : (n : ℚ) < (other + 1 : Nat) := by
    push_cast
    linarith
  have := Nat.cast_lt.mp below
  omega

theorem ge_of_ge (rounds : RoundsToNat x n) (bound : (other : ℚ) ≤ x) : other ≤ n := by
  have near := (abs_le.mp rounds.near).2
  have above : (other : ℚ) < (n + 1 : Nat) := by
    push_cast
    linarith
  have := Nat.cast_lt.mp above
  omega

end RoundsToNat

namespace BinaryFormat

/-! ## Values -/

/-- Distance between the values of a binade; the least normal binade has that of the subnormal
values. -/
def spacing (format : BinaryFormat) (binade : Nat) : ℚ :=
  2 ^ (format.unitExponent + binade)

/-- The number that the bits of a finite value denote. A field of zero for the exponent makes it
subnormal: it has no leading bit beside its fraction. -/
def value (format : BinaryFormat) (bits : Nat) : ℚ :=
  if bits / format.stride = 0 then
    (bits % format.stride : Nat) * format.spacing 0
  else
    (format.stride + bits % format.stride : Nat) * format.spacing (bits / format.stride - 1)

structure Proper (format : BinaryFormat) : Prop where
  precision : 2 ≤ format.precision
  maxExponent : 1 ≤ format.maxExponent

theorem binary32_proper : binary32.Proper :=
  ⟨by decide, by decide⟩

theorem binary64_proper : binary64.Proper :=
  ⟨by decide, by decide⟩

variable {format : BinaryFormat} {x : ℚ} {bits : Nat}

theorem stride_pos (format : BinaryFormat) : 0 < format.stride :=
  Nat.pow_pos (by decide)

theorem Proper.stride_even (proper : format.Proper) : format.stride % 2 = 0 := by
  have precision := proper.precision
  obtain ⟨rest, equal⟩ : ∃ rest, format.precision - 1 = rest + 1 := ⟨format.precision - 2, by omega⟩
  have double : format.stride = 2 * Nat.pow 2 rest := by
    rw [stride, equal]
    exact Nat.pow_succ'
  omega

theorem spacing_pos (format : BinaryFormat) (binade : Nat) : 0 < format.spacing binade :=
  zpow_pos (by norm_num) _

theorem spacing_add (format : BinaryFormat) (binade more : Nat) :
    format.spacing (binade + more) = 2 ^ more * format.spacing binade := by
  rw [spacing, spacing, ← zpow_natCast, ← zpow_add₀ (by norm_num)]
  congr 1
  push_cast
  ring

theorem spacing_succ (format : BinaryFormat) (binade : Nat) :
    format.spacing (binade + 1) = 2 * format.spacing binade := by
  rw [spacing_add, pow_one]

theorem spacing_le_spacing (format : BinaryFormat) {lower upper : Nat} (below : lower ≤ upper) :
    format.spacing lower ≤ format.spacing upper :=
  zpow_le_zpow_right₀ (by norm_num) (by omega)

/-- Bits are a significand and one stride for each binade above the subnormal one. -/
theorem value_eq {binade significand : Nat} (normal : binade = 0 ∨ format.stride ≤ significand)
    (bound : significand ≤ 2 * format.stride) :
    format.value (binade * format.stride + significand) = significand * format.spacing binade := by
  have positive := format.stride_pos
  have of_lt : ∀ binade significand : Nat, binade = 0 ∨ format.stride ≤ significand →
      significand < 2 * format.stride →
      format.value (binade * format.stride + significand) =
        significand * format.spacing binade := by
    intro binade significand normal bound
    by_cases subnormal : significand < format.stride
    · have lowest : binade = 0 := by omega
      subst lowest
      simp [value, Nat.div_eq_of_lt subnormal, Nat.mod_eq_of_lt subnormal]
    · obtain ⟨fraction, rfl⟩ := Nat.exists_eq_add_of_le (Nat.le_of_not_lt subnormal)
      have small : fraction < format.stride := by omega
      have bits : binade * format.stride + (format.stride + fraction) =
          fraction + (binade + 1) * format.stride := by ring
      simp [value, bits, Nat.add_mul_div_right _ _ positive, Nat.div_eq_of_lt small,
        Nat.mod_eq_of_lt small]
  by_cases carry : significand = 2 * format.stride
  · subst carry
    have bits : binade * format.stride + 2 * format.stride =
        (binade + 1) * format.stride + format.stride := by ring
    rw [bits, of_lt _ _ (.inr (Nat.le_refl _)) (by omega), spacing_succ]
    push_cast
    ring
  · exact of_lt _ _ normal (by omega)

theorem exists_significand (format : BinaryFormat) (bits : Nat) :
    ∃ binade significand, bits = binade * format.stride + significand ∧
      significand < 2 * format.stride ∧ (binade = 0 ∨ format.stride ≤ significand) := by
  have positive := format.stride_pos
  have rest := Nat.mod_lt bits positive
  have parts := Nat.div_add_mod' bits format.stride
  rcases Nat.eq_zero_or_pos (bits / format.stride) with zero | above
  · rw [zero] at parts
    exact ⟨0, bits, by simp, by omega, .inl rfl⟩
  · obtain ⟨binade, equal⟩ : ∃ binade, bits / format.stride = binade + 1 :=
      ⟨bits / format.stride - 1, by omega⟩
    rw [equal, Nat.add_mul] at parts
    exact ⟨binade, format.stride + bits % format.stride, by omega, by omega, .inr (by omega)⟩

theorem value_lt_value_succ (format : BinaryFormat) (bits : Nat) :
    format.value bits < format.value (bits + 1) := by
  obtain ⟨binade, significand, rfl, bound, normal⟩ := format.exists_significand bits
  have positive := format.spacing_pos binade
  rw [Nat.add_assoc, value_eq normal (by omega), value_eq (by omega) (by omega)]
  push_cast
  linarith

theorem strictMono_value (format : BinaryFormat) : StrictMono format.value :=
  strictMono_nat_of_lt_succ format.value_lt_value_succ

/-- Numbers from half a unit past the greatest finite value on are rounded to infinity. -/
def overflowBound (format : BinaryFormat) : ℚ :=
  (2 - (1 / 2) ^ format.precision) * 2 ^ format.maxExponent

/-- The bits are those of the number, rounded once to the nearest with ties to even. -/
structure Rounds (format : BinaryFormat) (x : ℚ) (bits : Nat) : Prop where
  le_infinity : bits ≤ format.infinity
  infinite_iff : bits = format.infinity ↔ format.overflowBound ≤ x
  nearest : bits < format.infinity →
    ∀ other < format.infinity, |x - format.value bits| ≤ |x - format.value other|
  even : bits < format.infinity →
    ∀ other < format.infinity, other ≠ bits →
      |x - format.value other| = |x - format.value bits| → bits % 2 = 0

namespace Rounds

/-- The values beside a number that has two nearest ones stand next to each other. -/
private theorem succ_eq_of_tie {other : Nat} (rounds : format.Rounds x bits)
    (finite : bits < format.infinity) (above : bits < other)
    (other_finite : other < format.infinity)
    (tie : |x - format.value other| = |x - format.value bits|) : other = bits + 1 := by
  by_contra apart
  have between : bits + 1 < other := by omega
  have low := format.strictMono_value (Nat.lt_succ_self bits)
  have high := format.strictMono_value between
  have nearest := rounds.nearest finite (bits + 1) (by omega)
  have half : 2 * x = format.value bits + format.value other := by
    rcases abs_eq_abs.mp tie with same | opposite
    · exact absurd same (by linarith)
    · linarith
  have left : |x - format.value bits| = (format.value other - format.value bits) / 2 := by
    rw [abs_of_nonneg (by linarith)]
    linarith
  have right : |x - format.value (bits + 1)| < (format.value other - format.value bits) / 2 := by
    rw [abs_lt]
    constructor <;> linarith
  linarith

private theorem not_lt {other : Nat} (rounds : format.Rounds x bits)
    (rounds' : format.Rounds x other) : ¬ bits < other := by
  intro above
  by_cases infinite : other = format.infinity
  · have overflow := rounds'.infinite_iff.mp infinite
    have := rounds.infinite_iff.mpr overflow
    omega
  · have other_finite : other < format.infinity :=
      Nat.lt_of_le_of_ne rounds'.le_infinity infinite
    have finite : bits < format.infinity := Nat.lt_trans above other_finite
    have tie : |x - format.value other| = |x - format.value bits| :=
      le_antisymm (rounds'.nearest other_finite bits finite)
        (rounds.nearest finite other other_finite)
    have next := succ_eq_of_tie rounds finite above other_finite tie
    have even := rounds.even finite other other_finite (by omega) tie
    have even' := rounds'.even other_finite bits finite (by omega) tie.symm
    omega

theorem unique {other : Nat} (rounds : format.Rounds x bits) (rounds' : format.Rounds x other) :
    other = bits := by
  have left := not_lt rounds rounds'
  have right := not_lt rounds' rounds
  omega

end Rounds

/-! ## Rounding in a binade -/

def topBinade (format : BinaryFormat) : Nat :=
  2 * format.maxExponent - 1

theorem Proper.infinity_eq (proper : format.Proper) :
    format.infinity = format.topBinade * format.stride + 2 * format.stride := by
  have range := proper.maxExponent
  rw [infinity, topBinade, ← Nat.add_mul]
  congr 1
  omega

theorem Proper.overflowBound_eq (proper : format.Proper) :
    format.overflowBound = (2 * format.stride - 1 / 2) * format.spacing format.topBinade := by
  have precision := proper.precision
  have range := proper.maxExponent
  obtain ⟨rest, equal⟩ : ∃ rest, format.precision = rest + 1 := ⟨format.precision - 1, by omega⟩
  have exponent : format.unitExponent + (format.topBinade : ℤ) =
      format.maxExponent + (-rest : ℤ) := by
    rw [unitExponent, topBinade, equal]
    omega
  have stride : ((format.stride : Nat) : ℚ) = 2 ^ rest := by
    rw [BinaryFormat.stride, equal, Nat.add_sub_cancel, Nat.pow_eq]
    push_cast
    rfl
  rw [overflowBound, spacing, exponent, zpow_add₀ (by norm_num), zpow_natCast, zpow_neg,
    zpow_natCast, stride, equal, pow_succ, one_div, inv_pow]
  have power : (2 : ℚ) ^ rest ≠ 0 := by positivity
  field_simp

/-- A number whose binade the format can hold, rounded in the spacing of that binade. -/
structure InBinade (format : BinaryFormat) (x : ℚ) (binade significand : Nat) : Prop where
  lower : binade = 0 ∨ format.stride * format.spacing binade ≤ x
  upper : x < 2 * format.stride * format.spacing binade
  rounds : RoundsToNat (x / format.spacing binade) significand

namespace InBinade

variable {binade significand : Nat}

theorem normal (inside : format.InBinade x binade significand) :
    binade = 0 ∨ format.stride ≤ significand := by
  refine inside.lower.imp_right fun lower => inside.rounds.ge_of_ge ?_
  rw [le_div_iff₀ (format.spacing_pos binade)]
  exact lower

theorem significand_le (inside : format.InBinade x binade significand) :
    significand ≤ 2 * format.stride := by
  refine inside.rounds.le_of_le ?_
  rw [div_le_iff₀ (format.spacing_pos binade)]
  push_cast
  exact le_of_lt inside.upper

theorem value_eq (inside : format.InBinade x binade significand) :
    format.value (binade * format.stride + significand) = significand * format.spacing binade :=
  BinaryFormat.value_eq inside.normal inside.significand_le

/-- Distances from the number are those from its multiple of the spacing. -/
theorem abs_sub_mul (format : BinaryFormat) (x : ℚ) (binade n : Nat) :
    |x - n * format.spacing binade| = |x / format.spacing binade - n| * format.spacing binade := by
  have positive := format.spacing_pos binade
  have factor : x - n * format.spacing binade =
      (x / format.spacing binade - n) * format.spacing binade := by
    rw [sub_mul, div_mul_cancel₀ _ (ne_of_gt positive)]
  rw [factor, abs_mul, abs_of_pos positive]

theorem value_lt_of_lower (format : BinaryFormat) {lower binade other : Nat}
    (below : lower < binade) (bound : other < 2 * format.stride) :
    other * format.spacing lower < format.stride * format.spacing binade := by
  obtain ⟨more, rfl⟩ := Nat.exists_eq_add_of_lt below
  have positive := format.spacing_pos lower
  have doubles : (1 : ℚ) ≤ 2 ^ more := one_le_pow₀ (by norm_num)
  have small : (other : ℚ) < 2 * format.stride := by exact_mod_cast bound
  have stride_nonneg : (0 : ℚ) ≤ format.stride := Nat.cast_nonneg _
  calc
    (other : ℚ) * format.spacing lower < 2 * format.stride * format.spacing lower := by
      exact mul_lt_mul_of_pos_right small positive
    _ ≤ 2 * format.stride * format.spacing lower * 2 ^ more :=
      le_mul_of_one_le_right (by positivity) doubles
    _ = format.stride * format.spacing (lower + more + 1) := by
      rw [Nat.add_assoc, spacing_add, pow_succ]
      ring

theorem nearest (inside : format.InBinade x binade significand) (other : Nat) :
    |x - format.value (binade * format.stride + significand)| ≤ |x - format.value other| ∧
      (other ≠ binade * format.stride + significand →
        |x - format.value other| =
          |x - format.value (binade * format.stride + significand)| →
        significand % 2 = 0) := by
  have positive := format.spacing_pos binade
  rw [inside.value_eq, abs_sub_mul]
  obtain ⟨level, digits, bits, bound, normal⟩ := format.exists_significand other
  have other_value : format.value other = digits * format.spacing level := by
    rw [bits, BinaryFormat.value_eq normal (by omega)]
  by_cases below : level < binade
  · -- the least value of the binade is nearer than any of a lower binade
    have gap := value_lt_of_lower format below bound
    have lower : format.stride * format.spacing binade ≤ x :=
      inside.lower.resolve_left (by omega)
    have strict : |x / format.spacing binade - significand| * format.spacing binade <
        |x - format.value other| := by
      calc
        |x / format.spacing binade - significand| * format.spacing binade ≤
            |x / format.spacing binade - format.stride| * format.spacing binade :=
          mul_le_mul_of_nonneg_right (inside.rounds.le_abs_sub _) (le_of_lt positive)
        _ = |x - format.stride * format.spacing binade| := (abs_sub_mul format x binade _).symm
        _ = x - format.stride * format.spacing binade := abs_of_nonneg (by linarith)
        _ < x - format.value other := by rw [other_value]; linarith
        _ ≤ |x - format.value other| := le_abs_self _
    exact ⟨le_of_lt strict, fun _ tie => absurd tie (ne_of_gt strict)⟩
  · -- the value is a multiple of the spacing
    obtain ⟨more, rfl⟩ := Nat.exists_eq_add_of_le (Nat.le_of_not_lt below)
    have multiple : format.value other =
        ((digits * 2 ^ more : Nat) : ℚ) * format.spacing binade := by
      rw [other_value, spacing_add]
      push_cast
      ring
    rw [multiple, abs_sub_mul]
    refine ⟨mul_le_mul_of_nonneg_right (inside.rounds.le_abs_sub _) (le_of_lt positive),
      fun apart tie => inside.rounds.even_of_tie ?_ (mul_right_cancel₀ (ne_of_gt positive) tie)⟩
    rintro same
    apply apart
    apply format.strictMono_value.injective
    rw [multiple, same, inside.value_eq]

private theorem below_top (inside : format.InBinade x binade significand)
    (proper : format.Proper) (below : binade < format.topBinade) :
    binade * format.stride + significand < format.infinity ∧ x < format.overflowBound := by
  have limit := inside.significand_le
  have positive := format.spacing_pos format.topBinade
  have stride_pos : (1 : ℚ) ≤ format.stride := by exact_mod_cast format.stride_pos
  have bits : (binade + 1) * format.stride ≤ format.topBinade * format.stride :=
    Nat.mul_le_mul_right _ below
  rw [Nat.add_mul, Nat.one_mul] at bits
  have small : 2 * format.spacing binade ≤ format.spacing format.topBinade := by
    rw [← spacing_succ]
    exact format.spacing_le_spacing below
  rw [proper.infinity_eq, proper.overflowBound_eq]
  refine ⟨by have := format.stride_pos; omega, ?_⟩
  calc
    x < format.stride * (2 * format.spacing binade) := by
      rw [← mul_assoc, mul_comm (format.stride : ℚ)]
      exact inside.upper
    _ ≤ format.stride * format.spacing format.topBinade :=
      mul_le_mul_of_nonneg_left small (by linarith)
    _ ≤ (2 * format.stride - 1 / 2) * format.spacing format.topBinade :=
      mul_le_mul_of_nonneg_right (by linarith) (le_of_lt positive)

private theorem above_top (inside : format.InBinade x binade significand)
    (proper : format.Proper) (above : format.topBinade < binade) :
    format.infinity ≤ binade * format.stride + significand ∧ format.overflowBound ≤ x := by
  have normal := inside.normal.resolve_left (by omega)
  have lower := inside.lower.resolve_left (by omega)
  have positive := format.spacing_pos format.topBinade
  have stride_pos : (1 : ℚ) ≤ format.stride := by exact_mod_cast format.stride_pos
  have bits : (format.topBinade + 1) * format.stride ≤ binade * format.stride :=
    Nat.mul_le_mul_right _ above
  rw [Nat.add_mul, Nat.one_mul] at bits
  have large : 2 * format.spacing format.topBinade ≤ format.spacing binade := by
    rw [← spacing_succ]
    exact format.spacing_le_spacing above
  rw [proper.infinity_eq, proper.overflowBound_eq]
  refine ⟨by omega, ?_⟩
  calc
    (2 * format.stride - 1 / 2) * format.spacing format.topBinade ≤
        2 * format.stride * format.spacing format.topBinade :=
      mul_le_mul_of_nonneg_right (by linarith) (le_of_lt positive)
    _ = format.stride * (2 * format.spacing format.topBinade) := by ring
    _ ≤ format.stride * format.spacing binade := mul_le_mul_of_nonneg_left large (by linarith)
    _ ≤ x := lower

/-- In the top binade only a carry out of the significand overflows. -/
private theorem at_top (inside : format.InBinade x format.topBinade significand)
    (proper : format.Proper) :
    2 * format.stride ≤ significand ↔ format.overflowBound ≤ x := by
  have inner := RoundsToNat.iff_bounds.mp inside.rounds
  rw [proper.overflowBound_eq, ← le_div_iff₀ (format.spacing_pos format.topBinade)]
  constructor
  · intro full
    have carried : (significand : ℚ) = 2 * format.stride := by
      exact_mod_cast Nat.le_antisymm inside.significand_le full
    have low := inner.1.1
    linarith
  · -- half a unit below the carry is a tie, which the greatest significand loses, being odd
    intro past
    by_contra short
    have whole : (significand : ℚ) + 1 ≤ 2 * format.stride := by
      exact_mod_cast (by omega : significand + 1 ≤ 2 * format.stride)
    have high := inner.1.2
    have last : (significand : ℚ) + 1 = 2 * format.stride := by linarith
    have last_nat : significand + 1 = 2 * format.stride := by exact_mod_cast last
    have parity := inner.2 (.inr (by linarith))
    omega

theorem infinity_le_iff (inside : format.InBinade x binade significand) (proper : format.Proper) :
    format.infinity ≤ binade * format.stride + significand ↔ format.overflowBound ≤ x := by
  rcases Nat.lt_trichotomy binade format.topBinade with below | rfl | above
  · have finite := below_top inside proper below
    exact iff_of_false (Nat.not_le.mpr finite.1) (not_le.mpr finite.2)
  · rw [proper.infinity_eq, Nat.add_le_add_iff_left]
    exact at_top inside proper
  · have infinite := above_top inside proper above
    exact iff_of_true infinite.1 infinite.2

theorem toRounds (inside : format.InBinade x binade significand) (proper : format.Proper) :
    format.Rounds x (min (binade * format.stride + significand) format.infinity) := by
  have overflow := inside.infinity_le_iff proper
  by_cases infinite : format.infinity ≤ binade * format.stride + significand
  · rw [min_eq_right infinite]
    exact ⟨Nat.le_refl _, iff_of_true rfl (overflow.mp infinite),
      fun finite => absurd finite (Nat.lt_irrefl _),
      fun finite => absurd finite (Nat.lt_irrefl _)⟩
  · rw [min_eq_left (by omega)]
    refine ⟨by omega, iff_of_false (by omega) (mt overflow.mpr infinite), ?_, ?_⟩
    · intro _ other _
      exact (inside.nearest other).1
    · intro _ other _ apart tie
      have even := (inside.nearest other).2 apart tie
      have stride_even : binade * format.stride % 2 = 0 := by
        rw [Nat.mul_mod, proper.stride_even, Nat.mul_zero, Nat.zero_mod]
      omega

end InBinade

theorem Proper.stride_mul_spacing (proper : format.Proper) (binade : Nat) :
    format.stride * format.spacing binade =
      2 ^ (format.precision - 1 + format.unitExponent + binade : ℤ) := by
  have precision := proper.precision
  have stride : ((format.stride : Nat) : ℚ) = 2 ^ ((format.precision : ℤ) - 1) := by
    rw [BinaryFormat.stride, Nat.pow_eq, Nat.cast_pow, ← zpow_natCast, Nat.cast_sub (by omega)]
    rfl
  rw [stride, spacing, ← zpow_add₀ (by norm_num), add_assoc]

/-- The spacing in which a number between two powers of two is rounded: that of its precision, or
the least one. -/
theorem InBinade.of_exponent {exponent : ℤ} {significand : Nat} (proper : format.Proper)
    (low : (2 : ℚ) ^ exponent ≤ x) (high : x < (2 : ℚ) ^ (exponent + 1))
    (rounds : RoundsToNat
      (x / 2 ^ max (exponent + 1 - format.precision) format.unitExponent) significand) :
    format.InBinade x
      (max (exponent + 1 - format.precision) format.unitExponent - format.unitExponent).toNat
      significand := by
  obtain ⟨binade, equal⟩ : ∃ binade : Nat,
      max (exponent + 1 - format.precision) format.unitExponent = format.unitExponent + binade :=
    ⟨(max (exponent + 1 - format.precision) format.unitExponent - format.unitExponent).toNat,
      by omega⟩
  rw [equal] at rounds ⊢
  rw [add_sub_cancel_left, Int.toNat_natCast]
  refine ⟨?_, ?_, rounds⟩
  · rcases Nat.eq_zero_or_pos binade with lowest | above
    · exact .inl lowest
    · refine .inr (le_of_eq_of_le ?_ low)
      rw [proper.stride_mul_spacing]
      congr 1
      omega
  · rw [mul_assoc, proper.stride_mul_spacing]
    calc
      x < 2 ^ (exponent + 1) := high
      _ ≤ (2 : ℚ) ^ (1 + (format.precision - 1 + format.unitExponent + binade) : ℤ) :=
        zpow_le_zpow_right₀ (by norm_num) (by omega)
      _ = 2 * 2 ^ (format.precision - 1 + format.unitExponent + binade : ℤ) := by
        rw [zpow_add₀ (by norm_num), zpow_one]

end BinaryFormat

end JavaLex
