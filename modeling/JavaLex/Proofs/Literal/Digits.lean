import JavaLex.Charset.Digit
import Mathlib.Tactic.Ring
import Mathlib.Data.List.Induction

/-! # The number that digits denote

Digits count by their place. Digits that go on shift the ones before them, and a number is zero
only where every digit is.
-/

namespace JavaLex.Charset

theorem valueOf_append (radix : Nat) (digits more : List Char) :
    valueOf radix (digits ++ more) =
      valueOf radix digits * radix ^ more.length + valueOf radix more := by
  induction more using List.reverseRecOn with
  | nil => simp
  | append_singleton more c ih =>
      rw [← List.append_assoc, valueOf_append_singleton, ih, valueOf_append_singleton,
        List.length_append, List.length_singleton, pow_succ]
      ring

theorem valueOf_cons (radix : Nat) (c : Char) (digits : List Char) :
    valueOf radix (c :: digits) =
      (digit? radix c).getD 0 * radix ^ digits.length + valueOf radix digits := by
  rw [← List.singleton_append, valueOf_append]
  simp [valueOf]

theorem valueOf_eq_zero_iff {radix : Nat} (positive : 0 < radix) (digits : List Char) :
    valueOf radix digits = 0 ↔ ∀ c ∈ digits, (digit? radix c).getD 0 = 0 := by
  have radix_ne : radix ≠ 0 := Nat.ne_of_gt positive
  induction digits with
  | nil => simp
  | cons c digits ih => simp [valueOf_cons, ih, radix_ne]

theorem eq_zero_of_getD_digit? {radix : Nat} {c : Char} (digit : isDigitOf radix c = true)
    (zero : (digit? radix c).getD 0 = 0) : c = '0' := by
  have code : c.toNat = '0'.toNat := by
    have low := (bounds_of_isDigitOf digit).1
    unfold isDigitOf digit? at digit
    unfold digit? at zero
    by_cases number : c.isDigit = true
    · simp only [number, if_true] at digit zero
      split at zero
      · change c.toNat - '0'.toNat = 0 at zero
        omega
      · simp_all
    · by_cases small : c.isLower = true
      · simp_all
      · by_cases capital : c.isUpper = true
        · simp_all
        · simp_all
  exact Char.toNat_inj.mp code

end JavaLex.Charset
