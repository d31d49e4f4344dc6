/-! # Digits

Digits of a radix up to thirty-six, with letters of either case standing for ten and above, and
the number that a row of them denotes.
-/

namespace JavaLex.Charset

def digit? (radix : Nat) (c : Char) : Option Nat :=
  let value :=
    if c.isDigit then c.toNat - '0'.toNat
    else if c.isLower then c.toNat - 'a'.toNat + 10
    else if c.isUpper then c.toNat - 'A'.toNat + 10
    else radix
  if value < radix then some value else none

def isDigitOf (radix : Nat) (c : Char) : Bool :=
  (digit? radix c).isSome

/-- Digits of any radix are ASCII, from zero up to the last small letter. -/
theorem bounds_of_isDigitOf {radix : Nat} {c : Char} (digit : isDigitOf radix c = true) :
    '0'.toNat ≤ c.toNat ∧ c.toNat ≤ 'z'.toNat := by
  by_cases number : c.isDigit = true
  · simp only [Char.isDigit, Bool.and_eq_true, decide_eq_true_eq] at number
    exact ⟨number.1, Nat.le_trans number.2 (by decide)⟩
  by_cases small : c.isLower = true
  · have bounds := Bool.and_eq_true_iff.mp small
    have low : 'a'.toNat ≤ c.toNat := of_decide_eq_true bounds.1
    have high : c.toNat ≤ 'z'.toNat := of_decide_eq_true bounds.2
    exact ⟨Nat.le_trans (by decide) low, high⟩
  by_cases capital : c.isUpper = true
  · have bounds : 'A'.toNat ≤ c.toNat ∧ c.toNat ≤ 'Z'.toNat := of_decide_eq_true capital
    exact ⟨Nat.le_trans (by decide) bounds.1, Nat.le_trans bounds.2 (by decide)⟩
  simp [isDigitOf, digit?, number, small, capital] at digit

theorem isDigitOf_mono {radix other : Nat} (le : radix ≤ other) {c : Char}
    (digit : isDigitOf radix c = true) : isDigitOf other c = true := by
  simp only [isDigitOf, digit?, Option.isSome_ite] at digit ⊢
  grind

/-- The number that digits denote, the most significant one first. -/
def valueOf (radix : Nat) (digits : List Char) : Nat :=
  digits.foldl (fun value c => value * radix + (digit? radix c).getD 0) 0

@[simp] theorem valueOf_nil (radix : Nat) : valueOf radix [] = 0 := rfl

theorem valueOf_append_singleton (radix : Nat) (digits : List Char) (c : Char) :
    valueOf radix (digits ++ [c]) = valueOf radix digits * radix + (digit? radix c).getD 0 := by
  simp [valueOf]

theorem getD_digit?_lt {radix : Nat} (positive : 0 < radix) (c : Char) :
    (digit? radix c).getD 0 < radix := by
  unfold digit?
  extract_lets value
  split
  · assumption
  · exact positive

/-- A number is below the power of the radix that its digits span. -/
theorem valueOf_lt {radix : Nat} (positive : 0 < radix) (digits : List Char) :
    valueOf radix digits < Nat.pow radix digits.length := by
  have general : ∀ value,
      digits.foldl (fun value c => value * radix + (digit? radix c).getD 0) value <
        (value + 1) * Nat.pow radix digits.length := by
    induction digits with
    | nil => simp
    | cons c digits ih =>
        intro value
        have digit := getD_digit?_lt positive c
        have step : value * radix + (digit? radix c).getD 0 + 1 ≤ (value + 1) * radix := by
          rw [Nat.add_mul]
          omega
        calc
          _ < (value * radix + (digit? radix c).getD 0 + 1) * Nat.pow radix digits.length := ih _
          _ ≤ (value + 1) * radix * Nat.pow radix digits.length := Nat.mul_le_mul_right _ step
          _ = (value + 1) * Nat.pow radix (c :: digits).length := by
            rw [Nat.mul_assoc, Nat.mul_comm radix]
            rfl
  simpa [valueOf] using general 0

end JavaLex.Charset
