/-! # Rounding to binary floating point

A ratio of natural numbers is rounded once, to nearest with ties to even, straight into the bits
of an IEEE 754 format. Significands are measured in the unit of their binade, so the bits of a
rounded value are its significand plus one stride for each binade above the subnormal one; a
significand that rounds up to the next power of two carries into the exponent by itself.
-/

namespace JavaLex

structure BinaryFormat where
  /-- Bits of a significand, the leading one included. -/
  precision : Nat
  /-- The greatest exponent of a finite value. -/
  maxExponent : Nat
deriving DecidableEq, Repr, Inhabited

namespace BinaryFormat

def binary32 : BinaryFormat := ⟨24, 127⟩

def binary64 : BinaryFormat := ⟨53, 1023⟩

/-- Exponent of the least positive value: every value is a multiple of two to this power. -/
def unitExponent (format : BinaryFormat) : Int :=
  2 - (format.maxExponent : Int) - format.precision

/-- Distance between the bits of a value and of its double. -/
def stride (format : BinaryFormat) : Nat :=
  Nat.pow 2 (format.precision - 1)

def infinity (format : BinaryFormat) : Nat :=
  (2 * format.maxExponent + 1) * format.stride

/-- The quotient rounded to the nearest natural number, a half to the even one. -/
def roundQuotient (numerator denominator : Nat) : Nat :=
  let quotient := numerator / denominator
  let rest := 2 * (numerator % denominator)
  if denominator < rest || (rest == denominator && quotient % 2 == 1) then
    quotient + 1
  else
    quotient

def scaleDown (numerator denominator : Nat) (exponent : Int) : Nat × Nat :=
  (numerator * Nat.pow 2 (-exponent).toNat, denominator * Nat.pow 2 exponent.toNat)

def binade (numerator denominator : Nat) : Int :=
  let guess : Int := (numerator.log2 : Int) - denominator.log2
  let (high, low) := scaleDown numerator denominator guess
  if high < low then guess - 1 else guess

/-- The bits nearest to a positive ratio, with no bound on the exponent. -/
def nearest (format : BinaryFormat) (numerator denominator : Nat) : Nat :=
  let exponent :=
    max (binade numerator denominator + 1 - format.precision) format.unitExponent
  let (high, low) := scaleDown numerator denominator exponent
  (exponent - format.unitExponent).toNat * format.stride + roundQuotient high low

/-- The bits nearest to a positive ratio, unless that is zero or infinity. -/
def round? (format : BinaryFormat) (numerator denominator : Nat) : Option Nat :=
  let bits := format.nearest numerator denominator
  if bits == 0 || format.infinity ≤ bits then none else some bits

def reach (format : BinaryFormat) : Nat :=
  format.maxExponent + format.precision

/-- The bits nearest to `digits * base ^ exponent`, unless a number that is not zero would become
zero or infinity. An exponent that decides the matter alone is not raised to. -/
def ofScaled? (format : BinaryFormat) (digits base : Nat) (exponent : Int) : Option Nat :=
  if digits == 0 then
    some 0
  else if (format.reach : Int) ≤ exponent ||
      exponent + digits.log2 + 1 ≤ -(format.reach : Int) then
    none
  else
    format.round? (digits * Nat.pow base exponent.toNat) (Nat.pow base (-exponent).toNat)

end BinaryFormat

end JavaLex
