import JavaLex.Literal.Numeral

/-! # Hexadecimal floats in machine words

A hexadecimal float is rounded in words of fixed width. Sixteen significant digits go into a word
of 64 bits, one more bit says whether any later digit counts, and the exponent is a signed number
of 64 bits that saturates. A step outside the range of its word has no result, so `none` on the
outside marks a fault of the arithmetic and `none` inside a number out of range.
-/

namespace JavaLex

open Charset

/-! ## Words -/

namespace Word

/-- Bits pushed out at the top are lost; the amount is less than the width. -/
def shiftLeft? (word : BitVec width) (amount : Nat) : Option (BitVec width) :=
  if amount < width then some (word <<< amount) else none

/-- Bits pushed out at the bottom are lost; the amount is less than the width. -/
def shiftRight? (word : BitVec width) (amount : Nat) : Option (BitVec width) :=
  if amount < width then some (word >>> amount) else none

def add? (left right : BitVec width) : Option (BitVec width) :=
  if left.toNat + right.toNat < Nat.pow 2 width then some (left + right) else none

def subtract? (left right : BitVec width) : Option (BitVec width) :=
  if right ≤ left then some (left - right) else none

def leadingZeros (word : BitVec width) : Nat :=
  if word = 0 then width else width - 1 - word.toNat.log2

def saturate (number : Int) : Int :=
  max (-9223372036854775808) (min number 9223372036854775807)

def signed? (number : Int) : Option Int :=
  if saturate number = number then some number else none

end Word

/-! ## Rounding -/

namespace BinaryFormat

def minExponent (format : BinaryFormat) : Int :=
  1 - (format.maxExponent : Int)

/-- How many bits are kept of a number with the given exponent; subnormal values have fewer. -/
def width (format : BinaryFormat) (exponent : Int) : Int :=
  if format.minExponent ≤ exponent then
    format.precision
  else
    Word.saturate (format.precision - Word.saturate (format.minExponent - exponent))

/-- A word without its lower bits, rounded to the nearest with ties to even. -/
def cut? (wide : BitVec 128) (drop : BitVec 32) : Option (BitVec 128) := do
  let kept ← Word.shiftRight? wide drop.toNat
  let unit ← Word.shiftLeft? 1 drop.toNat
  let mask ← Word.subtract? unit 1
  let place ← Word.subtract? drop 1
  let half ← Word.shiftLeft? 1 place.toNat
  let rest := wide &&& mask
  if half < rest ∨ rest = half ∧ kept &&& 1 = 1 then
    Word.add? kept 1
  else
    return kept

/-- The top bits of a word, rounded. With no bits left there is nothing to shift, and only a word
above the tie counts. -/
def keep? (wide : BitVec 128) (width : Int) : Option (BitVec 128) :=
  if width = 0 then
    some (if BitVec.twoPow 128 127 < wide then 1 else 0)
  else do
    let drop ← Word.subtract? 128 (BitVec.ofInt 32 width)
    cut? wide drop

def encode? (format : BinaryFormat) (significand : BitVec 128) (exponent : Int) :
    Option (Option (BitVec 64)) :=
  if (format.maxExponent : Int) < exponent then
    some none
  else do
    let leading ← Word.shiftLeft? 1 (format.precision - 1)
    let fraction ← Word.subtract? significand leading
    let binade ← Word.signed? (exponent - format.minExponent)
    let biased ← Word.signed? (binade + 1)
    let field ← Word.shiftLeft? (BitVec.ofInt 64 biased) (format.precision - 1)
    return some (field ||| fraction.setWidth 64)

/-- The bits of a rounded significand. One that was rounded up to the next power of two moves to
the next exponent. -/
def pack? (format : BinaryFormat) (kept : BitVec 128) (exponent : Int) :
    Option (Option (BitVec 64)) := do
  let leading ← Word.shiftLeft? 1 (format.precision - 1)
  let carry ← Word.shiftLeft? leading 1
  if kept = carry then
    let halved ← Word.shiftRight? kept 1
    let next ← Word.signed? (exponent + 1)
    format.encode? halved next
  else
    format.encode? kept exponent

/-- Rounds a number whose leading 64 bits are the word; `sticky` says whether lower ones follow. -/
def roundWord? (format : BinaryFormat) (mantissa : BitVec 64) (sticky : Bool) (exponent : Int) :
    Option (Option (BitVec 64)) :=
  let width := format.width exponent
  if (format.maxExponent : Int) < exponent ∨ width < 0 then
    some none
  else do
    let high ← Word.shiftLeft? (mantissa.setWidth 128) 64
    let kept ← keep? (high ||| (BitVec.ofBool sticky).setWidth 128) width
    if kept = 0 then
      return none
    else if exponent < format.minExponent then
      return some (kept.setWidth 64)
    else
      format.pack? kept exponent

end BinaryFormat

/-! ## Literals -/

structure HexFloat where
  whole : List Char
  fraction : List Char
  sign : Option Char
  power : List Char
  /-- The literal is a `double` and not a `float`. -/
  double : Bool
  hexadecimal : (whole ++ fraction).all (isDigitOf 16) = true
  digits_ne_nil : whole ++ fraction ≠ []
  signed : sign.all (fun c => c == '+' || c == '-') = true
  decimal : power.all (isDigitOf 10) = true
  power_ne_nil : power ≠ []
deriving DecidableEq, Repr

namespace HexFloat

def digits (float : HexFloat) : List Char :=
  float.whole ++ float.fraction

def exponent (float : HexFloat) : Int :=
  let size : Int := valueOf 10 float.power
  if float.sign = some '-' then -size else size

def numeral (float : HexFloat) : Numeral :=
  .floating (valueOf 16 float.digits) 2 (float.exponent - 4 * float.fraction.length) float.double

def suffix (float : HexFloat) : List Char :=
  if float.double then [] else ['f']

def text (float : HexFloat) : List Char :=
  '0' :: 'x' :: (float.whole ++ '.' :: (float.fraction ++ 'p' ::
    (float.sign.toList ++ (float.power ++ float.suffix))))

def format (float : HexFloat) : BinaryFormat :=
  if float.double then .binary64 else .binary32

def value (float : HexFloat) (bits : BitVec 64) : Kind × Literal :=
  if float.double then (.doubleLiteral, .double bits)
  else (.floatLiteral, .float (bits.setWidth 32))

def significant (float : HexFloat) : List Char :=
  float.digits.dropWhile (· == '0')

def pushDigit (word : BitVec 64) (c : Char) : BitVec 64 :=
  (word <<< 4) ||| BitVec.ofNat 64 ((digit? 16 c).getD 0)

def mantissa (float : HexFloat) : BitVec 64 :=
  (float.significant.take 16).foldl pushDigit 0

def sticky (float : HexFloat) : Bool :=
  (float.significant.drop 16).any fun c => (digit? 16 c).getD 0 != 0

/-- The exponent of the leading bit, when every step saturates: that of the literal, moved by the
digits that are dropped, by the places after the point and by the shift of the word. -/
def saturatingExponent (exponent dropped places shift : Int) : Int :=
  let scale := Word.saturate (Word.saturate exponent + dropped)
  let scale := Word.saturate (Word.saturate (scale - places) - shift)
  Word.saturate (scale + 63)

def window? (float : HexFloat) : Option (Option (Kind × Literal)) :=
  if float.significant = [] then
    some (some (float.value 0))
  else do
    let shift := Word.leadingZeros float.mantissa
    let mantissa ← Word.shiftLeft? float.mantissa shift
    let dropped ← Word.signed? (4 * (float.significant.length - 16 : Nat))
    let places ← Word.signed? (4 * float.fraction.length)
    let exponent := saturatingExponent float.exponent dropped places shift
    let bits ← float.format.roundWord? mantissa float.sticky exponent
    return bits.map float.value

end HexFloat

end JavaLex
