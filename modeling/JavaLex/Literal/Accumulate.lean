import JavaLex.Literal.Window

/-! # Integers in machine words

The digits of an integer literal are put together in a word of 64 bits. A number that leaves the
word is out of range, as is one above the limit of its type, and a word within the limit is cut to
the width of its type.
-/

namespace JavaLex

open Charset

def Word.multiply? (left right : BitVec width) : Option (BitVec width) :=
  if left.toNat * right.toNat < Nat.pow 2 width then some (left * right) else none

namespace Numeral

def pushDigit (radix : Nat) (word : BitVec 64) (c : Char) : Except Cause (BitVec 64) := do
  let some digit := digit? radix c | throw .malformedNumber
  let some shifted := Word.multiply? word (BitVec.ofNat 64 radix) | throw .numberOutOfRange
  let some sum := Word.add? shifted (BitVec.ofNat 64 digit) | throw .numberOutOfRange
  return sum

def integerInWords (radix : Nat) (digits : List Char) (long : Bool) :
    Except Cause (Kind × Literal) := do
  let word ← digits.foldlM (pushDigit radix) 0
  if BitVec.ofNat 64 (integerLimit radix long) < word then
    throw .numberOutOfRange
  else if long then
    return (.longLiteral, .long word)
  else
    return (.intLiteral, .int (word.setWidth 32))

end Numeral

end JavaLex
