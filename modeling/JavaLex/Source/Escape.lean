import JavaLex.Charset.Digit

/-! # Unicode escapes

An escape is a backslash, one or more letters `u` and four hexadecimal digits, which give one
UTF-16 code unit. A high surrogate counts only together with the escape of a low surrogate right
after it, and the two give one supplementary character; any other surrogate is malformed.
-/

namespace JavaLex.Escape

open Charset

/-- The code unit that follows a backslash, with the number of characters that spell it. -/
def codeUnit? (text : List Char) : Option (Nat × Nat) :=
  let marks := (text.takeWhile (· == 'u')).length
  let digits := (text.drop marks).take 4
  if 0 < marks && digits.length == 4 && digits.all (isDigitOf 16) then
    some (valueOf 16 digits, marks + 4)
  else
    none

def isHighSurrogate (unit : Nat) : Bool :=
  0xd800 ≤ unit && unit < 0xdc00

def isLowSurrogate (unit : Nat) : Bool :=
  0xdc00 ≤ unit && unit < 0xe000

def joinSurrogates (high low : Nat) : Char :=
  Char.ofNat (0x10000 + (high - 0xd800) * 0x400 + (low - 0xdc00))

/-- The character that an escape gives, with the number of characters that spell it after the
backslash. -/
def decode? (text : List Char) : Option (Char × Nat) :=
  match codeUnit? text with
  | none => none
  | some (unit, size) =>
      if isHighSurrogate unit then
        match text.drop size with
        | '\\' :: rest =>
            match codeUnit? rest with
            | some (low, lowSize) =>
                if isLowSurrogate low then
                  some (joinSurrogates unit low, size + 1 + lowSize)
                else
                  none
            | none => none
        | _ => none
      else if isLowSurrogate unit then
        none
      else
        some (Char.ofNat unit, size)

end JavaLex.Escape
