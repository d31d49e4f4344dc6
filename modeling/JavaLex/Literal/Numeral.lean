import JavaLex.Charset.Digit
import JavaLex.Charset.Identifier
import JavaLex.Error
import JavaLex.Literal.Reader
import JavaLex.Literal.Rounding
import JavaLex.Token.Kind
import JavaLex.Token.Literal

/-! # Numeric literals

Integers in radix two, eight, ten and sixteen, and decimal and hexadecimal floating-point numbers.
An underscore may stand only between two digits, and no identifier character may follow a literal.
A literal is read into a numeral, which is then turned into a value of its type.
-/

namespace JavaLex

open Charset

inductive Numeral where
  /-- Digits in a radix, for a `long` or an `int`. -/
  | integer (radix : Nat) (digits : List Char) (long : Bool)
  /-- The number `digits * base ^ exponent`, for a `double` or a `float`. -/
  | floating (digits base : Nat) (exponent : Int) (double : Bool)
deriving DecidableEq, Repr

namespace Numeral

/-- Each underscore stands between two digits; `before` says whether a digit stands right before
the text. -/
def separated (before : Bool) : List Char → Bool
  | [] => before
  | c :: rest => if c == '_' then before && separated false rest else separated true rest

/-- The longest run of digits and underscores, without the underscores. -/
def digitGroup (radix : Nat) : Reader (List Char) := fun text =>
  let run := text.takeWhile fun c => isDigitOf radix c || c == '_'
  if run.isEmpty || separated false run then
    ⟨some (run.filter (· != '_')), run.length⟩
  else
    ⟨none, run.length⟩

def exponent : Reader Int := do
  let sign ← Reader.takeIf fun c => c == '+' || c == '-'
  let digits ← digitGroup 10
  Reader.require !digits.isEmpty
  let size : Int := valueOf 10 digits
  return if sign == some '-' then -size else size

def ending : Reader Unit := do
  let next ← Reader.next?
  Reader.require !next.any isIdentifierPart

def longSuffix : Reader Bool := do
  let letter ← Reader.takeIf fun c => c == 'l' || c == 'L'
  return letter.isSome

/-- The letter that makes a number a `float` (false) or a `double` (true). -/
def floatSuffix : Reader (Option Bool) := do
  let letter ← Reader.takeIf fun c => c == 'f' || c == 'F' || c == 'd' || c == 'D'
  return letter.map fun c => c == 'd' || c == 'D'

/-- Digits without a mark of their radix: a zero in front of more digits makes them octal. -/
def unmarked (digits : List Char) (long : Bool) : Reader Numeral :=
  if digits.head? == some '0' && 1 < digits.length then do
    Reader.require (digits.all (isDigitOf 8))
    return .integer 8 digits long
  else
    return .integer 10 digits long

def decimal : Reader Numeral := do
  let whole ← digitGroup 10
  let point ← Reader.takeIf (· == '.')
  let fraction ← if point.isSome then digitGroup 10 else pure []
  let mark ← Reader.takeIf fun c => c == 'e' || c == 'E'
  let power ← if mark.isSome then exponent else pure 0
  let suffix ← floatSuffix
  if point.isSome || mark.isSome || suffix.isSome then
    ending
    return .floating (valueOf 10 (whole ++ fraction)) 10 (power - fraction.length)
      (suffix.getD true)
  else
    let long ← longSuffix
    ending
    unmarked whole long

def hexadecimal : Reader Numeral := do
  let whole ← digitGroup 16
  let next ← Reader.next?
  if next.any fun c => c == '.' || c == 'p' || c == 'P' then
    let point ← Reader.takeIf (· == '.')
    let fraction ← if point.isSome then digitGroup 16 else pure []
    Reader.require !(whole ++ fraction).isEmpty
    let mark ← Reader.takeIf fun c => c == 'p' || c == 'P'
    Reader.require mark.isSome
    let power ← exponent
    let suffix ← floatSuffix
    ending
    return .floating (valueOf 16 (whole ++ fraction)) 2 (power - 4 * fraction.length)
      (suffix.getD true)
  else
    Reader.require !whole.isEmpty
    let long ← longSuffix
    ending
    return .integer 16 whole long

def binary : Reader Numeral := do
  let digits ← digitGroup 2
  Reader.require !digits.isEmpty
  let long ← longSuffix
  ending
  return .integer 2 digits long

def read : Reader Numeral := fun text =>
  match text with
  | '0' :: mark :: rest =>
      if mark == 'x' || mark == 'X' then
        let reading := hexadecimal rest
        ⟨reading.value, reading.size + 2⟩
      else if mark == 'b' || mark == 'B' then
        let reading := binary rest
        ⟨reading.value, reading.size + 2⟩
      else
        decimal text
  | _ => decimal text

/-- The greatest number that an integer literal may denote. Decimal literals reach one beyond the
greatest value of their type, for use under a minus sign; the others may set every bit. -/
def integerLimit (radix : Nat) (long : Bool) : Nat :=
  match long, radix == 10 with
  | false, true => Nat.pow 2 31
  | false, false => Nat.pow 2 32 - 1
  | true, true => Nat.pow 2 63
  | true, false => Nat.pow 2 64 - 1

/-- The value of a numeral and the kind of its token, unless it is out of range. -/
def value? : Numeral → Option (Kind × Literal)
  | integer radix digits long =>
      let number := valueOf radix digits
      if integerLimit radix long < number then none
      else if long then some (.longLiteral, .long (BitVec.ofNat 64 number))
      else some (.intLiteral, .int (BitVec.ofNat 32 number))
  | floating digits base exponent true =>
      (BinaryFormat.binary64.ofScaled? digits base exponent).map fun bits =>
        (.doubleLiteral, .double (BitVec.ofNat 64 bits))
  | floating digits base exponent false =>
      (BinaryFormat.binary32.ofScaled? digits base exponent).map fun bits =>
        (.floatLiteral, .float (BitVec.ofNat 32 bits))

/-- Characters that recovery takes after a faulty literal: identifier characters, and points
before a digit. -/
def tailSize : List Char → Nat
  | [] => 0
  | c :: rest =>
      if isIdentifierPart c || (c == '.' && rest.head?.any Char.isDigit) then tailSize rest + 1
      else 0

/-- The kind and value of a numeric literal or why it has none, with the characters it takes. -/
def scan (text : List Char) : Except Cause (Kind × Literal) × Nat :=
  let reading := read text
  match reading.value with
  | none => (.error .malformedNumber, reading.size + tailSize (text.drop reading.size))
  | some numeral =>
      match numeral.value? with
      | some result => (.ok result, reading.size)
      | none => (.error .numberOutOfRange, reading.size + tailSize (text.drop reading.size))

/-! ## Progress -/

theorem size_digitGroup (radix : Nat) (text : List Char) :
    (digitGroup radix text).size =
      (text.takeWhile fun c => isDigitOf radix c || c == '_').length := by
  unfold digitGroup
  dsimp only
  split <;> rfl

theorem isDigitOf_ten {c : Char} (digit : c.isDigit = true) : isDigitOf 10 c = true := by
  have : c.toNat - '0'.toNat < 10 := by
    simp only [Char.isDigit, Bool.and_eq_true, decide_eq_true_eq, ge_iff_le] at digit
    have upper : c.toNat ≤ 57 := digit.2
    change c.toNat - 48 < 10
    omega
  simpa [isDigitOf, digit?, digit] using this

theorem size_decimal_pos {c : Char} {rest : List Char} (start : c.isDigit = true ∨ c = '.') :
    0 < (decimal (c :: rest)).size := by
  unfold decimal
  rcases start with digit | rfl
  · refine Nat.lt_of_lt_of_le ?_ (Reader.size_le_size_bind (digitGroup 10) _ _)
    simp [size_digitGroup, isDigitOf_ten digit]
  · rw [Reader.bind_of_some (by rfl : digitGroup 10 ('.' :: rest) = ⟨some [], 0⟩)]
    refine Nat.lt_of_lt_of_le ?_ (Nat.add_le_add_left (Reader.size_le_size_bind _ _ _) 0)
    simp [Reader.takeIf]

theorem size_read_pos {c : Char} {rest : List Char} (start : c.isDigit = true ∨ c = '.') :
    0 < (read (c :: rest)).size := by
  unfold read
  split
  · split
    · simp
    split
    · simp
    · simp_all [size_decimal_pos]
  · exact size_decimal_pos start

theorem size_le_scan (text : List Char) : (read text).size ≤ (scan text).2 := by
  unfold scan
  dsimp only
  split
  · simp
  · split <;> simp

end Numeral

end JavaLex
