import JavaLex.Charset.Digit
import JavaLex.Charset.XidStart
import JavaLex.Charset.XidContinue

/-! # Characters of the Java lexical grammar

Which characters start or continue an identifier, end a line, or separate tokens. Below U+0080 the
classes are spelled out; above, they come from the Unicode identifier properties together with
currency signs and connecting punctuation.
-/

namespace JavaLex.Charset

/-- Currency signs (category Sc). -/
def currency : Ranges :=
  [(0x24, 0x24), (0xa2, 0xa5), (0x58f, 0x58f), (0x60b, 0x60b), (0x7fe, 0x7ff), (0x9f2, 0x9f3),
   (0x9fb, 0x9fb), (0xaf1, 0xaf1), (0xbf9, 0xbf9), (0xe3f, 0xe3f), (0x17db, 0x17db),
   (0x20a0, 0x20c0), (0xa838, 0xa838), (0xfdfc, 0xfdfc), (0xfe69, 0xfe69), (0xff04, 0xff04),
   (0xffe0, 0xffe1), (0xffe5, 0xffe6), (0x11fdd, 0x11fe0), (0x1e2ff, 0x1e2ff),
   (0x1ecb0, 0x1ecb0)]

/-- Connecting punctuation (category Pc). -/
def connector : Ranges :=
  [(0x5f, 0x5f), (0x203f, 0x2040), (0x2054, 0x2054), (0xfe33, 0xfe34), (0xfe4d, 0xfe4f),
   (0xff3f, 0xff3f)]

/-- Control characters that an identifier may hold; U+001A is left out because it may end a
text. -/
def ignorable : Ranges :=
  [(0x0, 0x8), (0xe, 0x19), (0x1b, 0x1b), (0x7f, 0x9f)]

def isIdentifierStart (c : Char) : Bool :=
  if c.toNat < 0x80 then
    c.isAlpha || c == '_' || c == '$'
  else
    xidStart.covers c.toNat || currency.covers c.toNat || connector.covers c.toNat

def isIdentifierPart (c : Char) : Bool :=
  if c.toNat < 0x80 then
    c.isAlphanum || c == '_' || c == '$' || ignorable.covers c.toNat
  else
    xidContinue.covers c.toNat || currency.covers c.toNat || connector.covers c.toNat ||
      ignorable.covers c.toNat

def isLineTerminator (c : Char) : Bool :=
  c == '\n' || c == '\r'

theorem isLineTerminator_of_isDigitOf {radix : Nat} {c : Char} (digit : isDigitOf radix c = true) :
    isLineTerminator c = false := by
  have low := (bounds_of_isDigitOf digit).1
  rw [isLineTerminator, Bool.or_eq_false_iff, beq_eq_false_iff_ne, beq_eq_false_iff_ne]
  constructor <;> rintro rfl <;> exact absurd low (by decide)

/-- A character that separates tokens wherever it stands. -/
def isBlank (c : Char) : Bool :=
  c == ' ' || c == '\t' || c == '\x0c' || isLineTerminator c

/-- The substitute character U+001A, which separates tokens only as the last character. -/
def substitute : Char := '\x1a'

def blankSize : List Char → Nat
  | [] => 0
  | c :: rest =>
      if isBlank c || (c == substitute && rest.isEmpty) then blankSize rest + 1 else 0

theorem blankSize_le (text : List Char) : blankSize text ≤ text.length := by
  induction text with
  | nil => simp [blankSize]
  | cons c rest ih =>
      simp only [blankSize, List.length_cons]
      split <;> omega

end JavaLex.Charset
