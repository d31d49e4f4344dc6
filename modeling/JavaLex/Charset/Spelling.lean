import JavaLex.Charset.Extending
import JavaLex.Charset.Unprintable

/-! # Characters spelled out

Messages and listings write some characters as backslash sequences, so that each stays on one line
and can be read back.
-/

namespace JavaLex.Charset

def hex (n : Nat) : List Char :=
  Nat.toDigits 16 n

def paddedHex (width n : Nat) : List Char :=
  List.replicate (width - (hex n).length) '0' ++ hex n

/-- A character by its number, as a backslash, `u` and the number in braces. -/
def byNumber (c : Char) : List Char :=
  ['\\', 'u', '\x7b'] ++ hex c.toNat ++ ['\x7d']

/-- The letter or mark that follows the backslash for a character with a short sequence. -/
def shortEscape? : Char → Option Char
  | '\t' => some 't'
  | '\r' => some 'r'
  | '\n' => some 'n'
  | '\'' => some '\''
  | '"' => some '"'
  | '\\' => some '\\'
  | _ => none

/-- A character as messages write it: printable ASCII as itself, anything else by number. -/
def messageSpelling (c : Char) : List Char :=
  match shortEscape? c with
  | some mark => ['\\', mark]
  | none => if 0x20 ≤ c.toNat && c.toNat ≤ 0x7e then [c] else byNumber c

/-- A character as listings write it: printable characters as themselves, except that one which
would attach to whatever stands before it is written by number where `first` holds. -/
def listingSpelling (first : Bool) (c : Char) : List Char :=
  match shortEscape? c with
  | some mark => ['\\', mark]
  | none =>
      if c == '\x00' then ['\\', '0']
      else if (first && extending.covers c.toNat) || unprintable.covers c.toNat then byNumber c
      else [c]

def listing : List Char → List Char
  | [] => []
  | c :: rest => listingSpelling true c ++ rest.flatMap (listingSpelling false)

end JavaLex.Charset
