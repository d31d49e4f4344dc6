import JavaLex.Charset.Identifier

/-! # Line starts

A line ends with a line feed, a carriage return, or the two together. The map lists the byte
offset at which each line starts; the first line starts at zero.
-/

namespace JavaLex

open Charset

/-- Starts of the lines after the first, for a text that begins at `offset`. -/
def lineStartsFrom (offset : Nat) : List Char → List Nat
  | [] => []
  | '\r' :: '\n' :: rest => (offset + 2) :: lineStartsFrom (offset + 2) rest
  | c :: rest =>
      if isLineTerminator c then
        (offset + c.utf8Size) :: lineStartsFrom (offset + c.utf8Size) rest
      else
        lineStartsFrom (offset + c.utf8Size) rest

/-- The byte offsets at which the lines of a text start. -/
structure LineMap where
  starts : List Nat
deriving DecidableEq, Repr, Inhabited

/-- The lines of a text; an empty text has one. -/
def LineMap.ofText (text : List Char) : LineMap :=
  ⟨0 :: lineStartsFrom 0 text⟩

def LineMap.count (lines : LineMap) : Nat :=
  lines.starts.length

/-- The line that holds `offset`: the last one that starts at or before it. -/
def LineMap.lineOf (lines : LineMap) (offset : Nat) : Nat :=
  lines.starts.countP (· ≤ offset)

/-- Where a line starts, with lines counted from one. -/
def LineMap.start? (lines : LineMap) : Nat → Option Nat
  | 0 => none
  | line + 1 => lines.starts[line]?

end JavaLex
