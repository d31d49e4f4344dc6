import JavaLex.Source.Cell

/-! # Characters with their offsets

A buffer holds the translated characters of a text, the byte offset of each of them in the raw text
and that of the end. It does not hold the raw spellings: which character comes from an escape is
told by its width. Every access and every subtraction is checked and gives nothing where it fails.
-/

namespace JavaLex

/-- Translated characters with their byte offsets and the offset of the end. -/
structure Buffer where
  chars : List Char
  offsets : List Nat
deriving DecidableEq, Repr, Inhabited

namespace Buffer

/-- The offsets of cells that begin at `start`, and of their end. -/
def offsetsFrom (start : Nat) : List Cell → List Nat
  | [] => [start]
  | cell :: rest => start :: offsetsFrom (start + cell.width) rest

def ofText (text : List Char) : Buffer :=
  ⟨(Cell.translate text).map Cell.char, offsetsFrom 0 (Cell.translate text)⟩

/-- The offset of a character; past the last one, that of the end. -/
def offset? (buffer : Buffer) (index : Nat) : Option Nat :=
  buffer.offsets[min index (buffer.offsets.length - 1)]?

/-- Bytes of the raw text from one character up to another one. -/
def width? (buffer : Buffer) (first last : Nat) : Option Nat := do
  let start ← buffer.offset? first
  let stop ← buffer.offset? last
  if start ≤ stop then some (stop - start) else none

/-- A character comes from an escape if it is not as wide as in UTF-8. -/
def isEscaped? (buffer : Buffer) (index : Nat) : Option Bool :=
  match buffer.chars[index]? with
  | none => some false
  | some c => (buffer.width? index (index + 1)).map (· != c.utf8Size)

end Buffer

end JavaLex
