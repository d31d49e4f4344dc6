import JavaLex.Source.Escape
import JavaLex.Source.Text

/-! # Translated text

Escapes are translated before a text is cut into tokens, so an escape may give any character, a
quote or a line feed included. Each translated character is a cell that keeps the raw characters
it was written as. A malformed escape is kept as written, and the cell of its backslash is marked.

`raw_translate` says that the cells spell the text: nothing is lost or added.
-/

namespace JavaLex

/-- A translated character with its raw spelling. -/
structure Cell where
  char : Char
  raw : List Char
  /-- The backslash of a malformed escape. -/
  malformed : Bool
deriving DecidableEq, Repr, Inhabited

namespace Cell

def verbatim (c : Char) : Cell := ⟨c, [c], false⟩

def width (cell : Cell) : Nat :=
  byteSize cell.raw

/-- An escape is wider than the character it gives, so the widths tell the two spellings apart. -/
def isEscaped (cell : Cell) : Bool :=
  cell.width != cell.char.utf8Size

@[simp] theorem width_verbatim (c : Char) : (verbatim c).width = c.utf8Size := by
  simp [width, verbatim]

@[simp] theorem isEscaped_verbatim (c : Char) : (verbatim c).isEscaped = false := by
  simp [isEscaped, verbatim, width]

/-- Translates a text that follows an odd or even number of contiguous raw backslashes. Only a
backslash after an even number of them starts an escape, and a translated backslash does not
count. -/
def translateAfter (odd : Bool) : List Char → List Cell
  | [] => []
  | c :: rest =>
      if c == '\\' && !odd && rest.head? == some 'u' then
        match Escape.decode? rest with
        | some (decoded, size) =>
            ⟨decoded, c :: rest.take size, false⟩ :: translateAfter false (rest.drop size)
        | none => ⟨c, [c], true⟩ :: translateAfter true rest
      else
        verbatim c :: translateAfter (c == '\\' && !odd) rest
termination_by text => text.length

def translate (text : List Char) : List Cell :=
  translateAfter false text

theorem raw_translateAfter (odd : Bool) (text : List Char) :
    (translateAfter odd text).flatMap Cell.raw = text := by
  fun_induction translateAfter odd text with
  | case1 => rfl
  | case2 odd c rest _ decoded size _ ih => simp [ih]
  | case3 odd c rest _ _ ih => simp [ih]
  | case4 odd c rest _ ih => simp [verbatim, ih]

/-- The raw spellings of the cells make up the text. -/
theorem raw_translate (text : List Char) : (translate text).flatMap Cell.raw = text :=
  raw_translateAfter false text

end Cell

end JavaLex
