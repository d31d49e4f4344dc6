import JavaLex.Source.LineMap
import JavaLex.Source.Position
import JavaLex.Source.Text

/-! # Source units

One compilation unit: a text and the name under which diagnostics mention it. Places are reported
against the text as written, before any escape is translated.
-/

namespace JavaLex

structure SourceUnit where
  name : String
  text : String
deriving DecidableEq, Repr, Inhabited

def SourceUnit.anonymous : String := "<input>"

def SourceUnit.chars (unit : SourceUnit) : List Char :=
  unit.text.toList

def SourceUnit.size (unit : SourceUnit) : Nat :=
  byteSize unit.chars

def SourceUnit.lines (unit : SourceUnit) : LineMap :=
  LineMap.ofText unit.chars

/-- The place at a byte offset; an offset past the end stands for the end. The column counts the
characters that begin between the start of the line and the offset. -/
def SourceUnit.position (unit : SourceUnit) (offset : Nat) : Position :=
  let offset := min offset unit.size
  let line := unit.lines.lineOf offset
  let start := (unit.lines.start? line).getD 0
  ⟨offset, line, (between start offset unit.chars).length + 1⟩

/-- The place at a byte offset, unless the offset is inside a character. -/
def SourceUnit.position? (unit : SourceUnit) (offset : Nat) : Option Position :=
  if isBoundary unit.chars (min offset unit.size) then some (unit.position offset) else none

def SourceUnit.endPosition (unit : SourceUnit) : Position :=
  unit.position unit.size

def dropTerminators (text : List Char) : List Char :=
  (text.reverse.dropWhile Charset.isLineTerminator).reverse

/-- The characters of a line without its terminator, with lines counted from one. -/
def SourceUnit.lineText? (unit : SourceUnit) (line : Nat) : Option (List Char) :=
  (unit.lines.start? line).map fun start =>
    let stop := (unit.lines.start? (line + 1)).getD unit.size
    dropTerminators (between start stop unit.chars)

end JavaLex
