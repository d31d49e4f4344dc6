import JavaLex.Charset.Identifier
import JavaLex.Source.Cell
import JavaLex.Source.Position

/-! # Cursors over translated text

A cursor stands before a cell and knows its place in the raw text. An escape moves the column by
the width of its spelling and never ends a line; a carriage return before a raw line feed leaves
the end of the line to the line feed.
-/

namespace JavaLex

open Charset

/-- The place after a cell, given the cell that follows it. -/
def Position.after (p : Position) (cell : Cell) (next : Option Cell) : Position :=
  let offset := p.offset + cell.width
  if cell.isEscaped then
    ⟨offset, p.line, p.column + cell.width⟩
  else if cell.char == '\n' then
    ⟨offset, p.line + 1, 1⟩
  else if cell.char == '\r' then
    if next.any (fun cell => cell.char == '\n' && !cell.isEscaped) then
      ⟨offset, p.line, p.column + 1⟩
    else
      ⟨offset, p.line + 1, 1⟩
  else
    ⟨offset, p.line, p.column + 1⟩

/-- A place in a translated text, with the cells from there on and their characters. -/
structure Cursor where
  position : Position
  cells : List Cell
  chars : List Char
  chars_eq : chars = cells.map Cell.char

namespace Cursor

def ofCells (cells : List Cell) : Cursor :=
  ⟨.start, cells, cells.map Cell.char, rfl⟩

@[simp] theorem cells_ofCells (cells : List Cell) : (ofCells cells).cells = cells := rfl

@[simp] theorem chars_ofCells (cells : List Cell) :
    (ofCells cells).chars = cells.map Cell.char := rfl

/-- Moves past one cell; at the end the cursor stays. -/
def step (cursor : Cursor) : Cursor where
  position :=
    match cursor.cells with
    | [] => cursor.position
    | cell :: rest => cursor.position.after cell rest.head?
  cells := cursor.cells.tail
  chars := cursor.chars.tail
  chars_eq := by rw [cursor.chars_eq, List.map_tail]

def advance (cursor : Cursor) : Nat → Cursor
  | 0 => cursor
  | count + 1 => cursor.step.advance count

@[simp] theorem advance_zero (cursor : Cursor) : cursor.advance 0 = cursor := rfl

theorem advance_succ (cursor : Cursor) (count : Nat) :
    cursor.advance (count + 1) = cursor.step.advance count := rfl

@[simp] theorem cells_advance (cursor : Cursor) (count : Nat) :
    (cursor.advance count).cells = cursor.cells.drop count := by
  induction count generalizing cursor with
  | zero => rfl
  | succ count ih => simp [advance, ih, step, List.drop_tail]

@[simp] theorem chars_advance (cursor : Cursor) (count : Nat) :
    (cursor.advance count).chars = cursor.chars.drop count := by
  induction count generalizing cursor with
  | zero => rfl
  | succ count ih => simp [advance, ih, step, List.drop_tail]

/-- Indices of the marked cells among the next `count`. -/
def malformedWithin (cursor : Cursor) (count : Nat) : List Nat :=
  (cursor.cells.take count).zipIdx.filterMap fun (cell, index) =>
    if cell.malformed then some index else none

/-- The cursor stands before the backslash of a malformed escape. -/
def atMalformed (cursor : Cursor) : Bool :=
  cursor.cells.head?.any Cell.malformed

end Cursor

end JavaLex
