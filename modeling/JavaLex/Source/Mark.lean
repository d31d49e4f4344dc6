import JavaLex.Source.Cursor

/-! # Cursors with a mark

A cursor that reads ahead can go back to the place that it marked last. There is room for one mark:
setting it forgets an earlier one, and going back uses it up.
-/

namespace JavaLex

structure MarkedCursor where
  cursor : Cursor
  mark : Option Cursor

inductive CursorMove where
  | advance
  | mark
  /-- Goes back to the mark and drops it; without a mark nothing changes. -/
  | reset
deriving DecidableEq, Repr

namespace MarkedCursor

def move (marked : MarkedCursor) : CursorMove → MarkedCursor
  | .advance => { marked with cursor := marked.cursor.step }
  | .mark => { marked with mark := some marked.cursor }
  | .reset => ⟨marked.mark.getD marked.cursor, none⟩

def run (marked : MarkedCursor) (moves : List CursorMove) : MarkedCursor :=
  moves.foldl move marked

end MarkedCursor

end JavaLex
