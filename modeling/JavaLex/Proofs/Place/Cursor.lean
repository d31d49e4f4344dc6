import JavaLex.Proofs.Place.Line
import JavaLex.Proofs.Place.Offset
import JavaLex.Source.Mark

/-! # The place of a cursor

A cursor tracks its place cell by cell, and a unit computes places from its line map. Both agree
wherever a cursor can stand, also one that goes back to a place it marked.
-/

namespace JavaLex

open Charset

/-! ## Moving a cursor -/

namespace Cursor

theorem advance_add (cursor : Cursor) (first second : Nat) :
    cursor.advance (first + second) = (cursor.advance first).advance second := by
  induction first generalizing cursor with
  | zero => simp
  | succ first ih => rw [Nat.succ_add, advance_succ, ih, ← advance_succ]

theorem step_advance (cursor : Cursor) (count : Nat) :
    (cursor.advance count).step = cursor.advance (count + 1) := by
  rw [advance_add]
  rfl

theorem step_of_cells_eq_nil {cursor : Cursor} (ended : cursor.cells = []) :
    cursor.step = cursor := by
  obtain ⟨position, cells, chars, rfl⟩ := cursor
  obtain rfl : cells = [] := ended
  rfl

theorem advance_of_cells_eq_nil {cursor : Cursor} (ended : cursor.cells = []) (count : Nat) :
    cursor.advance count = cursor := by
  induction count with
  | zero => rfl
  | succ count ih => rw [advance_succ, step_of_cells_eq_nil ended, ih]

theorem advance_min (cells : List Cell) (count : Nat) :
    (ofCells cells).advance (min count cells.length) = (ofCells cells).advance count := by
  rcases Nat.le_total count cells.length with within | past
  · rw [Nat.min_eq_left within]
  · obtain ⟨more, rfl⟩ := Nat.exists_eq_add_of_le past
    have ended : ((ofCells cells).advance cells.length).cells = [] := by simp
    rw [Nat.min_eq_right past, advance_add, advance_of_cells_eq_nil ended]

end Cursor

/-! ## One cell -/

/-- The next cell is a line feed as written exactly when the next raw character is one. -/
private theorem any_lineFeed_iff {rest : List Cell} (spelled : ∀ cell ∈ rest, cell.WellSpelled) :
    rest.head?.any (fun cell => cell.char == '\n' && !cell.isEscaped) =
      ((rest.flatMap Cell.raw).head? == some '\n') := by
  cases rest with
  | nil => rfl
  | cons cell rest =>
      rcases spelled cell (by simp) with plain | spells
      · simp [plain, Cell.isEscaped, Cell.width]
      · have escaped := (spelled cell (by simp)).isEscaped_iff.mpr spells
        obtain ⟨spelled, written⟩ := spells.cons
        simp [written, escaped]

private theorem after_of_plain {cell : Cell} {rest : List Cell} (plain : cell.raw = [cell.char])
    (spelled : ∀ cell ∈ rest, cell.WellSpelled) (p : Position) :
    p.after cell rest.head? = p.past cell.char (rest.flatMap Cell.raw).head? := by
  have width : cell.width = cell.char.utf8Size := by simp [Cell.width, plain]
  have written : cell.isEscaped = false := by simp [Cell.isEscaped, width]
  unfold Position.after Position.past endsLine
  rw [any_lineFeed_iff spelled, written, width]
  by_cases feed : (cell.char == '\n') = true
  · simp [feed]
  by_cases carriage : (cell.char == '\r') = true
  · by_cases follows : (rest.flatMap Cell.raw).head? = some '\n'
    · simp [feed, carriage, follows]
    · simp [feed, carriage, follows]
  · simp [feed, carriage]

/-- Passing a cell moves a place as passing its raw characters does. -/
theorem SourceUnit.position_append_raw (unit : SourceUnit) {done : List Char} {cell : Cell}
    {rest : List Cell} (whole : unit.chars = done ++ (cell :: rest).flatMap Cell.raw)
    (spelled : ∀ other ∈ cell :: rest, other.WellSpelled) :
    unit.position (byteSize (done ++ cell.raw)) =
      (unit.position (byteSize done)).after cell rest.head? := by
  have later : ∀ other ∈ rest, other.WellSpelled := fun other member =>
    spelled other (by simp [member])
  rw [List.flatMap_cons] at whole
  rcases spelled cell (by simp) with plain | spells
  · rw [after_of_plain plain later, plain]
    exact unit.position_append_singleton (by simpa [plain] using whole)
  · have escaped := (spelled cell (by simp)).isEscaped_iff.mpr spells
    rw [← List.append_assoc] at whole
    have moved := unit.position_append whole fun c member => (spells.ascii member).2
    rw [moved, Position.after, if_pos escaped, Cell.width, spells.byteSize]

/-! ## Every place of a cursor -/

def SourceUnit.cursor (unit : SourceUnit) : Cursor :=
  .ofCells (Cell.translate unit.chars)

theorem SourceUnit.rawOffset_length (unit : SourceUnit) :
    Cell.rawOffset (Cell.translate unit.chars) (Cell.translate unit.chars).length = unit.size := by
  rw [Cell.rawOffset_of_length_le (Nat.le_refl _), Cell.raw_translate]
  rfl

/-- The place that a cursor tracks is the one that the unit computes. -/
theorem SourceUnit.position_advance_cursor (unit : SourceUnit) (index : Nat) :
    (unit.cursor.advance index).position =
      unit.position (Cell.rawOffset (Cell.translate unit.chars) index) := by
  induction index with
  | zero => exact unit.position_zero.symm
  | succ index ih =>
      rw [← Cursor.step_advance]
      cases left : (Cell.translate unit.chars).drop index with
      | nil =>
          have ended : (unit.cursor.advance index).cells = [] := by simp [SourceUnit.cursor, left]
          have past : (Cell.translate unit.chars).length ≤ index := List.drop_eq_nil_iff.mp left
          rw [Cursor.step_of_cells_eq_nil ended, ih, Cell.rawOffset_of_length_le past,
            Cell.rawOffset_of_length_le (by omega)]
      | cons cell rest =>
          have standing : (unit.cursor.advance index).cells = cell :: rest := by
            simp [SourceUnit.cursor, left]
          have whole := Cell.append_raw_drop unit.chars index
          have spelled : ∀ other ∈ cell :: rest, other.WellSpelled := fun other member =>
            Cell.wellSpelled_of_mem_translate (List.mem_of_mem_drop (left ▸ member))
          have found : (Cell.translate unit.chars)[index]? = some cell := by
            rw [← List.head?_drop, left, List.head?_cons]
          rw [left] at whole
          have moved := unit.position_append_raw whole.symm spelled
          rw [byteSize_append] at moved
          rw [Cell.rawOffset_succ found, Cell.rawOffset, Cell.width, moved]
          simp only [Cursor.step, standing, ih]
          rfl

theorem SourceUnit.position_advance_length (unit : SourceUnit) :
    (unit.cursor.advance (Cell.translate unit.chars).length).position = unit.endPosition := by
  rw [position_advance_cursor, rawOffset_length]
  rfl

theorem SourceUnit.offset_advance_cursor (unit : SourceUnit) (index : Nat) :
    (unit.cursor.advance index).position.offset =
      Cell.rawOffset (Cell.translate unit.chars) index := by
  have bound : Cell.rawOffset (Cell.translate unit.chars) index ≤ unit.size := by
    have whole := congrArg byteSize (Cell.append_raw_drop unit.chars index)
    rw [byteSize_append] at whole
    exact Nat.le.intro whole
  rw [position_advance_cursor]
  exact Nat.min_eq_left bound

/-! ## Marks -/

namespace MarkedCursor

def start (unit : SourceUnit) : MarkedCursor := ⟨unit.cursor, none⟩

def Within (unit : SourceUnit) (marked : MarkedCursor) : Prop :=
  ∀ cursor, cursor = marked.cursor ∨ some cursor = marked.mark →
    ∃ index ≤ (Cell.translate unit.chars).length, cursor = unit.cursor.advance index

theorem within_move {unit : SourceUnit} {marked : MarkedCursor} (within : Within unit marked)
    (move : CursorMove) : Within unit (marked.move move) := by
  intro cursor reached
  cases move with
  | advance =>
      rcases reached with rfl | marked
      · obtain ⟨index, bound, here⟩ := within _ (.inl rfl)
        refine ⟨min (index + 1) (Cell.translate unit.chars).length, Nat.min_le_right _ _, ?_⟩
        rw [SourceUnit.cursor, Cursor.advance_min, ← Cursor.step_advance]
        exact congrArg Cursor.step here
      · exact within cursor (.inr marked)
  | mark =>
      rcases reached with rfl | same
      · exact within _ (.inl rfl)
      · exact within cursor (.inl (Option.some.inj same))
  | reset =>
      rcases reached with rfl | none
      · cases mark : marked.mark with
        | none => exact within _ (.inl (by simp [MarkedCursor.move, mark]))
        | some cursor => exact within _ (.inr (by simp [MarkedCursor.move, mark]))
      · cases none

/-- No moves lead a cursor away from the cells of its unit. -/
theorem within_run (unit : SourceUnit) (moves : List CursorMove) :
    Within unit ((start unit).run moves) := by
  have general : ∀ marked, Within unit marked → Within unit (run marked moves) := by
    induction moves with
    | nil => exact fun _ within => within
    | cons move moves ih => exact fun marked within => ih _ (within_move within move)
  refine general _ fun cursor reached => ⟨0, Nat.zero_le _, ?_⟩
  rcases reached with rfl | none
  · rfl
  · cases none

end MarkedCursor

end JavaLex
