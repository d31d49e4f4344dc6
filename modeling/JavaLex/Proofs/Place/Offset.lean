import JavaLex.Charset.Identifier
import JavaLex.Proofs.Escape.Translation

/-! # Byte offsets of cells

The offset of a cell is the size of the raw spellings before it. A cell is as wide as its spelling,
and `isEscaped_iff` says that the width alone tells an escape from a character as written.
-/

namespace JavaLex

open Charset

/-! ## Widths -/

namespace Escape

theorem Spells.ascii {raw : List Char} {c d : Char} (spells : Spells raw c) (member : d ∈ raw) :
    d.utf8Size = 1 ∧ isLineTerminator d = false := by
  rcases spells.mem member with rfl | rfl | digit
  · decide
  · decide
  · have high := (bounds_of_isDigitOf digit).2
    constructor
    · exact Char.utf8Size_eq_one_iff.mpr (Nat.le_trans high (by decide))
    · exact isLineTerminator_of_isDigitOf digit

theorem Spells.byteSize {raw : List Char} {c : Char} (spells : Spells raw c) :
    byteSize raw = raw.length := by
  have ascii : ∀ d ∈ raw, d.utf8Size = 1 := fun d member => (spells.ascii member).1
  clear spells
  induction raw with
  | nil => rfl
  | cons d raw ih =>
      have rest := ih fun e member => ascii e (List.mem_cons_of_mem d member)
      rw [byteSize_cons, ascii d List.mem_cons_self, rest, List.length_cons, Nat.add_comm]

end Escape

namespace Cell

theorem WellSpelled.width_pos {cell : Cell} (spelled : cell.WellSpelled) : 0 < cell.width := by
  rcases spelled with plain | spells
  · simp [width, plain, Char.utf8Size_pos]
  · have long := spells.length_le
    rw [width, spells.byteSize]
    omega

/-- A cell is as wide as its character unless it is an escape, and never narrower. -/
theorem WellSpelled.width_cases {cell : Cell} (spelled : cell.WellSpelled) :
    cell.width = cell.char.utf8Size ∧ ¬ Escape.Spells cell.raw cell.char ∨
      cell.char.utf8Size < cell.width ∧ Escape.Spells cell.raw cell.char := by
  have short := cell.char.utf8Size_le_four
  rcases spelled with plain | spells
  · refine .inl ⟨by simp [width, plain], fun spells => ?_⟩
    have long := spells.length_le
    simp [plain] at long
  · have long := spells.length_le
    refine .inr ⟨?_, spells⟩
    rw [width, spells.byteSize]
    omega

theorem WellSpelled.isEscaped_iff {cell : Cell} (spelled : cell.WellSpelled) :
    cell.isEscaped = true ↔ Escape.Spells cell.raw cell.char := by
  rw [isEscaped, bne_iff_ne]
  rcases spelled.width_cases with ⟨same, plain⟩ | ⟨wider, spells⟩
  · simp [same, plain]
  · simp [spells, Nat.ne_of_gt wider]

theorem byteSize_chars_le_raw {cells : List Cell} (spelled : ∀ cell ∈ cells, cell.WellSpelled) :
    byteSize (cells.map char) ≤ byteSize (cells.flatMap raw) := by
  induction cells with
  | nil => simp
  | cons cell cells ih =>
      have rest := ih fun other member => spelled other (List.mem_cons_of_mem cell member)
      have here := (spelled cell (.head _)).width_cases
      rw [width] at here
      simp only [List.map_cons, List.flatMap_cons, byteSize_cons, byteSize_append]
      omega

/-- Cells take as many bytes as their characters exactly if none of them is an escape. -/
theorem byteSize_raw_eq_chars_iff {cells : List Cell}
    (spelled : ∀ cell ∈ cells, cell.WellSpelled) :
    byteSize (cells.flatMap raw) = byteSize (cells.map char) ↔
      ∀ cell ∈ cells, ¬ Escape.Spells cell.raw cell.char := by
  induction cells with
  | nil => simp
  | cons cell cells ih =>
      have later : ∀ other ∈ cells, other.WellSpelled := fun other member =>
        spelled other (List.mem_cons_of_mem cell member)
      have rest := byteSize_chars_le_raw later
      have here := (spelled cell (.head _)).width_cases
      rw [width] at here
      rw [List.forall_mem_cons, ← ih later]
      simp only [List.map_cons, List.flatMap_cons, byteSize_cons, byteSize_append]
      -- a wider cell cannot be made up for by the cells after it
      rcases here with ⟨same, plain⟩ | ⟨wider, escape⟩
      · simp only [same, plain, not_false_eq_true, true_and]
        omega
      · simp only [escape, not_true_eq_false, false_and, iff_false]
        omega

theorem flatMap_raw_of_plain {cells : List Cell} (spelled : ∀ cell ∈ cells, cell.WellSpelled)
    (plain : ∀ cell ∈ cells, ¬ Escape.Spells cell.raw cell.char) :
    cells.flatMap raw = cells.map char := by
  induction cells with
  | nil => rfl
  | cons cell cells ih =>
      have rest := ih (fun other member => spelled other (List.mem_cons_of_mem cell member))
        fun other member => plain other (List.mem_cons_of_mem cell member)
      have here := (spelled cell (.head _)).resolve_right (plain cell (.head _))
      rw [List.flatMap_cons, List.map_cons, rest, here, List.singleton_append]

theorem wellSpelled_of_mem_translate {text : List Char} {cell : Cell}
    (member : cell ∈ translate text) : cell.WellSpelled := by
  obtain ⟨index, found⟩ := List.mem_iff_getElem?.mp member
  exact (cellAt_translate found).wellSpelled

/-! ## Offsets -/

/-- Byte offset of a cell; past the last cell, the end of the text. -/
def rawOffset (cells : List Cell) (index : Nat) : Nat :=
  byteSize ((cells.take index).flatMap raw)

def offsets (cells : List Cell) : List Nat :=
  (List.range (cells.length + 1)).map (rawOffset cells)

@[simp] theorem rawOffset_zero (cells : List Cell) : rawOffset cells 0 = 0 := rfl

theorem rawOffset_succ {cells : List Cell} {index : Nat} {cell : Cell}
    (found : cells[index]? = some cell) :
    rawOffset cells (index + 1) = rawOffset cells index + cell.width := by
  simp [rawOffset, List.take_add_one, found, width]

theorem rawOffset_add (cells : List Cell) (first count : Nat) :
    rawOffset cells (first + count) =
      rawOffset cells first + byteSize (((cells.drop first).take count).flatMap raw) := by
  rw [rawOffset, rawOffset, List.take_add, List.flatMap_append, byteSize_append]

theorem rawOffset_of_length_le {cells : List Cell} {index : Nat} (past : cells.length ≤ index) :
    rawOffset cells index = byteSize (cells.flatMap raw) := by
  rw [rawOffset, List.take_of_length_le past]

theorem rawOffset_min (cells : List Cell) (index : Nat) :
    rawOffset cells (min index cells.length) = rawOffset cells index := by
  rcases Nat.le_total index cells.length with within | past
  · rw [Nat.min_eq_left within]
  · rw [Nat.min_eq_right past, rawOffset_of_length_le (Nat.le_refl _), rawOffset_of_length_le past]

theorem rawOffset_le_of_le (cells : List Cell) {first second : Nat} (le : first ≤ second) :
    rawOffset cells first ≤ rawOffset cells second := by
  obtain ⟨more, rfl⟩ := Nat.exists_eq_add_of_le le
  rw [rawOffset_add]
  exact Nat.le_add_right _ _

theorem rawOffset_lt_of_lt {cells : List Cell} (spelled : ∀ cell ∈ cells, cell.WellSpelled)
    {first second : Nat} (lt : first < second) (bound : second ≤ cells.length) :
    rawOffset cells first < rawOffset cells second := by
  have found : cells[first]? = some cells[first] := List.getElem?_eq_getElem (by omega)
  have positive := (spelled _ (List.mem_of_getElem? found)).width_pos
  calc
    rawOffset cells first < rawOffset cells (first + 1) := by
      rw [rawOffset_succ found]
      omega
    _ ≤ rawOffset cells second := rawOffset_le_of_le cells lt

theorem byteSize_raw_eq_zero_iff {cells : List Cell} (spelled : ∀ cell ∈ cells, cell.WellSpelled) :
    byteSize (cells.flatMap raw) = 0 ↔ cells = [] := by
  cases cells with
  | nil => simp
  | cons cell cells =>
      have positive := (spelled cell (.head _)).width_pos
      rw [width] at positive
      simp only [List.flatMap_cons, byteSize_append, reduceCtorEq, iff_false]
      omega

theorem rawOffset_le_iff {cells : List Cell} (spelled : ∀ cell ∈ cells, cell.WellSpelled)
    {first second : Nat} (bound : first ≤ cells.length) :
    rawOffset cells first ≤ rawOffset cells second ↔ first ≤ second := by
  constructor
  · intro le
    by_cases lt : second < first
    · have := rawOffset_lt_of_lt spelled lt bound
      omega
    · omega
  · exact rawOffset_le_of_le cells

/-- A text is cut at a cell into the spellings before it and those from it on. -/
theorem append_raw_drop (text : List Char) (index : Nat) :
    ((translate text).take index).flatMap raw ++ ((translate text).drop index).flatMap raw =
      text := by
  rw [← List.flatMap_append, List.take_append_drop, raw_translate]

theorem isBoundary_rawOffset (text : List Char) (index : Nat) :
    isBoundary text (rawOffset (translate text) index) = true := by
  have cut := isBoundary_append (((translate text).take index).flatMap raw)
    (((translate text).drop index).flatMap raw)
  rwa [append_raw_drop] at cut

/-- The raw text between two cells is the slice between their offsets. -/
theorem slice?_rawOffset (text : List Char) {first second : Nat} (le : first ≤ second) :
    slice? (rawOffset (translate text) first) (rawOffset (translate text) second) text =
      some (between (rawOffset (translate text) first) (rawOffset (translate text) second)
        text) := by
  have order := rawOffset_le_of_le (translate text) le
  simp [slice?, order, isBoundary_rawOffset]

theorem between_rawOffset {text : List Char} {index : Nat} {cell : Cell}
    (found : (translate text)[index]? = some cell) :
    between (rawOffset (translate text) index) (rawOffset (translate text) (index + 1)) text =
      cell.raw := by
  obtain ⟨bound, here⟩ := List.getElem?_eq_some_iff.mp found
  have whole := append_raw_drop text index
  rw [List.drop_eq_getElem_cons bound, here, List.flatMap_cons] at whole
  have cut := between_append (((translate text).take index).flatMap raw) cell.raw
    (((translate text).drop (index + 1)).flatMap raw)
  rw [whole] at cut
  rw [rawOffset_succ found]
  exact cut

end Cell

end JavaLex
