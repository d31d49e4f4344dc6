import JavaLex.Proofs.Place.Cursor
import JavaLex.Proofs.Scan.Run

/-! # The translation with its offset map

The cells of a unit are those of the rules, their offsets map them back to the text as written, and
an escape that is not well formed is reported once, at its backslash.
-/

namespace JavaLex

open Charset Escape

/-! ## Offsets -/

namespace Cell

theorem length_offsets (cells : List Cell) : (offsets cells).length = cells.length + 1 := by
  simp [offsets]

theorem getElem?_offsets {cells : List Cell} {index : Nat} (bound : index ≤ cells.length) :
    (offsets cells)[index]? = some (rawOffset cells index) := by
  rw [offsets, List.getElem?_map, List.getElem?_range (by omega)]
  rfl

theorem eq_of_getElem?_offsets {cells : List Cell} {index offset : Nat}
    (found : (offsets cells)[index]? = some offset) :
    index ≤ cells.length ∧ offset = rawOffset cells index := by
  have bound : index ≤ cells.length := by
    have := (List.getElem?_eq_some_iff.mp found).choose
    rw [length_offsets] at this
    omega
  exact ⟨bound, Option.some.inj (found.symm.trans (getElem?_offsets bound))⟩

theorem pairwise_offsets {cells : List Cell} (spelled : ∀ cell ∈ cells, cell.WellSpelled) :
    (offsets cells).Pairwise (· < ·) := by
  rw [offsets, List.pairwise_map]
  refine List.Pairwise.imp_of_mem ?_ List.pairwise_lt_range
  intro first second _ member lt
  have bound := List.mem_range.mp member
  exact rawOffset_lt_of_lt spelled lt (by omega)

theorem getLast?_offsets (cells : List Cell) :
    (offsets cells).getLast? = some (byteSize (cells.flatMap raw)) := by
  rw [List.getLast?_eq_getElem?, length_offsets, Nat.add_sub_cancel,
    getElem?_offsets (Nat.le_refl _), rawOffset_of_length_le (Nat.le_refl _)]

theorem offsets_cons (cell : Cell) (cells : List Cell) :
    offsets (cell :: cells) = 0 :: (offsets cells).map (cell.width + ·) := by
  have later : ∀ index, rawOffset (cell :: cells) (index + 1) =
      cell.width + rawOffset cells index := by
    intro index
    simp [rawOffset, width]
  rw [offsets, offsets, List.length_cons, List.range_succ_eq_map, List.map_cons, List.map_map,
    List.map_map]
  exact congrArg (0 :: ·) (List.map_congr_left fun index _ => later index)

theorem offsets_eq_scanl (cells : List Cell) :
    offsets cells = (cells.map width).scanl (· + ·) 0 := by
  have shifted : ∀ start, (offsets cells).map (start + ·) =
      (cells.map width).scanl (· + ·) start := by
    induction cells with
    | nil => simp [offsets]
    | cons cell cells ih =>
        intro start
        rw [offsets_cons, List.map_cons, List.map_cons, List.scanl_cons, ← ih, List.map_map]
        simp [Function.comp_def, Nat.add_assoc]
  simpa using shifted 0

end Cell

/-! ## Marked cells -/

namespace Cursor

theorem pairwise_malformedWithin (cursor : Cursor) (count : Nat) :
    (cursor.malformedWithin count).Pairwise (· < ·) := by
  have ordered : (cursor.cells.take count).zipIdx.Pairwise fun first second =>
      first.2 < second.2 := by
    rw [List.pairwise_iff_getElem]
    intro first second _ _ lt
    simpa using lt
  refine List.Pairwise.filterMap _ ?_ ordered
  rintro ⟨_, first⟩ ⟨_, second⟩ lt low kept high same
  dsimp only at kept same
  split at kept
  · obtain rfl := Option.some.inj kept
    split at same
    · obtain rfl := Option.some.inj same
      exact lt
    · cases same
  · cases kept

/-- The marked cells of a stretch are those of its front and those of the rest. -/
theorem malformedWithin_add {cursor : Cursor} {first : Nat} (bound : first ≤ cursor.cells.length)
    (count : Nat) :
    cursor.malformedWithin (first + count) =
      cursor.malformedWithin first ++
        ((cursor.advance first).malformedWithin count).map (first + ·) := by
  have front : (cursor.cells.take first).length = first := List.length_take_of_le bound
  have moved : ((cursor.cells.drop first).take count).zipIdx first =
      ((cursor.cells.drop first).take count).zipIdx.map (Prod.map id (· + first)) :=
    (List.map_snd_add_zipIdx_eq_zipIdx (n := first) (k := 0)).symm
  unfold malformedWithin
  rw [List.take_add, List.zipIdx_append, List.filterMap_append, cells_advance, front,
    Nat.zero_add, moved, List.filterMap_map, List.map_filterMap]
  congr 2
  funext ⟨cell, index⟩
  by_cases marked : cell.malformed = true
  · simp [marked, Nat.add_comm]
  · simp [marked]

end Cursor

/-! ## Malformed escapes -/

/-- The malformed escapes of a unit, each with the index of its cell. -/
def SourceUnit.malformedEscapes (unit : SourceUnit) : List (Nat × LexicalError) :=
  (unit.cursor.malformedWithin (Cell.translate unit.chars).length).map fun index =>
    (index, (Fault.of .malformedEscape index).locate unit.cursor)

theorem SourceUnit.mem_malformedEscapes_iff {unit : SourceUnit} {index : Nat}
    {error : LexicalError} :
    (index, error) ∈ unit.malformedEscapes ↔
      (∃ cell, (Cell.translate unit.chars)[index]? = some cell ∧ cell.malformed = true) ∧
        error = .of .malformedEscape
          (unit.position (Cell.rawOffset (Cell.translate unit.chars) index)) := by
  have located : (Fault.of .malformedEscape index).locate unit.cursor = .of .malformedEscape
      (unit.position (Cell.rawOffset (Cell.translate unit.chars) index)) := by
    rw [← unit.position_advance_cursor]
    rfl
  rw [malformedEscapes, List.mem_map]
  constructor
  · rintro ⟨other, member, same⟩
    obtain ⟨rfl, rfl⟩ := Prod.mk.inj same
    exact ⟨(Cursor.mem_malformedWithin_iff.mp member).2, located⟩
  · rintro ⟨⟨cell, found, marked⟩, rfl⟩
    have within : index < (Cell.translate unit.chars).length :=
      (List.getElem?_eq_some_iff.mp found).choose
    exact ⟨index, Cursor.mem_malformedWithin_iff.mpr ⟨within, cell, found, marked⟩,
      by rw [located]⟩

theorem SourceUnit.pairwise_malformedEscapes (unit : SourceUnit) :
    unit.malformedEscapes.Pairwise fun first second => first.1 < second.1 := by
  rw [malformedEscapes, List.pairwise_map]
  exact unit.cursor.pairwise_malformedWithin _

theorem SourceUnit.malformedEscapes_of_sound {unit : SourceUnit}
    (sound : ∀ cell ∈ Cell.translate unit.chars, cell.malformed = false) :
    unit.malformedEscapes = [] := by
  refine List.eq_nil_iff_forall_not_mem.mpr fun escape member => ?_
  obtain ⟨⟨cell, found, marked⟩, -⟩ := mem_malformedEscapes_iff.mp member
  rw [sound cell (List.mem_of_getElem? found)] at marked
  cases marked

/-! ## The translation as a whole -/

/-- The cells of a unit are the ones that the rules determine. Their offsets begin at zero, end at
the size of the text, grow strictly and lie on character boundaries; the stretch from one to the
next is the character of the cell or an escape that spells it. The malformed escapes are the
cells where the rules open an escape and find none, in order, each a backslash with its place. -/
theorem translate_exact (unit : SourceUnit) :
    (∀ cells, Translates unit.chars 0 cells ↔ cells = Cell.translate unit.chars) ∧
      (Cell.offsets (Cell.translate unit.chars)).length =
        (Cell.translate unit.chars).length + 1 ∧
      (Cell.offsets (Cell.translate unit.chars)).Pairwise (· < ·) ∧
      (∀ offset ∈ Cell.offsets (Cell.translate unit.chars), isBoundary unit.chars offset = true) ∧
      (Cell.offsets (Cell.translate unit.chars)).head? = some 0 ∧
      (Cell.offsets (Cell.translate unit.chars)).getLast? = some unit.text.utf8ByteSize ∧
      (∀ index start stop cell, (Cell.offsets (Cell.translate unit.chars))[index]? = some start →
        (Cell.offsets (Cell.translate unit.chars))[index + 1]? = some stop →
        (Cell.translate unit.chars)[index]? = some cell →
          between start stop unit.chars = [cell.char] ∨
            Spells (between start stop unit.chars) cell.char) ∧
      unit.malformedEscapes.Pairwise (fun first second => first.1 < second.1) ∧
      (∀ index, (∃ error, (index, error) ∈ unit.malformedEscapes) ↔
        index < (Cell.translate unit.chars).length ∧
          Opens unit.chars (Cell.rawIndex (Cell.translate unit.chars) index) ∧
          Unspelled unit.chars (Cell.rawIndex (Cell.translate unit.chars) index)) ∧
      ∀ index error, (index, error) ∈ unit.malformedEscapes →
        ((Cell.translate unit.chars).map Cell.char)[index]? = some '\\' ∧
          ∃ offset, (Cell.offsets (Cell.translate unit.chars))[index]? = some offset ∧
            error = .of .malformedEscape (unit.position offset) := by
  have spelled : ∀ cell ∈ Cell.translate unit.chars, cell.WellSpelled := fun cell member =>
    Cell.wellSpelled_of_mem_translate member
  refine ⟨fun cells => translates_iff, Cell.length_offsets _, Cell.pairwise_offsets spelled,
    ?boundaries, Cell.getElem?_offsets (Nat.zero_le _) ▸ List.head?_eq_getElem?, ?ends, ?slices,
    unit.pairwise_malformedEscapes, ?eligible, ?places⟩
  case boundaries =>
    intro offset member
    obtain ⟨index, -, rfl⟩ := List.mem_map.mp member
    exact Cell.isBoundary_rawOffset unit.chars index
  case ends =>
    rw [Cell.getLast?_offsets, Cell.raw_translate, SourceUnit.chars, byteSize_toList]
  case slices =>
    intro index start stop cell first second found
    obtain ⟨-, rfl⟩ := Cell.eq_of_getElem?_offsets first
    obtain ⟨-, rfl⟩ := Cell.eq_of_getElem?_offsets second
    rw [Cell.between_rawOffset found]
    exact spelled cell (List.mem_of_getElem? found)
  case eligible =>
    intro index
    simp only [SourceUnit.mem_malformedEscapes_iff, exists_and_left, exists_eq, and_true]
    constructor
    · rintro ⟨cell, found, marked⟩
      have here := cellAt_translate found
      exact ⟨(List.getElem?_eq_some_iff.mp found).choose, here.malformed_iff.mp marked⟩
    · rintro ⟨bound, opens, unspelled⟩
      have found := List.getElem?_eq_getElem bound
      exact ⟨_, found, (cellAt_translate found).malformed_iff.mpr ⟨opens, unspelled⟩⟩
  case places =>
    intro index error member
    obtain ⟨⟨cell, found, marked⟩, rfl⟩ := SourceUnit.mem_malformedEscapes_iff.mp member
    have backslash := ((cellAt_translate found).char_of_malformed marked).1
    have bound := (List.getElem?_eq_some_iff.mp found).choose
    refine ⟨?_, _, Cell.getElem?_offsets (Nat.le_of_lt bound), rfl⟩
    rw [List.getElem?_map, found, Option.map_some, backslash]

end JavaLex
