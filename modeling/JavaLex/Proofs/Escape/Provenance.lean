import JavaLex.Proofs.Escape.OffsetMap
import JavaLex.Source.Buffer

/-! # Where the characters of a buffer come from

The width of a character tells whether it was decoded from an escape or copied, because an escape
is longer than the form of any character in UTF-8. A stretch is as wide as its characters exactly
if none of them was decoded: a wider one is never made up for by the others.
-/

namespace JavaLex

open Escape

/-! ## Decoded characters -/

/-- The character at an index of the translation was decoded: where its cell begins in the raw
text an escape opens, and the raw characters of the cell spell it. -/
def DecodedAt (text : List Char) (index : Nat) : Prop :=
  ∃ raw c, (Cell.translate text)[index]? = some ⟨c, raw, false⟩ ∧
    Opens text (Cell.rawIndex (Cell.translate text) index) ∧
    raw <+: text.drop (Cell.rawIndex (Cell.translate text) index) ∧ Spells raw c

/-- A cell was decoded if its raw characters are an escape: copied ones are too short for that. -/
theorem decodedAt_iff {text : List Char} {index : Nat} {cell : Cell}
    (found : (Cell.translate text)[index]? = some cell) :
    DecodedAt text index ↔ Spells cell.raw cell.char := by
  have short : ∀ {c d : Char}, ¬ Spells [d] c := fun spells =>
    absurd spells.length_le (by simp)
  constructor
  · rintro ⟨raw, c, here, -, -, spells⟩
    obtain rfl := Option.some.inj (found.symm.trans here)
    exact spells
  · intro spells
    cases cellAt_translate found with
    | escape opens begins => exact ⟨_, _, found, opens, begins, spells⟩
    | malformed | verbatim => exact absurd spells short

theorem not_decodedAt_of_none {text : List Char} {index : Nat}
    (missing : (Cell.translate text)[index]? = none) : ¬ DecodedAt text index := by
  rintro ⟨raw, c, found, -⟩
  rw [missing] at found
  cases found

/-- No cell of a stretch is an escape if no character of it was decoded. -/
theorem forall_mem_stretch_iff {text : List Char} {first count : Nat} :
    (∀ cell ∈ ((Cell.translate text).drop first).take count, ¬ Spells cell.raw cell.char) ↔
      ∀ index, first ≤ index → index < first + count → ¬ DecodedAt text index := by
  constructor
  · rintro plain index low high ⟨raw, c, found, -, -, spells⟩
    refine plain ⟨c, raw, false⟩ (List.mem_iff_getElem?.mpr ⟨index - first, ?_⟩) spells
    rw [List.getElem?_take_of_lt (by omega), List.getElem?_drop, Nat.add_sub_cancel' low, found]
  · intro copied cell member
    obtain ⟨inner, found⟩ := List.mem_iff_getElem?.mp member
    have within : inner < count := by
      have bound := (List.getElem?_eq_some_iff.mp found).choose
      rw [List.length_take] at bound
      omega
    rw [List.getElem?_take_of_lt within, List.getElem?_drop] at found
    exact mt (decodedAt_iff found).mpr (copied (first + inner) (by omega) (by omega))

/-! ## Buffers -/

namespace Buffer

theorem offsetsFrom_eq (start : Nat) (cells : List Cell) :
    offsetsFrom start cells = (Cell.offsets cells).map (start + ·) := by
  induction cells generalizing start with
  | nil => simp [offsetsFrom, Cell.offsets]
  | cons cell cells ih =>
      rw [offsetsFrom, ih, Cell.offsets_cons, List.map_cons, List.map_map]
      simp [Function.comp_def, Nat.add_assoc]

theorem offset?_ofText (text : List Char) (index : Nat) :
    (ofText text).offset? index = some (Cell.rawOffset (Cell.translate text) index) := by
  have offsets : (ofText text).offsets = Cell.offsets (Cell.translate text) := by
    rw [ofText, offsetsFrom_eq]
    simp
  rw [offset?, offsets, Cell.length_offsets, Nat.add_sub_cancel,
    Cell.getElem?_offsets (Nat.min_le_right _ _), Cell.rawOffset_min]

theorem width?_ofText (text : List Char) (first count : Nat) :
    (ofText text).width? first (first + count) =
      some (byteSize ((((Cell.translate text).drop first).take count).flatMap Cell.raw)) := by
  rw [width?, offset?_ofText, offset?_ofText, Cell.rawOffset_add]
  simp

theorem getElem?_chars_ofText (text : List Char) (index : Nat) :
    (ofText text).chars[index]? = (Cell.translate text)[index]?.map Cell.char :=
  List.getElem?_map

/-- The test on a buffer is that on the cell. -/
theorem isEscaped?_ofText (text : List Char) (index : Nat) :
    (ofText text).isEscaped? index =
      some ((Cell.translate text)[index]?.any Cell.isEscaped) := by
  rw [isEscaped?, getElem?_chars_ofText]
  cases found : (Cell.translate text)[index]? with
  | none => rfl
  | some cell =>
      have alone : ((Cell.translate text).drop index).take 1 = [cell] := by
        rw [List.take_one, List.head?_drop, found, Option.toList_some]
      rw [Option.map_some, width?_ofText, alone, List.flatMap_singleton]
      rfl

end Buffer

/-- The test by width, which is the one on cells, finds the characters that were decoded and no
others. A decoded one has an escape as its raw characters, all of them ASCII, so that its bytes are
as many as they are; any other one has itself. A stretch takes as many bytes as its characters in
UTF-8 exactly if none of them was decoded. -/
theorem escapes_told_by_width (text : List Char) :
    (∀ index, (Buffer.ofText text).isEscaped? index =
          some ((Cell.translate text)[index]?.any Cell.isEscaped) ∧
        ((Buffer.ofText text).isEscaped? index = some true ↔ DecodedAt text index)) ∧
      (∀ index c, (Buffer.ofText text).chars[index]? = some c →
        ∃ start stop raw, (Buffer.ofText text).offset? index = some start ∧
          (Buffer.ofText text).offset? (index + 1) = some stop ∧
          slice? start stop text = some raw ∧
          (DecodedAt text index ∧ Spells raw c ∧ (∀ d ∈ raw, d.toNat < 128) ∧
              stop - start = raw.length ∨
            ¬ DecodedAt text index ∧ raw = [c])) ∧
      ∀ first count, ∃ width, (Buffer.ofText text).width? first (first + count) = some width ∧
        (width = byteSize (((Buffer.ofText text).chars.drop first).take count) ↔
          ∀ index, first ≤ index → index < first + count → ¬ DecodedAt text index) := by
  have spelled : ∀ cell ∈ Cell.translate text, cell.WellSpelled := fun cell member =>
    Cell.wellSpelled_of_mem_translate member
  refine ⟨fun index => ⟨Buffer.isEscaped?_ofText text index, ?test⟩, fun index c here => ?slice,
    fun first count => ⟨_, Buffer.width?_ofText text first count, ?stretch⟩⟩
  case test =>
    rw [Buffer.isEscaped?_ofText, Option.some_inj]
    cases found : (Cell.translate text)[index]? with
    | none => simp [not_decodedAt_of_none found]
    | some cell =>
        rw [Option.any_some, decodedAt_iff found]
        exact (spelled cell (List.mem_of_getElem? found)).isEscaped_iff
  case slice =>
    rw [Buffer.getElem?_chars_ofText] at here
    obtain ⟨cell, found, rfl⟩ := Option.map_eq_some_iff.mp here
    have cut := Cell.slice?_rawOffset text (Nat.le_add_right index 1)
    rw [Cell.between_rawOffset found] at cut
    refine ⟨_, _, cell.raw, Buffer.offset?_ofText text index,
      Buffer.offset?_ofText text (index + 1), cut, ?_⟩
    rw [decodedAt_iff found, Cell.rawOffset_succ found, Nat.add_sub_cancel_left]
    by_cases spells : Spells cell.raw cell.char
    · refine .inl ⟨spells, spells, fun d member => ?_, spells.byteSize⟩
      exact Nat.lt_succ_of_le (Char.utf8Size_eq_one_iff.mp (spells.ascii member).1)
    · exact .inr ⟨spells, (spelled cell (List.mem_of_getElem? found)).resolve_right spells⟩
  case stretch =>
    have within : ∀ cell ∈ ((Cell.translate text).drop first).take count, cell.WellSpelled :=
      fun cell member => spelled cell (List.mem_of_mem_drop (List.mem_of_mem_take member))
    have chars : ((Buffer.ofText text).chars.drop first).take count =
        (((Cell.translate text).drop first).take count).map Cell.char := by
      rw [List.map_take, List.map_drop]
      rfl
    rw [chars, Cell.byteSize_raw_eq_chars_iff within]
    exact forall_mem_stretch_iff

/-- An escape of two surrogates behind a character of two bytes. -/
theorem escapes_told_by_width_pair :
    (Buffer.ofText "é\\uD83D\\uDE00".toList).chars[1]? = some '😀' ∧
      DecodedAt "é\\uD83D\\uDE00".toList 1 ∧
      ∃ start stop raw, slice? start stop "é\\uD83D\\uDE00".toList = some raw ∧
        Spells raw '😀' ∧ stop - start = raw.length := by
  have here : (Buffer.ofText "é\\uD83D\\uDE00".toList).chars[1]? = some '😀' := by
    decide +kernel
  have wide : (Buffer.ofText "é\\uD83D\\uDE00".toList).isEscaped? 1 = some true := by
    decide +kernel
  obtain ⟨test, slices, -⟩ := escapes_told_by_width "é\\uD83D\\uDE00".toList
  have decoded := (test 1).2.mp wide
  obtain ⟨start, stop, raw, -, -, cut, ⟨-, spells, -, size⟩ | ⟨copied, -⟩⟩ := slices 1 '😀' here
  · exact ⟨here, decoded, start, stop, raw, cut, spells, size⟩
  · exact absurd decoded copied

end JavaLex
