import JavaLex.Lexeme
import JavaLex.Proofs.Escape.Respelling

/-! # Runs of malformed escapes

An escape that gives no character is still written with letters `u` and hexadecimal digits. Its
run is the longest such text after the backslash, of four digits at most. The run of the raw text
is what the escape consists of; the scanner looks for the run among translated characters, where an
escape that follows may go on with it.
-/

namespace JavaLex

open Charset

namespace Escape

def IsRun (text : List Char) : Prop :=
  ∃ marks digits, text = List.replicate marks 'u' ++ digits ∧ digits.length ≤ 4 ∧
    ∀ d ∈ digits, isDigitOf 16 d = true

/-- The run is the longest one at the front of the text that the rest completes. -/
structure LongestRun (run rest : List Char) : Prop where
  isRun : IsRun run
  longest : ∀ front, IsRun front → front <+: run ++ rest → front.length ≤ run.length

/-- An escape at the front of the rest gives a character that the run goes on with. -/
def Absorbs (run rest : List Char) : Prop :=
  ∃ raw c, raw <+: rest ∧ Spells raw c ∧ IsRun (run ++ [c])

/-! ## Runs -/

namespace IsRun

theorem of_prefix {front run : List Char} (isRun : IsRun run) (starts : front <+: run) :
    IsRun front := by
  obtain ⟨marks, digits, rfl, short, hex⟩ := isRun
  rw [List.prefix_iff_eq_take.mp starts, List.take_append, List.take_replicate]
  refine ⟨_, _, rfl, Nat.le_trans (List.length_take_le' _ _) short, fun d member => ?_⟩
  exact hex d (List.mem_of_mem_take member)

theorem not_mem {run : List Char} (isRun : IsRun run) : '\\' ∉ run := by
  obtain ⟨marks, digits, rfl, -, hex⟩ := isRun
  intro member
  rcases List.mem_append.mp member with mark | digit
  · exact absurd (List.eq_of_mem_replicate mark) (by decide)
  · exact absurd (hex _ digit) (by decide)

end IsRun

namespace LongestRun

variable {run rest run' rest' : List Char}

theorem unique (longest : LongestRun run rest) (longest' : LongestRun run' rest')
    (same : run ++ rest = run' ++ rest') : run = run' ∧ rest = rest' := by
  have no_longer := longest'.longest run longest.isRun ⟨rest, same⟩
  have no_shorter := longest.longest run' longest'.isRun ⟨rest', same.symm⟩
  exact List.append_inj same (Nat.le_antisymm no_longer no_shorter)

/-- A run is the longest if the character after it does not go on with it. -/
theorem of_head? (isRun : IsRun run) (stops : ∀ c ∈ rest.head?, ¬ IsRun (run ++ [c])) :
    LongestRun run rest where
  isRun := isRun
  longest front candidate starts := by
    refine Nat.le_of_not_lt fun longer => ?_
    obtain ⟨more, rfl⟩ : run <+: front :=
      List.prefix_of_prefix_length_le (List.prefix_append run rest) starts (Nat.le_of_lt longer)
    have further := (List.prefix_append_right_inj run).mp starts
    cases more with
    | nil => simp at longer
    | cons c more =>
        obtain ⟨left, rfl⟩ := further
        exact stops c rfl (candidate.of_prefix ⟨more, by simp⟩)

theorem stops (longest : LongestRun run rest) : ∀ c ∈ rest.head?, ¬ IsRun (run ++ [c]) := by
  intro c next isRun
  obtain ⟨left, rfl⟩ := List.head?_eq_some_iff.mp next
  have longer := longest.longest (run ++ [c]) isRun ⟨left, by simp⟩
  rw [List.length_append, List.length_singleton] at longer
  omega

end LongestRun

/-! ## What recovery takes -/

def frontRun (text : List Char) : List Char :=
  let marks := text.takeWhile (· == 'u')
  marks ++ ((text.drop marks.length).take 4).takeWhile (isDigitOf 16)

theorem size_malformedEscape_eq (text : List Char) :
    (Lexeme.malformedEscape text).size = (frontRun text).length + 1 := by
  rw [frontRun, List.length_append]
  rfl

theorem frontRun_prefix (text : List Char) : frontRun text <+: text := by
  unfold frontRun
  extract_lets marks
  have letters : marks ++ text.drop marks.length = text :=
    List.prefix_iff_eq_append.mp (List.takeWhile_prefix _)
  have digits : ((text.drop marks.length).take 4).takeWhile (isDigitOf 16) <+:
      text.drop marks.length :=
    (List.takeWhile_prefix _).trans (List.take_prefix _ _)
  have whole := (List.prefix_append_right_inj marks).mpr digits
  rwa [letters] at whole

theorem isRun_frontRun (text : List Char) : IsRun (frontRun text) := by
  unfold frontRun
  extract_lets marks
  have letters : marks = List.replicate marks.length 'u' :=
    List.eq_replicate_of_mem fun c member =>
      eq_of_beq (List.all_eq_true.mp List.all_takeWhile c member)
  have short : (((text.drop marks.length).take 4).takeWhile (isDigitOf 16)).length ≤ 4 :=
    Nat.le_trans (List.takeWhile_prefix _).length_le (List.length_take_le _ _)
  exact ⟨marks.length, _, congrArg (· ++ _) letters, short, List.all_eq_true.mp List.all_takeWhile⟩

theorem frontRun_append_marks (count : Nat) (rest : List Char) :
    frontRun (List.replicate count 'u' ++ rest) = List.replicate count 'u' ++ frontRun rest := by
  simp [frontRun, List.drop_append]

/-- Digits are taken as they stand, because a digit is no letter of the run. -/
theorem frontRun_of_digits {digits : List Char} (some : digits ≠ []) (short : digits.length ≤ 4)
    (hex : ∀ d ∈ digits, isDigitOf 16 d = true) (rest : List Char) :
    digits <+: frontRun (digits ++ rest) := by
  obtain ⟨d, more, rfl⟩ := List.exists_cons_of_ne_nil some
  have other : d ≠ 'u' := ne_mark_of_isDigitOf (hex d (.head _))
  have none : (d :: more ++ rest).takeWhile (· == 'u') = [] := by simp [other]
  rw [frontRun, none, List.nil_append, List.length_nil, List.drop_zero, List.take_append,
    List.take_of_length_le short, List.takeWhile_append_of_pos hex]
  exact List.prefix_append _ _

/-- Recovery takes the backslash and the longest run after it. -/
theorem exists_longestRun (text : List Char) :
    ∃ run rest, text = run ++ rest ∧ LongestRun run rest ∧
      (Lexeme.malformedEscape text).size = run.length + 1 := by
  obtain ⟨rest, whole⟩ := frontRun_prefix text
  refine ⟨frontRun text, rest, whole.symm, ⟨isRun_frontRun text, fun front isRun starts => ?_⟩,
    size_malformedEscape_eq text⟩
  rw [whole] at starts
  obtain ⟨count, digits, rfl, short, hex⟩ := isRun
  obtain ⟨left, rfl⟩ := starts
  rw [List.append_assoc, frontRun_append_marks, List.length_append, List.length_append]
  refine Nat.add_le_add_left ?_ _
  by_cases some : digits = []
  · simp [some]
  · exact (frontRun_of_digits some short hex left).length_le

end Escape

namespace Cell

open Escape

/-! ## Cells of a run -/

@[simp] theorem char_comp_verbatim : char ∘ verbatim = id := rfl

@[simp] theorem raw_map_verbatim (text : List Char) :
    (text.map verbatim).flatMap raw = text := by
  induction text with
  | nil => rfl
  | cons c text ih =>
      rw [List.map_cons, List.flatMap_cons, ih]
      rfl

theorem translate_append_of_not_mem {front : List Char} (plain : '\\' ∉ front)
    (rest : List Char) : translate (front ++ rest) = front.map verbatim ++ translate rest := by
  induction front with
  | nil => rfl
  | cons c front ih =>
      rw [List.mem_cons, not_or] at plain
      rw [List.cons_append, translate_cons (Ne.symm plain.1), ih plain.2, List.map_cons,
        List.cons_append]

/-- A marked cell is the backslash at which its raw text goes on, and the cells after it are those
of the text after the backslash. -/
theorem exists_of_malformed {odd : Bool} {text : List Char} {index : Nat} {cell : Cell}
    {cells : List Cell} (here : (translateAfter odd text).drop index = cell :: cells)
    (marked : cell.malformed = true) :
    ∃ before after, text = before ++ '\\' :: after ∧
      ((translateAfter odd text).take index).flatMap raw = before ∧ cells = translate after := by
  fun_induction translateAfter odd text generalizing index with
  | case1 => simp at here
  | case2 odd c rest starts decoded size found ih =>
      cases index with
      | zero =>
          obtain ⟨rfl, -⟩ := List.cons.inj here
          cases marked
      | succ index =>
          obtain ⟨before, after, whole, spelled, rfl⟩ := ih here
          refine ⟨c :: rest.take size ++ before, after, ?_, by simp [spelled], rfl⟩
          rw [List.append_assoc, ← whole, List.cons_append, List.take_append_drop]
  | case3 odd c rest starts missing ih =>
      cases index with
      | zero =>
          obtain ⟨-, rfl⟩ := List.cons.inj here
          simp only [Bool.and_eq_true, beq_iff_eq] at starts
          obtain ⟨⟨rfl, -⟩, follows⟩ := starts
          obtain ⟨after, rfl⟩ := List.head?_eq_some_iff.mp follows
          -- the letter is no backslash, so the parity before it makes no difference
          exact ⟨[], 'u' :: after, rfl, rfl, by simp [translate, translateAfter]⟩
      | succ index =>
          obtain ⟨before, after, whole, spelled, rfl⟩ := ih here
          exact ⟨c :: before, after, by rw [whole]; rfl, by simp [spelled], rfl⟩
  | case4 odd c rest closed ih =>
      cases index with
      | zero =>
          obtain ⟨rfl, -⟩ := List.cons.inj here
          cases marked
      | succ index =>
          obtain ⟨before, after, whole, spelled, rfl⟩ := ih here
          exact ⟨c :: before, after, by rw [whole]; rfl, by simp [spelled, verbatim], rfl⟩

/-- The first cell of a text is its first character or an escape at its front. -/
theorem head?_translate {text : List Char} {cell : Cell}
    (first : (translate text).head? = some cell) :
    text.head? = some cell.char ∨ (cell.raw <+: text ∧ Spells cell.raw cell.char) := by
  have found : (translate text)[0]? = some cell := by rwa [← List.head?_eq_getElem?]
  cases cellAt_translate found with
  | escape _ starts spells => exact .inr ⟨starts, spells⟩
  | malformed opens => exact .inl (List.head?_eq_getElem?.trans opens.1)
  | verbatim _ here => exact .inl (List.head?_eq_getElem?.trans here)

end Cell

namespace Escape.LongestRun

variable {run rest : List Char}

/-- Translated, the run of a raw text goes on with an escape or not at all. -/
theorem translated_iff (longest : LongestRun run rest) :
    LongestRun run ((Cell.translate rest).map Cell.char) ↔ ¬ Absorbs run rest := by
  constructor
  · rintro stays ⟨raw, c, ⟨left, rfl⟩, spells, isRun⟩
    refine stays.stops c ?_ isRun
    rw [Cell.translate_append spells]
    rfl
  · intro none
    refine .of_head? longest.isRun fun c next isRun => ?_
    rw [List.head?_map] at next
    obtain ⟨cell, first, rfl⟩ := Option.map_eq_some_iff.mp next
    rcases Cell.head?_translate first with verbatim | ⟨starts, spells⟩
    · exact longest.stops _ verbatim isRun
    · exact none ⟨_, _, starts, spells, isRun⟩

end Escape.LongestRun

/-- Recovery takes the run of the raw text, and then the cells that the run goes on with among
translated characters: some exactly if an escape is absorbed. -/
theorem Escape.exists_taken (text : List Char) :
    ∃ run rest taken left, text = run ++ rest ∧ LongestRun run rest ∧
      Cell.translate rest = taken ++ left ∧
      LongestRun (run ++ taken.map Cell.char) (left.map Cell.char) ∧
      (taken = [] ↔ ¬ Absorbs run rest) ∧
      (Lexeme.malformedEscape ((Cell.translate text).map Cell.char)).size =
        run.length + taken.length + 1 := by
  obtain ⟨run, rest, rfl, longest, -⟩ := exists_longestRun text
  have chars : (Cell.translate (run ++ rest)).map Cell.char =
      run ++ (Cell.translate rest).map Cell.char := by
    rw [Cell.translate_append_of_not_mem longest.isRun.not_mem, List.map_append, List.map_map,
      Cell.char_comp_verbatim, List.map_id]
  obtain ⟨whole, after, same, goesOn, size⟩ :=
    exists_longestRun (run ++ (Cell.translate rest).map Cell.char)
  -- the run of the raw text is a run of the translated text, though perhaps not the longest
  obtain ⟨more, rfl⟩ : run <+: whole :=
    List.prefix_of_prefix_length_le (List.prefix_append run _) ⟨after, same.symm⟩
      (goesOn.longest run longest.isRun ⟨_, same⟩)
  rw [List.append_assoc, List.append_cancel_left_eq] at same
  obtain ⟨taken, left, cells, rfl, rfl⟩ := List.map_eq_append_iff.mp same
  refine ⟨run, rest, taken, left, rfl, longest, cells, goesOn, ?_, ?_⟩
  · rw [← longest.translated_iff, cells, List.map_append]
    constructor
    · rintro rfl
      simpa using goesOn
    · intro stays
      have sizes := congrArg List.length (stays.unique goesOn (by simp)).1
      rw [List.length_append, List.length_map] at sizes
      exact List.eq_nil_of_length_eq_zero (by omega)
  · rw [chars, size, List.length_append, List.length_map]

end JavaLex
