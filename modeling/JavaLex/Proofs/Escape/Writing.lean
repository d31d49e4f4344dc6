import JavaLex.Proofs.Escape.OffsetMap
import JavaLex.Proofs.Escape.Respelling

/-! # Texts written character by character

Each character of a text may be written as it is or as an escape, with any number of letters `u`
and each digit in either case. `spells_iff_write` says that escapes have no other spellings, and
`translate_written` that the translation takes every writing of a text back to the text.
-/

namespace JavaLex

open Charset

namespace Escape

/-! ## Digits -/

def hexDigit (capital : Bool) (value : Nat) : Char :=
  if capital then value.digitChar.toUpper else value.digitChar

/-- The last `count` hexadecimal digits of a number, each in the case given for its index. -/
def hexDigits (capitals : Nat → Bool) : Nat → Nat → List Char
  | 0, _ => []
  | count + 1, value =>
      hexDigits capitals count (value / 16) ++ [hexDigit (capitals count) (value % 16)]

theorem digit?_hexDigit (capital : Bool) {value : Nat} (bound : value < 16) :
    digit? 16 (hexDigit capital value) = some value := by
  have small : ∀ value < 16, digit? 16 (hexDigit false value) = some value := by decide
  have large : ∀ value < 16, digit? 16 (hexDigit true value) = some value := by decide
  cases capital with
  | false => exact small value bound
  | true => exact large value bound

theorem length_hexDigits (capitals : Nat → Bool) (count value : Nat) :
    (hexDigits capitals count value).length = count := by
  induction count generalizing value with
  | zero => rfl
  | succ count ih => rw [hexDigits, List.length_append, ih, List.length_singleton]

theorem isDigitOf_of_mem_hexDigits {capitals : Nat → Bool} {count value : Nat} {d : Char}
    (member : d ∈ hexDigits capitals count value) : isDigitOf 16 d = true := by
  induction count generalizing value with
  | zero => cases member
  | succ count ih =>
      rcases List.mem_append.mp member with front | last
      · exact ih front
      · obtain rfl := List.mem_singleton.mp last
        rw [isDigitOf, digit?_hexDigit _ (Nat.mod_lt _ (by decide))]
        rfl

theorem valueOf_hexDigits (capitals : Nat → Bool) {count value : Nat}
    (bound : value < Nat.pow 16 count) : valueOf 16 (hexDigits capitals count value) = value := by
  induction count generalizing value with
  | zero => exact (Nat.lt_one_iff.mp bound).symm
  | succ count ih =>
      have front : value / 16 < Nat.pow 16 count :=
        Nat.div_lt_of_lt_mul (Nat.lt_of_lt_of_eq bound (Nat.mul_comm _ _))
      rw [hexDigits, valueOf_append_singleton, ih front,
        digit?_hexDigit _ (Nat.mod_lt _ (by decide)), Option.getD_some]
      omega

theorem hexDigits_congr {capitals others : Nat → Bool} {count : Nat}
    (same : ∀ index < count, capitals index = others index) (value : Nat) :
    hexDigits capitals count value = hexDigits others count value := by
  induction count generalizing value with
  | zero => rfl
  | succ count ih =>
      rw [hexDigits, hexDigits, same count (Nat.lt_succ_self _),
        ih fun index lt => same index (Nat.lt_succ_of_lt lt)]

theorem hexDigit_of_isDigitOf {d : Char} (digit : isDigitOf 16 d = true) :
    hexDigit d.isUpper ((digit? 16 d).getD 0) = d := by
  have ascii : ∀ code < 123, isDigitOf 16 (Char.ofNat code) = true →
      hexDigit (Char.ofNat code).isUpper ((digit? 16 (Char.ofNat code)).getD 0) =
        Char.ofNat code := by
    decide
  have bound : d.toNat < 123 := Nat.lt_succ_of_le (bounds_of_isDigitOf digit).2
  have same := ascii d.toNat bound
  rw [Char.ofNat_toNat] at same
  exact same digit

/-- Digits are those of the number that they denote, in some cases. -/
theorem exists_hexDigits {count : Nat} {digits : List Char} (length : digits.length = count)
    (hex : ∀ d ∈ digits, isDigitOf 16 d = true) :
    ∃ capitals, digits = hexDigits capitals count (valueOf 16 digits) := by
  induction count generalizing digits with
  | zero => exact ⟨fun _ => false, List.length_eq_zero_iff.mp length⟩
  | succ count ih =>
      obtain rfl | ⟨front, last, rfl⟩ := List.eq_nil_or_concat digits
      · cases length
      · rw [List.concat_eq_append] at length hex ⊢
        rw [List.length_append, List.length_singleton, Nat.succ.injEq] at length
        obtain ⟨capitals, written⟩ :=
          ih length fun d member => hex d (List.mem_append_left _ member)
        have digit := hex last (List.mem_append_right _ List.mem_cons_self)
        have bound : (digit? 16 last).getD 0 < 16 := getD_digit?_lt (by decide) last
        refine ⟨fun index => if index = count then last.isUpper else capitals index, ?_⟩
        have kept : ∀ value, hexDigits (fun index =>
            if index = count then last.isUpper else capitals index) count value =
              hexDigits capitals count value :=
          hexDigits_congr fun index lt => if_neg (Nat.ne_of_lt lt)
        rw [valueOf_append_singleton, hexDigits, kept, if_pos rfl]
        rw [show (valueOf 16 front * 16 + (digit? 16 last).getD 0) / 16 = valueOf 16 front by omega,
          show (valueOf 16 front * 16 + (digit? 16 last).getD 0) % 16 = (digit? 16 last).getD 0
            by omega, ← written, hexDigit_of_isDigitOf digit]

/-! ## Escapes -/

/-- How the escape of a code unit is written: the letters `u` beyond the first, and which of its
digits are capitals. -/
structure UnitStyle where
  marks : Nat
  capitals : Nat → Bool

def UnitStyle.write (style : UnitStyle) (unit : Nat) : List Char :=
  '\\' :: (List.replicate (style.marks + 1) 'u' ++ hexDigits style.capitals 4 unit)

theorem spellsUnit_iff_write {raw : List Char} {unit : Nat} :
    SpellsUnit raw unit ↔ unit < 0x10000 ∧ ∃ style : UnitStyle, raw = style.write unit := by
  constructor
  · intro spells
    refine ⟨spells.lt, ?_⟩
    obtain ⟨marks, digits, rfl, length, hex, rfl⟩ := spells
    obtain ⟨capitals, written⟩ := exists_hexDigits length hex
    exact ⟨⟨marks, capitals⟩, by rw [UnitStyle.write, ← written]⟩
  · rintro ⟨bound, style, rfl⟩
    exact ⟨style.marks, _, rfl, length_hexDigits _ _ _, fun d => isDigitOf_of_mem_hexDigits,
      valueOf_hexDigits _ bound⟩

def highSurrogate (c : Char) : Nat :=
  0xd800 + (c.toNat - 0x10000) / 0x400

def lowSurrogate (c : Char) : Nat :=
  0xdc00 + (c.toNat - 0x10000) % 0x400

/-- The escape of a character, or its two escapes if it is supplementary; the second style is for
the second of them. -/
def write (first second : UnitStyle) (c : Char) : List Char :=
  if c.toNat < 0x10000 then first.write c.toNat
  else first.write (highSurrogate c) ++ second.write (lowSurrogate c)

private theorem toNat_bounds (c : Char) :
    c.toNat < 0xd800 ∨ 0xdfff < c.toNat ∧ c.toNat < 0x110000 :=
  c.valid

/-- The surrogates of a supplementary character, and the character that they stand for. -/
private theorem surrogates_of_le {c : Char} (supplementary : 0x10000 ≤ c.toNat) :
    isHighSurrogate (highSurrogate c) = true ∧ isLowSurrogate (lowSurrogate c) = true ∧
      c.toNat = 0x10000 + (highSurrogate c - 0xd800) * 0x400 + (lowSurrogate c - 0xdc00) := by
  have valid := toNat_bounds c
  unfold isHighSurrogate isLowSurrogate highSurrogate lowSurrogate
  refine ⟨Bool.and_eq_true_iff.mpr ⟨decide_eq_true ?_, decide_eq_true ?_⟩,
    Bool.and_eq_true_iff.mpr ⟨decide_eq_true ?_, decide_eq_true ?_⟩, ?_⟩ <;> omega

private theorem lt_of_isSurrogate {unit : Nat}
    (surrogate : isHighSurrogate unit = true ∨ isLowSurrogate unit = true) : unit < 0x10000 := by
  simp only [isHighSurrogate, isLowSurrogate, Bool.and_eq_true, decide_eq_true_eq] at surrogate
  omega

theorem spells_write (first second : UnitStyle) (c : Char) : Spells (write first second c) c := by
  unfold write
  split
  · next bound =>
    have valid := toNat_bounds c
    refine .unit (spellsUnit_iff_write.mpr ⟨bound, first, rfl⟩) ?_ ?_ rfl
    · simp only [isHighSurrogate, Bool.and_eq_false_iff, decide_eq_false_iff_not]
      omega
    · simp only [isLowSurrogate, Bool.and_eq_false_iff, decide_eq_false_iff_not]
      omega
  · next supplementary =>
    obtain ⟨high, low, value⟩ := surrogates_of_le (Nat.le_of_not_lt supplementary)
    exact .pair (spellsUnit_iff_write.mpr ⟨lt_of_isSurrogate (.inl high), first, rfl⟩)
      (spellsUnit_iff_write.mpr ⟨lt_of_isSurrogate (.inr low), second, rfl⟩) high low value

/-- The spellings of a character are the ways of writing its escape. -/
theorem spells_iff_write {raw : List Char} {c : Char} :
    Spells raw c ↔ ∃ first second, raw = write first second c := by
  constructor
  · intro spells
    cases spells with
    | unit unit high low value =>
        obtain ⟨bound, style, rfl⟩ := spellsUnit_iff_write.mp unit
        exact ⟨style, style, by rw [write, value, if_pos bound]⟩
    | @pair _ _ opening closing _ first second high low value =>
        obtain ⟨-, style, rfl⟩ := spellsUnit_iff_write.mp first
        obtain ⟨-, other, rfl⟩ := spellsUnit_iff_write.mp second
        simp only [isHighSurrogate, isLowSurrogate, Bool.and_eq_true, decide_eq_true_eq] at high low
        have opens : highSurrogate c = opening := by
          unfold highSurrogate
          omega
        have closes : lowSurrogate c = closing := by
          unfold lowSurrogate
          omega
        exact ⟨style, other, by rw [write, if_neg (by omega), opens, closes]⟩
  · rintro ⟨first, second, rfl⟩
    exact spells_write first second c

end Escape

/-! ## Texts -/

inductive Writing where
  | verbatim
  | escaped (first second : Escape.UnitStyle)

/-- A character and how it is written; a backslash is always written as an escape. -/
structure WrittenChar where
  char : Char
  writing : Writing
  allowed : writing = .verbatim → char ≠ '\\'

namespace WrittenChar

def raw (written : WrittenChar) : List Char :=
  match written.writing with
  | .verbatim => [written.char]
  | .escaped first second => Escape.write first second written.char

def cell (written : WrittenChar) : Cell :=
  ⟨written.char, written.raw, false⟩

def text (pieces : List WrittenChar) : List Char :=
  pieces.flatMap raw

/-- Each piece is translated by itself: no escape borrows from the piece after it, and none opens
in a piece that is written verbatim. -/
theorem translate_text (pieces : List WrittenChar) :
    Cell.translate (text pieces) = pieces.map cell := by
  induction pieces with
  | nil => simp [text, Cell.translate, Cell.translateAfter]
  | cons piece pieces ih =>
      rw [text, List.flatMap_cons, ← text, List.map_cons, ← ih]
      obtain ⟨c, writing, allowed⟩ := piece
      cases writing with
      | verbatim => exact Cell.translate_cons (allowed rfl) _
      | escaped first second => exact Cell.translate_append (Escape.spells_write first second c) _

end WrittenChar

/-- The translation of a text that is written character by character gives the characters, finds
no malformed escape, and places each character at the byte where its piece starts. Every spelling
of an escape is such a writing. -/
theorem translate_written :
    (∀ (name : String) (pieces : List WrittenChar),
      let unit : SourceUnit := ⟨name, String.ofList (WrittenChar.text pieces)⟩
      (Cell.translate unit.chars).map Cell.char = pieces.map WrittenChar.char ∧
        unit.malformedEscapes = [] ∧
        Cell.offsets (Cell.translate unit.chars) =
          (pieces.map fun piece => byteSize piece.raw).scanl (· + ·) 0) ∧
    ∀ raw c, Escape.Spells raw c ↔ ∃ first second, raw = Escape.write first second c := by
  refine ⟨fun name pieces => ?_, fun raw c => Escape.spells_iff_write⟩
  have cells : Cell.translate (SourceUnit.mk name (String.ofList (WrittenChar.text pieces))).chars =
      pieces.map WrittenChar.cell := by
    rw [SourceUnit.chars, String.toList_ofList, WrittenChar.translate_text]
  refine ⟨?_, SourceUnit.malformedEscapes_of_sound fun cell member => ?_, ?_⟩
  · rw [cells, List.map_map]
    rfl
  · rw [cells] at member
    obtain ⟨piece, -, rfl⟩ := List.mem_map.mp member
    rfl
  · rw [cells, Cell.offsets_eq_scanl, List.map_map]
    rfl

/-- An escaped backslash, then a letter and digits as they stand: they are no second escape. After
them, a supplementary character as two escapes. -/
theorem translate_written_backslash :
    (Cell.translate "\\uu005Cu0041\\ud83D\\uDE00".toList).map Cell.char = "\\u0041😀".toList ∧
      (SourceUnit.mk "Pair.java" "\\uu005Cu0041\\ud83D\\uDE00").malformedEscapes = [] ∧
      Cell.offsets (Cell.translate "\\uu005Cu0041\\ud83D\\uDE00".toList) =
        [0, 7, 8, 9, 10, 11, 12, 24] := by
  let asIs (c : Char) (other : c ≠ '\\') : WrittenChar := ⟨c, .verbatim, fun _ => other⟩
  let pieces : List WrittenChar :=
    [⟨'\\', .escaped ⟨1, fun _ => true⟩ ⟨0, fun _ => false⟩, nofun⟩,
      asIs 'u' (by decide), asIs '0' (by decide), asIs '0' (by decide), asIs '4' (by decide),
      asIs '1' (by decide), ⟨'😀', .escaped ⟨0, (· == 3)⟩ ⟨0, fun _ => true⟩, nofun⟩]
  have spelled : String.ofList (WrittenChar.text pieces) = "\\uu005Cu0041\\ud83D\\uDE00" := by
    decide +kernel
  obtain ⟨chars, sound, offsets⟩ := translate_written.1 "Pair.java" pieces
  rw [spelled] at chars sound offsets
  refine ⟨chars, sound, offsets.trans ?_⟩
  decide +kernel

end JavaLex
