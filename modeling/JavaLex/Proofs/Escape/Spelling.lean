import JavaLex.Source.Escape

/-! # Spellings of unicode escapes

`Spells` is the grammar of well-formed escapes, backslash included. The decoder looks at the text
after a backslash; `decode?_eq_some_iff` says that it succeeds exactly on the texts whose front
the grammar derives, and then gives the character and the extent that the grammar gives.
-/

namespace JavaLex.Escape

open Charset

/-- A backslash, one or more letters `u` and four hexadecimal digits spell a code unit. -/
def SpellsUnit (raw : List Char) (unit : Nat) : Prop :=
  ∃ marks digits, raw = '\\' :: (List.replicate (marks + 1) 'u' ++ digits) ∧
    digits.length = 4 ∧ (∀ d ∈ digits, isDigitOf 16 d = true) ∧ valueOf 16 digits = unit

/-- The spelling of a character: that of a code unit which is no surrogate, or those of a high
and a low surrogate next to each other. -/
inductive Spells : List Char → Char → Prop where
  | unit {raw : List Char} {unit : Nat} {c : Char} : SpellsUnit raw unit →
      isHighSurrogate unit = false → isLowSurrogate unit = false → c.toNat = unit → Spells raw c
  | pair {first second : List Char} {high low : Nat} {c : Char} : SpellsUnit first high →
      SpellsUnit second low → isHighSurrogate high = true → isLowSurrogate low = true →
      c.toNat = 0x10000 + (high - 0xd800) * 0x400 + (low - 0xdc00) → Spells (first ++ second) c

/-! ## Code units -/

theorem SpellsUnit.cons {raw : List Char} {unit : Nat} (spells : SpellsUnit raw unit) :
    ∃ spelled, raw = '\\' :: spelled := by
  obtain ⟨marks, digits, rfl, -⟩ := spells
  exact ⟨_, rfl⟩

theorem SpellsUnit.lt {raw : List Char} {unit : Nat} (spells : SpellsUnit raw unit) :
    unit < 0x10000 := by
  obtain ⟨marks, digits, -, length, -, rfl⟩ := spells
  have bound : valueOf 16 digits < Nat.pow 16 digits.length := valueOf_lt (by decide) digits
  rwa [length] at bound

theorem ne_mark_of_isDigitOf {d : Char} (digit : isDigitOf 16 d = true) : d ≠ 'u' := by
  rintro rfl
  exact absurd digit (by decide)

/-- The letters `u` end where the digits begin, because `u` is no digit. -/
private theorem takeWhile_marks (marks : Nat) {digits : List Char} (rest : List Char)
    (length : digits.length = 4) (hex : ∀ d ∈ digits, isDigitOf 16 d = true) :
    (List.replicate marks 'u' ++ digits ++ rest).takeWhile (· == 'u') =
      List.replicate marks 'u' := by
  cases digits with
  | nil => simp at length
  | cons d digits =>
      have other : d ≠ 'u' := ne_mark_of_isDigitOf (hex d (.head _))
      simp [other]

/-- A code unit is read exactly where the text begins with a spelling of it. -/
theorem codeUnit?_eq_some_iff {text : List Char} {unit size : Nat} :
    codeUnit? text = some (unit, size) ↔
      ∃ spelled rest, text = spelled ++ rest ∧ size = spelled.length ∧
        SpellsUnit ('\\' :: spelled) unit := by
  constructor
  · intro found
    obtain ⟨marks, run⟩ : ∃ marks, text.takeWhile (· == 'u') = List.replicate marks 'u' :=
      ⟨_, List.eq_replicate_of_mem fun c hc => by
        simpa using List.all_eq_true.mp List.all_takeWhile c hc⟩
    have whole : List.replicate marks 'u' ++ text.drop marks = text := by
      simpa [run] using List.prefix_iff_eq_append.mp (List.takeWhile_prefix (l := text) (· == 'u'))
    simp only [codeUnit?, run, List.length_replicate] at found
    split at found
    · next valid =>
      simp only [Bool.and_eq_true, decide_eq_true_eq, beq_iff_eq, List.all_eq_true] at valid
      obtain ⟨⟨positive, length⟩, hex⟩ := valid
      obtain ⟨marks, rfl⟩ : ∃ fewer, marks = fewer + 1 := ⟨marks - 1, by omega⟩
      obtain ⟨rfl, rfl⟩ :
          valueOf 16 ((text.drop (marks + 1)).take 4) = unit ∧ marks + 1 + 4 = size := by
        simpa using found
      refine ⟨List.replicate (marks + 1) 'u' ++ (text.drop (marks + 1)).take 4,
        (text.drop (marks + 1)).drop 4, ?_, ?_, marks, _, rfl, length, hex, rfl⟩
      · rw [List.append_assoc, List.take_append_drop, whole]
      · rw [List.length_append, List.length_replicate, length]
    · cases found
  · rintro ⟨spelled, rest, rfl, rfl, marks, digits, spelling, length, hex, rfl⟩
    obtain rfl : spelled = List.replicate (marks + 1) 'u' ++ digits := by simpa using spelling
    have read :
        ((List.replicate (marks + 1) 'u' ++ digits ++ rest).drop (marks + 1)).take 4 = digits := by
      rw [List.append_assoc, List.drop_left' (by simp), List.take_left' length]
    unfold codeUnit?
    rw [takeWhile_marks (marks + 1) rest length hex]
    dsimp only
    rw [List.length_replicate, read]
    simpa [length] using hex

/-! ## Characters -/

private theorem toNat_ofNat_of_unit {unit : Nat} (bound : unit < 0x10000)
    (high : isHighSurrogate unit = false) (low : isLowSurrogate unit = false) :
    (Char.ofNat unit).toNat = unit := by
  have valid : unit.isValidChar := by
    simp only [isHighSurrogate, isLowSurrogate, Bool.and_eq_false_iff,
      decide_eq_false_iff_not] at high low
    unfold Nat.isValidChar
    omega
  rw [Char.ofNat, dif_pos valid]
  rfl

private theorem toNat_joinSurrogates {high low : Nat} (isHigh : isHighSurrogate high = true)
    (isLow : isLowSurrogate low = true) :
    (joinSurrogates high low).toNat = 0x10000 + (high - 0xd800) * 0x400 + (low - 0xdc00) := by
  have valid : (0x10000 + (high - 0xd800) * 0x400 + (low - 0xdc00)).isValidChar := by
    simp only [isHighSurrogate, isLowSurrogate, Bool.and_eq_true, decide_eq_true_eq] at isHigh isLow
    unfold Nat.isValidChar
    omega
  rw [joinSurrogates, Char.ofNat, dif_pos valid]
  rfl

private theorem spells_of_decode? {text : List Char} {c : Char} {size : Nat}
    (found : decode? text = some (c, size)) :
    ∃ spelled rest, text = spelled ++ rest ∧ size = spelled.length ∧
      Spells ('\\' :: spelled) c := by
  unfold decode? at found
  split at found
  · cases found
  · next unit unitSize first =>
    obtain ⟨spelled, rest, rfl, rfl, spells⟩ := codeUnit?_eq_some_iff.mp first
    by_cases high : isHighSurrogate unit = true
    · simp only [high, if_true, List.drop_left] at found
      split at found
      · next rest =>
        split at found
        · next low lowSize second =>
          obtain ⟨lowSpelled, rest, rfl, rfl, lowSpells⟩ := codeUnit?_eq_some_iff.mp second
          by_cases isLow : isLowSurrogate low = true
          · simp only [isLow, if_true, Option.some.injEq, Prod.mk.injEq] at found
            obtain ⟨rfl, rfl⟩ := found
            refine ⟨spelled ++ '\\' :: lowSpelled, rest, by simp, by simp; omega, ?_⟩
            exact .pair spells lowSpells high isLow (toNat_joinSurrogates high isLow)
          · simp [isLow] at found
        · cases found
      · cases found
    · by_cases low : isLowSurrogate unit = true
      · simp [high, low] at found
      · simp only [high, low, Bool.false_eq_true, if_false, Option.some.injEq,
          Prod.mk.injEq] at found
        obtain ⟨rfl, rfl⟩ := found
        simp only [Bool.not_eq_true] at high low
        exact ⟨spelled, rest, rfl, rfl,
          .unit spells high low (toNat_ofNat_of_unit spells.lt high low)⟩

private theorem decode?_of_spells {spelled : List Char} {c : Char} (rest : List Char)
    (spells : Spells ('\\' :: spelled) c) :
    decode? (spelled ++ rest) = some (c, spelled.length) := by
  generalize whole : '\\' :: spelled = raw at spells
  cases spells with
  | @unit _ unit _ spells high low value =>
      subst whole
      have first := codeUnit?_eq_some_iff.mpr ⟨spelled, rest, rfl, rfl, spells⟩
      have decoded : Char.ofNat unit = c := by rw [← value, Char.ofNat_toNat]
      simp [decode?, first, high, low, decoded]
  | @pair first second high low _ spells lowSpells isHigh isLow value =>
      obtain ⟨front, rfl⟩ := spells.cons
      obtain ⟨back, rfl⟩ := lowSpells.cons
      obtain rfl : spelled = front ++ '\\' :: back := by simpa using whole
      have highFound := codeUnit?_eq_some_iff.mpr ⟨front, '\\' :: (back ++ rest), rfl, rfl, spells⟩
      have lowFound := codeUnit?_eq_some_iff.mpr ⟨back, rest, rfl, rfl, lowSpells⟩
      have decoded : joinSurrogates high low = c := by
        rw [← Char.toNat_inj, toNat_joinSurrogates isHigh isLow, value]
      simp [decode?, highFound, lowFound, isHigh, isLow, decoded]
      omega

/-- Decoding succeeds exactly where the text begins with the rest of a spelling. -/
theorem decode?_eq_some_iff {text : List Char} {c : Char} {size : Nat} :
    decode? text = some (c, size) ↔
      ∃ spelled rest, text = spelled ++ rest ∧ size = spelled.length ∧
        Spells ('\\' :: spelled) c := by
  constructor
  · exact spells_of_decode?
  · rintro ⟨spelled, rest, rfl, rfl, spells⟩
    exact decode?_of_spells rest spells

/-! ## What a spelling consists of -/

theorem Spells.cons {raw : List Char} {c : Char} (spells : Spells raw c) :
    ∃ spelled, raw = '\\' :: spelled := by
  cases spells with
  | unit first => exact first.cons
  | pair first =>
      obtain ⟨spelled, rfl⟩ := first.cons
      exact ⟨_, rfl⟩

theorem Spells.cons_u {raw : List Char} {c : Char} (spells : Spells raw c) :
    ∃ spelled, raw = '\\' :: 'u' :: spelled := by
  cases spells with
  | unit first =>
      obtain ⟨marks, digits, rfl, -⟩ := first
      exact ⟨List.replicate marks 'u' ++ digits, rfl⟩
  | @pair _ second _ _ _ first =>
      obtain ⟨marks, digits, rfl, -⟩ := first
      exact ⟨List.replicate marks 'u' ++ digits ++ second, rfl⟩

/-- A text has at most one spelling at its front. -/
theorem Spells.unique {text first second : List Char} {c d : Char} (spells : Spells first c)
    (others : Spells second d) (starts : first <+: text) (begins : second <+: text) :
    first = second ∧ c = d := by
  obtain ⟨front, rfl⟩ := spells.cons
  obtain ⟨back, rfl⟩ := others.cons
  obtain ⟨rest, rfl⟩ := starts
  obtain ⟨more, same⟩ := begins
  have texts : back ++ more = front ++ rest := by simpa using same
  have found := decode?_of_spells rest spells
  rw [← texts, decode?_of_spells more others] at found
  obtain ⟨rfl, lengths⟩ : d = c ∧ back.length = front.length := by simpa using found
  simp [List.append_inj_left texts lengths]

/-- The characters of an escape: the backslash, the letter and the digits. -/
private theorem SpellsUnit.mem {raw : List Char} {unit : Nat} (spells : SpellsUnit raw unit)
    {c : Char} (member : c ∈ raw) : c = '\\' ∨ c = 'u' ∨ isDigitOf 16 c = true := by
  obtain ⟨marks, digits, rfl, -, hex, -⟩ := spells
  simp only [List.mem_cons, List.mem_append, List.mem_replicate] at member
  rcases member with rfl | ⟨-, rfl⟩ | digit
  · exact .inl rfl
  · exact .inr (.inl rfl)
  · exact .inr (.inr (hex c digit))

theorem Spells.mem {raw : List Char} {c : Char} (spells : Spells raw c) {d : Char}
    (member : d ∈ raw) : d = '\\' ∨ d = 'u' ∨ isDigitOf 16 d = true := by
  cases spells with
  | unit first => exact first.mem member
  | pair first second =>
      rcases List.mem_append.mp member with before | after
      · exact first.mem before
      · exact second.mem after

private theorem SpellsUnit.length_le {raw : List Char} {unit : Nat}
    (spells : SpellsUnit raw unit) : 6 ≤ raw.length := by
  obtain ⟨marks, digits, rfl, length, -, -⟩ := spells
  simp [length]

theorem Spells.length_le {raw : List Char} {c : Char} (spells : Spells raw c) :
    6 ≤ raw.length := by
  cases spells with
  | unit first => exact first.length_le
  | pair first =>
      have front := first.length_le
      simp
      omega

private theorem SpellsUnit.getLast? {raw : List Char} {unit : Nat} (spells : SpellsUnit raw unit) :
    ∃ d, raw.getLast? = some d ∧ isDigitOf 16 d = true := by
  obtain ⟨marks, digits, rfl, length, hex, -⟩ := spells
  have some : digits ≠ [] := by
    rintro rfl
    cases length
  refine ⟨digits.getLast some, ?_, hex _ (List.getLast_mem some)⟩
  rw [← List.cons_append, List.getLast?_append, List.getLast?_eq_some_getLast some]
  rfl

/-- An escape ends with a digit, so no backslash stands right before what follows it. -/
theorem Spells.getLast? {raw : List Char} {c : Char} (spells : Spells raw c) :
    ∃ d, raw.getLast? = some d ∧ isDigitOf 16 d = true := by
  cases spells with
  | unit first => exact first.getLast?
  | pair first second =>
      obtain ⟨d, last, digit⟩ := second.getLast?
      exact ⟨d, by simp [List.getLast?_append, last], digit⟩

end JavaLex.Escape
