import JavaLex.Charset.Spelling
import JavaLex.Proofs.Escape.Writing

/-! # Texts as listings spell them

`Shown` lists the ways to write a character: as itself, if it is no backslash, no quote and ends no
line, or as one backslash sequence. Whichever way is chosen for each character, the text can be read
back and stays on one line; `shownText_listing` says that listings choose among these ways.
-/

namespace JavaLex.Charset

/-- Where a mark stands for the first time, a text comes apart in one way only. -/
theorem append_mark_inj {mark : Char} {first second rest more : List Char}
    (front : mark ∉ first) (back : mark ∉ second)
    (same : first ++ mark :: rest = second ++ mark :: more) : first = second ∧ rest = more := by
  induction first generalizing second with
  | nil =>
      cases second with
      | nil => exact ⟨rfl, (List.cons.inj same).2⟩
      | cons c second => exact absurd ((List.cons.inj same).1 ▸ List.mem_cons_self) back
  | cons c first ih =>
      cases second with
      | nil => exact absurd ((List.cons.inj same).1 ▸ List.mem_cons_self) front
      | cons d second =>
          obtain ⟨rfl, later⟩ := List.cons.inj same
          obtain ⟨rfl, following⟩ :=
            ih (fun member => front (.tail _ member)) (fun member => back (.tail _ member)) later
          exact ⟨rfl, following⟩

/-! ## Numbers in hexadecimal -/

theorem hex_of_lt {n : Nat} (small : n < 16) : hex n = [Escape.hexDigit false n] :=
  Nat.toDigits_of_lt_base small

theorem hex_of_le {n : Nat} (large : 16 ≤ n) :
    hex n = hex (n / 16) ++ [Escape.hexDigit false (n % 16)] :=
  Nat.toDigits_of_base_le (by decide) large

theorem valueOf_hex (n : Nat) : valueOf 16 (hex n) = n := by
  induction n using Nat.strongRecOn with
  | ind n ih =>
      rcases Nat.lt_or_ge n 16 with small | large
      · rw [hex_of_lt small, ← List.nil_append [_], valueOf_append_singleton, valueOf_nil,
          Escape.digit?_hexDigit false small, Option.getD_some, Nat.zero_mul, Nat.zero_add]
      · rw [hex_of_le large, valueOf_append_singleton, ih (n / 16) (by omega),
          Escape.digit?_hexDigit false (Nat.mod_lt n (by decide)), Option.getD_some]
        omega

theorem hex_injective {m n : Nat} (same : hex m = hex n) : m = n := by
  rw [← valueOf_hex m, same, valueOf_hex]

theorem isDigitOf_of_mem_hex {n : Nat} {d : Char} (member : d ∈ hex n) :
    isDigitOf 16 d = true := by
  induction n using Nat.strongRecOn with
  | ind n ih =>
      rcases Nat.lt_or_ge n 16 with small | large
      · rw [hex_of_lt small, List.mem_singleton] at member
        rw [member, isDigitOf, Escape.digit?_hexDigit false small, Option.isSome_some]
      · rw [hex_of_le large, List.mem_append, List.mem_singleton] at member
        rcases member with front | rfl
        · exact ih (n / 16) (by omega) front
        · rw [isDigitOf, Escape.digit?_hexDigit false (Nat.mod_lt n (by decide)),
            Option.isSome_some]

theorem not_mem_hex {n : Nat} {c : Char} (other : isDigitOf 16 c = false) : c ∉ hex n := by
  intro member
  rw [isDigitOf_of_mem_hex member] at other
  cases other

/-! ## Characters -/

def mark? (c : Char) : Option Char :=
  if c == '\x00' then some '0' else shortEscape? c

def ofMark : Char → Char
  | '0' => '\x00'
  | 't' => '\t'
  | 'r' => '\r'
  | 'n' => '\n'
  | mark => mark

/-- A mark tells its character, opens no number and ends no line. -/
theorem ofMark_of_mark? {c mark : Char} (found : mark? c = some mark) :
    ofMark mark = c ∧ mark ≠ 'u' ∧ mark ≠ '\n' := by
  unfold mark? at found
  split at found
  · next zero =>
    obtain rfl := Option.some.inj found
    rw [eq_of_beq zero]
    decide
  · unfold shortEscape? at found
    split at found
    case h_7 => cases found
    all_goals
      obtain rfl := Option.some.inj found
      decide

inductive Shown : Char → List Char → Prop where
  | itself {c : Char} : shortEscape? c = none → Shown c [c]
  | short {c mark : Char} : mark? c = some mark → Shown c ['\\', mark]
  | number {c : Char} : Shown c (byNumber c)

theorem shown_listingSpelling (first : Bool) (c : Char) : Shown c (listingSpelling first c) := by
  unfold listingSpelling
  cases escape : shortEscape? c with
  | some mark =>
      have other : (c == '\x00') = false := by
        rw [beq_eq_false_iff_ne]
        rintro rfl
        have none : shortEscape? '\x00' = none := by decide
        cases none.symm.trans escape
      exact .short (by rw [mark?, other, escape]; rfl)
  | none =>
      dsimp only
      split
      · next zero => exact .short (by rw [mark?, zero]; rfl)
      split
      · exact .number
      · exact .itself escape

namespace Shown

variable {c d : Char} {piece other rest more : List Char}

theorem ne_nil (shown : Shown c piece) : piece ≠ [] := by
  cases shown with
  | itself | short => exact List.cons_ne_nil _ _
  | number => exact List.cons_ne_nil _ _

theorem newline_not_mem (shown : Shown c piece) : '\n' ∉ piece := by
  cases shown with
  | itself plain =>
      rw [List.mem_singleton]
      rintro rfl
      exact absurd plain (by decide)
  | short found => simp [Ne.symm (ofMark_of_mark? found).2.2]
  | number => simp [byNumber, not_mem_hex (show isDigitOf 16 '\n' = false by decide)]

private theorem itself_ne_sequence (plain : shortEscape? c = none) :
    [c] ++ rest ≠ '\\' :: more := by
  intro same
  obtain rfl := (List.cons.inj same).1
  exact absurd plain (by decide)

theorem append_inj (first : Shown c piece) (second : Shown d other)
    (same : piece ++ rest = other ++ more) : c = d ∧ rest = more := by
  cases first with
  | itself plain =>
      cases second with
      | itself => exact List.cons.inj same
      | short | number => exact absurd same (itself_ne_sequence plain)
  | short found =>
      cases second with
      | itself plain => exact absurd same.symm (itself_ne_sequence plain)
      | short again =>
          obtain ⟨rfl, later⟩ := List.cons.inj (List.cons.inj same).2
          exact ⟨(ofMark_of_mark? found).1.symm.trans (ofMark_of_mark? again).1, later⟩
      | number =>
          have mark := (List.cons.inj (List.cons.inj same).2).1
          exact absurd mark (ofMark_of_mark? found).2.1
  | number =>
      cases second with
      | itself plain => exact absurd same.symm (itself_ne_sequence plain)
      | short again =>
          have mark := (List.cons.inj (List.cons.inj same).2).1
          exact absurd mark.symm (ofMark_of_mark? again).2.1
      | number =>
          have closed : isDigitOf 16 '\x7d' = false := by decide
          have digits : hex c.toNat ++ '\x7d' :: rest = hex d.toNat ++ '\x7d' :: more := by
            simpa [byNumber] using same
          obtain ⟨number, later⟩ := append_mark_inj (not_mem_hex closed) (not_mem_hex closed) digits
          exact ⟨Char.toNat_inj.mp (hex_injective number), later⟩

end Shown

/-! ## Texts -/

inductive ShownText : List Char → List Char → Prop where
  | nil : ShownText [] []
  | cons {c : Char} {piece text shown : List Char} : Shown c piece → ShownText text shown →
      ShownText (c :: text) (piece ++ shown)

theorem shownText_flatMap {spelling : Char → List Char} (each : ∀ c, Shown c (spelling c))
    (text : List Char) : ShownText text (text.flatMap spelling) := by
  induction text with
  | nil => exact .nil
  | cons c text ih => exact .cons (each c) ih

theorem shownText_listing (text : List Char) : ShownText text (listing text) := by
  cases text with
  | nil => exact .nil
  | cons c rest =>
      exact .cons (shown_listingSpelling true c)
        (shownText_flatMap (shown_listingSpelling false) rest)

namespace ShownText

variable {text other shown : List Char}

theorem newline_not_mem (spelled : ShownText text shown) : '\n' ∉ shown := by
  induction spelled with
  | nil => exact List.not_mem_nil
  | cons here _ ih =>
      rw [List.mem_append, not_or]
      exact ⟨here.newline_not_mem, ih⟩

theorem unique (first : ShownText text shown) (second : ShownText other shown) : text = other := by
  induction first generalizing other with
  | nil =>
      generalize empty : ([] : List Char) = out at second
      cases second with
      | nil => rfl
      | cons here => exact absurd (List.append_eq_nil_iff.mp empty.symm).1 here.ne_nil
  | @cons c piece text shown here _ ih =>
      generalize same : piece ++ shown = out at second
      cases second with
      | nil => exact absurd (List.append_eq_nil_iff.mp same).1 here.ne_nil
      | cons there later =>
          obtain ⟨rfl, rfl⟩ := here.append_inj there same
          rw [ih later]

end ShownText

end JavaLex.Charset
