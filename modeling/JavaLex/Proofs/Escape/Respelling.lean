import JavaLex.Proofs.Escape.Translation

/-! # Characters written as escapes

Any character of a text may be written as an escape that spells it. The translation of such a
text gives the characters back, with no escape malformed.
-/

namespace JavaLex

open Escape

/-- The second text is the first one with some of its characters written as escapes. -/
inductive Respells : List Char → List Char → Prop where
  | done : Respells [] []
  | kept {c : Char} {text raw : List Char} : Respells text raw → Respells (c :: text) (c :: raw)
  | escaped {c : Char} {spelled text raw : List Char} : Spells spelled c → Respells text raw →
      Respells (c :: text) (spelled ++ raw)

theorem Cell.translate_append {spelled : List Char} {c : Char} (spells : Spells spelled c)
    (rest : List Char) : translate (spelled ++ rest) = ⟨c, spelled, false⟩ :: translate rest := by
  obtain ⟨digits, rfl⟩ := spells.cons_u
  have found : decode? ('u' :: (digits ++ rest)) = some (c, ('u' :: digits).length) :=
    decode?_eq_some_iff.mpr ⟨'u' :: digits, rest, rfl, rfl, spells⟩
  simp [translate, translateAfter, found]

/-- No backslash is kept, so every backslash of the second text opens an escape that is well
formed. -/
theorem Respells.translate {text raw : List Char} (respells : Respells text raw)
    (plain : '\\' ∉ text) :
    (Cell.translate raw).map Cell.char = text ∧
      ∀ cell ∈ Cell.translate raw, cell.malformed = false := by
  induction respells with
  | done => simp [Cell.translate, Cell.translateAfter]
  | @kept c text raw _ ih =>
      rw [List.mem_cons, not_or] at plain
      obtain ⟨chars, sound⟩ := ih plain.2
      rw [Cell.translate_cons (Ne.symm plain.1)]
      simpa [Cell.verbatim, chars] using sound
  | @escaped c spelled text raw spells _ ih =>
      rw [List.mem_cons, not_or] at plain
      obtain ⟨chars, sound⟩ := ih plain.2
      rw [Cell.translate_append spells]
      simpa [chars] using sound

end JavaLex
