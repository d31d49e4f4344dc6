import JavaLex.Proofs.Escape.Spelling
import JavaLex.Source.Cell

/-! # The translation by its rules

The rules read a raw text by index: which backslashes open an escape is decided by the backslashes
right before them, whatever the translation did there. `translates_iff` says that the cells of a
text are the ones that the rules allow, and no others.
-/

namespace JavaLex

open Escape

/-! ## The rules -/

/-- Contiguous backslashes right before an index. -/
def backslashesBefore (text : List Char) (index : Nat) : Nat :=
  ((text.take index).reverse.takeWhile (· == '\\')).length

/-- An escape opens at a backslash that an even number of backslashes precedes and a letter `u`
follows. -/
def Opens (text : List Char) (index : Nat) : Prop :=
  text[index]? = some '\\' ∧ backslashesBefore text index % 2 = 0 ∧ text[index + 1]? = some 'u'

/-- No spelling begins at an index. -/
def Unspelled (text : List Char) (index : Nat) : Prop :=
  ∀ raw c, raw <+: text.drop index → ¬ Spells raw c

/-- The cell that a raw text has at an index: an escape that is well formed, the backslash of one
that is not, or a character as written. -/
inductive CellAt (text : List Char) (index : Nat) : Cell → Prop where
  | escape {raw : List Char} {c : Char} : Opens text index → raw <+: text.drop index →
      Spells raw c → CellAt text index ⟨c, raw, false⟩
  | malformed : Opens text index → Unspelled text index → CellAt text index ⟨'\\', ['\\'], true⟩
  | verbatim {c : Char} : ¬ Opens text index → text[index]? = some c →
      CellAt text index ⟨c, [c], false⟩

/-- The cells of a raw text from an index on, each beginning where the one before it ends. -/
inductive Translates (text : List Char) : Nat → List Cell → Prop where
  | done : Translates text text.length []
  | cell {index : Nat} {cell : Cell} {cells : List Cell} : CellAt text index cell →
      Translates text (index + cell.raw.length) cells → Translates text index (cell :: cells)

/-! ## The rules leave no choice -/

theorem CellAt.lt_length {text : List Char} {index : Nat} {cell : Cell}
    (found : CellAt text index cell) : index < text.length := by
  cases found with
  | escape opens => exact (List.getElem?_eq_some_iff.mp opens.1).choose
  | malformed opens => exact (List.getElem?_eq_some_iff.mp opens.1).choose
  | verbatim _ here => exact (List.getElem?_eq_some_iff.mp here).choose

theorem CellAt.unique {text : List Char} {index : Nat} {cell other : Cell}
    (first : CellAt text index cell) (second : CellAt text index other) : cell = other := by
  cases first with
  | escape opens starts spells =>
      cases second with
      | escape _ begins spelled =>
          obtain ⟨rfl, rfl⟩ := spells.unique spelled starts begins
          rfl
      | malformed _ unspelled => exact absurd spells (unspelled _ _ starts)
      | verbatim closed => exact absurd opens closed
  | malformed opens unspelled =>
      cases second with
      | escape _ starts spells => exact absurd spells (unspelled _ _ starts)
      | malformed => rfl
      | verbatim closed => exact absurd opens closed
  | verbatim closed here =>
      cases second with
      | escape opens => exact absurd opens closed
      | malformed opens => exact absurd opens closed
      | verbatim _ same =>
          obtain rfl := Option.some.inj (here.symm.trans same)
          rfl

theorem Translates.unique {text : List Char} {index : Nat} {cells others : List Cell}
    (first : Translates text index cells) (second : Translates text index others) :
    cells = others := by
  induction first generalizing others with
  | done =>
      cases second with
      | done => rfl
      | cell found => exact absurd found.lt_length (Nat.lt_irrefl _)
  | cell found _ ih =>
      cases second with
      | done => exact absurd found.lt_length (Nat.lt_irrefl _)
      | cell same rest =>
          obtain rfl := found.unique same
          rw [ih rest]

/-! ## The translation follows the rules

The parity that the translation carries along is that of the backslashes before the rest of the
text: after an escape it is even, because an escape ends with a digit.
-/

private theorem backslashesBefore_succ (done rest : List Char) (c : Char) :
    backslashesBefore (done ++ c :: rest) (done.length + 1) =
      if c = '\\' then backslashesBefore (done ++ c :: rest) done.length + 1 else 0 := by
  have here : (done ++ c :: rest).take done.length = done := List.take_left
  have next : (done ++ c :: rest).take (done.length + 1) = done ++ [c] := by
    simp [List.take_append, List.take_of_length_le]
  unfold backslashesBefore
  rw [here, next]
  by_cases backslash : c = '\\' <;> simp [backslash]

private theorem backslashesBefore_of_getLast? {done : List Char} {d : Char} (rest : List Char)
    (last : done.getLast? = some d) (other : d ≠ '\\') :
    backslashesBefore (done ++ rest) done.length = 0 := by
  obtain ⟨front, rfl⟩ := List.getLast?_eq_some_iff.mp last
  unfold backslashesBefore
  rw [List.take_left]
  simp [other]

private theorem parity_after {done rest : List Char} {c : Char} {odd : Bool}
    (parity : backslashesBefore (done ++ c :: rest) done.length % 2 = odd.toNat) :
    backslashesBefore (done ++ [c] ++ rest) (done ++ [c]).length % 2 =
      (c == '\\' && !odd).toNat := by
  have step := backslashesBefore_succ done rest c
  rw [List.append_assoc, List.length_append]
  change backslashesBefore (done ++ c :: rest) (done.length + 1) % 2 = _
  by_cases backslash : c = '\\'
  · rw [step, if_pos backslash]
    cases odd <;> simp [backslash] at parity ⊢ <;> omega
  · rw [step, if_neg backslash, beq_false_of_ne backslash]
    rfl

private theorem opens_iff {done rest : List Char} {c : Char} {odd : Bool}
    (parity : backslashesBefore (done ++ c :: rest) done.length % 2 = odd.toNat) :
    Opens (done ++ c :: rest) done.length ↔
      (c == '\\' && !odd && rest.head? == some 'u') = true := by
  have follow : (done ++ c :: rest)[done.length + 1]? = rest.head? := by
    simp [List.getElem?_append_right, List.head?_eq_getElem?]
  unfold Opens
  rw [follow, parity]
  cases odd <;> simp

private theorem unspelled_iff {done rest : List Char} :
    Unspelled (done ++ '\\' :: rest) done.length ↔ decode? rest = none := by
  unfold Unspelled
  rw [List.drop_left]
  constructor
  · intro unspelled
    cases found : decode? rest with
    | none => rfl
    | some result =>
        obtain ⟨spelled, more, rfl, -, spells⟩ := decode?_eq_some_iff.mp found
        exact absurd spells (unspelled _ _ ⟨more, rfl⟩)
  · intro missing raw c starts spells
    obtain ⟨spelled, rfl⟩ := spells.cons
    obtain ⟨more, same⟩ := starts
    obtain rfl : spelled ++ more = rest := by simpa using same
    have found := decode?_eq_some_iff.mpr ⟨spelled, more, rfl, rfl, spells⟩
    rw [missing] at found
    cases found

private theorem translates_translateAfter (done : List Char) (odd : Bool) (rest : List Char)
    (parity : backslashesBefore (done ++ rest) done.length % 2 = odd.toNat) :
    Translates (done ++ rest) done.length (Cell.translateAfter odd rest) := by
  fun_induction Cell.translateAfter odd rest generalizing done with
  | case1 => simpa using (.done : Translates done done.length [])
  | case2 odd c rest starts decoded size found ih =>
      have opens := (opens_iff parity).mpr starts
      obtain ⟨⟨rfl, rfl⟩, follows⟩ : (c = '\\' ∧ odd = false) ∧ rest.head? = some 'u' := by
        simpa using starts
      obtain ⟨spelled, more, rfl, rfl, spells⟩ := decode?_eq_some_iff.mp found
      obtain ⟨d, last, digit⟩ := spells.getLast?
      have other : d ≠ '\\' := by
        rintro rfl
        exact absurd digit (by decide)
      rw [List.take_left]
      rw [List.drop_left] at ih ⊢
      -- the last digit of the escape ends every row of backslashes
      have even : backslashesBefore ((done ++ '\\' :: spelled) ++ more)
          (done ++ '\\' :: spelled).length = 0 :=
        backslashesBefore_of_getLast? more (by simpa [List.getLast?_append] using last) other
      have rest := ih (done ++ '\\' :: spelled) (by rw [even]; rfl)
      rw [List.append_assoc, List.length_append] at rest
      exact .cell (.escape opens (by rw [List.drop_left]; exact ⟨more, rfl⟩) spells) rest
  | case3 odd c rest starts missing ih =>
      have opens := (opens_iff parity).mpr starts
      obtain ⟨⟨rfl, rfl⟩, follows⟩ : (c = '\\' ∧ odd = false) ∧ rest.head? = some 'u' := by
        simpa using starts
      have more := ih (done ++ ['\\']) (parity_after parity)
      rw [List.append_assoc, List.length_append] at more
      exact .cell (.malformed opens (unspelled_iff.mpr missing)) more
  | case4 odd c rest closed ih =>
      have more := ih (done ++ [c]) (parity_after parity)
      rw [List.append_assoc, List.length_append] at more
      exact .cell (.verbatim (fun opens => closed ((opens_iff parity).mp opens)) (by simp)) more

theorem translates_translate (text : List Char) : Translates text 0 (Cell.translate text) :=
  translates_translateAfter [] false text rfl

/-- The cells of a text are the ones that the rules determine. -/
theorem translates_iff {text : List Char} {cells : List Cell} :
    Translates text 0 cells ↔ cells = Cell.translate text := by
  constructor
  · intro other
    exact other.unique (translates_translate text)
  · rintro rfl
    exact translates_translate text

/-! ## Single cells -/

namespace Cell

/-- Index, in the raw text, of the first character of a cell; past the last cell, the end. -/
def rawIndex (cells : List Cell) (index : Nat) : Nat :=
  ((cells.take index).flatMap Cell.raw).length

@[simp] theorem rawIndex_zero (cells : List Cell) : rawIndex cells 0 = 0 := rfl

@[simp] theorem rawIndex_cons_succ (cell : Cell) (cells : List Cell) (index : Nat) :
    rawIndex (cell :: cells) (index + 1) = cell.raw.length + rawIndex cells index := by
  simp [rawIndex]

end Cell

theorem Translates.cellAt {text : List Char} {start : Nat} {cells : List Cell}
    (translates : Translates text start cells) {index : Nat} {cell : Cell}
    (found : cells[index]? = some cell) : CellAt text (start + Cell.rawIndex cells index) cell := by
  induction translates generalizing index with
  | done => cases found
  | cell here rest ih =>
      cases index with
      | zero =>
          obtain rfl : _ = cell := by simpa using found
          simpa using here
      | succ index => simpa [Nat.add_assoc] using ih (by simpa using found)

/-- Every cell of a text is what the rules say about its place. -/
theorem cellAt_translate {text : List Char} {index : Nat} {cell : Cell}
    (found : (Cell.translate text)[index]? = some cell) :
    CellAt text (Cell.rawIndex (Cell.translate text) index) cell := by
  simpa using (translates_translate text).cellAt found

def Cell.WellSpelled (cell : Cell) : Prop :=
  cell.raw = [cell.char] ∨ Spells cell.raw cell.char

theorem CellAt.wellSpelled {text : List Char} {index : Nat} {cell : Cell}
    (found : CellAt text index cell) : cell.WellSpelled := by
  cases found with
  | escape _ _ spells => exact .inr spells
  | malformed => exact .inl rfl
  | verbatim => exact .inl rfl

/-- The marked cells stand where an escape opens that is not well formed. -/
theorem CellAt.malformed_iff {text : List Char} {index : Nat} {cell : Cell}
    (found : CellAt text index cell) :
    cell.malformed = true ↔ Opens text index ∧ Unspelled text index := by
  cases found with
  | escape opens starts spells =>
      simp only [Bool.false_eq_true, false_iff, not_and]
      exact fun _ unspelled => unspelled _ _ starts spells
  | malformed opens unspelled => simp [opens, unspelled]
  | verbatim closed => simp [closed]

theorem CellAt.char_of_malformed {text : List Char} {index : Nat} {cell : Cell}
    (found : CellAt text index cell) (marked : cell.malformed = true) :
    cell.char = '\\' ∧ cell.raw = ['\\'] := by
  cases found with
  | escape => cases marked
  | malformed => exact ⟨rfl, rfl⟩
  | verbatim => cases marked

/-! ## Texts that translate to themselves -/

theorem Cell.translate_cons {c : Char} (other : c ≠ '\\') (rest : List Char) :
    translate (c :: rest) = verbatim c :: translate rest := by
  have closed : (c == '\\') = false := beq_false_of_ne other
  simp [translate, translateAfter, closed]

/-- Each backslash has the character after it to itself, and that character is no `u`. -/
inductive Inert : List Char → Prop where
  | nil : Inert []
  | plain {c : Char} {rest : List Char} : c ≠ '\\' → Inert rest → Inert (c :: rest)
  | pair {c : Char} {rest : List Char} : c ≠ 'u' → Inert rest → Inert ('\\' :: c :: rest)

namespace Inert

theorem of_not_mem {text : List Char} (none : '\\' ∉ text) : Inert text := by
  induction text with
  | nil => exact .nil
  | cons c rest ih =>
      rw [List.mem_cons, not_or] at none
      exact .plain (Ne.symm none.1) (ih none.2)

theorem append {first second : List Char} (front : Inert first) (back : Inert second) :
    Inert (first ++ second) := by
  induction front with
  | nil => exact back
  | plain other _ ih => exact .plain other ih
  | pair other _ ih => exact .pair other ih

/-- No escape opens in such a text, because the second backslash of a pair is odd. -/
theorem translate {text : List Char} (inert : Inert text) :
    Cell.translate text = text.map Cell.verbatim := by
  induction inert with
  | nil => simp [Cell.translate, Cell.translateAfter]
  | plain other _ ih => rw [Cell.translate_cons other, ih, List.map_cons]
  | @pair c rest other _ ih =>
      have unmarked : ((c :: rest).head? == some 'u') = false := by simpa using other
      unfold Cell.translate at ih ⊢
      unfold Cell.translateAfter
      rw [unmarked]
      simp [Cell.translateAfter, ih]

theorem chars_translate {text : List Char} (inert : Inert text) :
    (Cell.translate text).map Cell.char = text := by
  rw [inert.translate, List.map_map]
  exact List.map_id _

theorem malformed_of_mem_translate {text : List Char} (inert : Inert text) {cell : Cell}
    (member : cell ∈ Cell.translate text) : cell.malformed = false := by
  rw [inert.translate] at member
  obtain ⟨c, -, rfl⟩ := List.mem_map.mp member
  rfl

end Inert

end JavaLex
