import JavaLex.Proofs.Front.Reader

/-! # Numerals end at a blank

Each part of a numeral is a regular reader, and so is the whole. Whatever follows a well-formed
numeral may therefore be replaced by a blank, or cut off.
-/

namespace JavaLex.Numeral

open Charset Reader

/-! ## Parts -/

theorem isDigitOf_blank (radix : Nat) : isDigitOf radix ' ' = false := by
  simp [isDigitOf, digit?]

theorem isDigitOf_backslash (radix : Nat) : isDigitOf radix '\\' = false := by
  simp [isDigitOf, digit?]

theorem isDigitOf_lineFeed (radix : Nat) : isDigitOf radix '\n' = false := by
  simp [isDigitOf, digit?]

theorem regular_digitGroup (radix : Nat) : Regular (digitGroup radix) where
  size_le text := by
    rw [size_digitGroup]
    exact (List.takeWhile_prefix _).length_le
  backslash text := by
    rw [size_digitGroup, ← List.prefix_iff_eq_take.mp (List.takeWhile_prefix _)]
    intro member
    have digit := List.all_eq_true.mp List.all_takeWhile _ member
    rw [isDigitOf_backslash] at digit
    cases digit
  stopsAtLine text more := by
    unfold digitGroup
    rw [StopsAtLine.takeWhile (by rw [isDigitOf_lineFeed]; rfl) text more]
  same {text other _} _ same := by
    rw [size_digitGroup] at same
    have run := same.takeWhile (by rw [isDigitOf_blank]; rfl)
    unfold digitGroup
    rw [run]

theorem regular_exponent : Regular exponent :=
  .bind (.takeIf rfl rfl rfl) fun _ => .bind (regular_digitGroup 10) fun _ =>
    .bind (.require _) fun _ => .pure _

theorem digitGroup_of_size_eq_zero {radix : Nat} {text : List Char}
    (nothing : (digitGroup radix text).size = 0) : digitGroup radix text = ⟨some [], 0⟩ := by
  rw [size_digitGroup, List.length_eq_zero_iff] at nothing
  unfold digitGroup
  rw [nothing]
  rfl

theorem advances_exponent : Advances exponent := by
  apply Advances.of_next
  intro sign text size found
  obtain ⟨digits, read, found, total⟩ := value_bind_eq_some found
  have some : digits ≠ [] := by
    rintro rfl
    cases found
  have taken : 0 < (digitGroup 10 text).size := by
    apply Nat.pos_of_ne_zero
    intro nothing
    rw [digitGroup_of_size_eq_zero nothing] at read
    exact some (Option.some.inj (congrArg Reading.value read)).symm
  omega

theorem regular_longSuffix : Regular longSuffix :=
  .bind (.takeIf rfl rfl rfl) fun _ => .pure _

theorem regular_floatSuffix : Regular floatSuffix :=
  .bind (.takeIf rfl rfl rfl) fun _ => .pure _

theorem isIdentifierPart_blank : isIdentifierPart ' ' = false := by decide

theorem regular_ending : Regular ending := by
  have branches : ending = (Reader.next? >>= fun next =>
      if next.any isIdentifierPart = true then Reader.require false else Reader.require true) := by
    unfold ending
    congr
    funext next
    cases next.any isIdentifierPart <;> rfl
  rw [branches]
  exact .peek rfl isIdentifierPart_blank (by decide) (.require false) (.require true)
    fun _ _ found => by cases found

theorem regular_unmarked (digits : List Char) (long : Bool) : Regular (unmarked digits long) := by
  unfold unmarked
  split
  · exact .bind (.require _) fun _ => .pure _
  · exact .pure _

/-! ## Radices -/

theorem regular_decimal : Regular decimal := by
  unfold decimal
  dsimp only
  refine .bind (regular_digitGroup 10) fun whole => ?_
  refine .bind (.takeIf rfl rfl rfl) fun point => ?_
  refine .optional (regular_digitGroup 10) fun fraction => ?_
  refine .bind (.takeIf rfl rfl rfl) fun mark => ?_
  refine .optional regular_exponent fun power => ?_
  refine .bind regular_floatSuffix fun suffix => ?_
  split
  · exact .bind regular_ending fun _ => .pure _
  · exact .bind regular_longSuffix fun long => .bind regular_ending fun _ =>
      regular_unmarked whole long

theorem regular_hexadecimal : Regular hexadecimal := by
  unfold hexadecimal
  dsimp only
  refine .bind (regular_digitGroup 16) fun whole => ?_
  refine .peek rfl rfl rfl ?_ ?_ ?_
  · refine .bind (.takeIf rfl rfl rfl) fun point => ?_
    refine .optional (regular_digitGroup 16) fun fraction => ?_
    refine .bind (.require _) fun _ => ?_
    refine .bind (.takeIf rfl rfl rfl) fun mark => ?_
    refine .bind (.require _) fun _ => ?_
    refine .bind regular_exponent fun power => ?_
    exact .bind regular_floatSuffix fun suffix => .bind regular_ending fun _ => .pure _
  · exact .bind (.require _) fun _ => .bind regular_longSuffix fun long =>
      .bind regular_ending fun _ => .pure _
  · apply Advances.of_next
    intro point
    apply Advances.of_optional
    intro fraction
    apply Advances.of_next
    intro _
    apply Advances.of_next
    intro mark
    apply Advances.of_next
    intro _
    exact advances_exponent.bind _

theorem regular_binary : Regular binary :=
  .bind (regular_digitGroup 2) fun _ => .bind (.require _) fun _ =>
    .bind regular_longSuffix fun _ => .bind regular_ending fun _ => .pure _

/-! ## Literals -/

private def marksRadix (c : Char) : Bool :=
  (c == 'x' || c == 'X') || (c == 'b' || c == 'B')

private def Unmarked (text : List Char) : Prop :=
  ∀ mark rest, text = '0' :: mark :: rest → marksRadix mark = false

private theorem read_of_unmarked {text : List Char} (unmarked : Unmarked text) :
    read text = decimal text := by
  unfold read
  split
  · next mark rest =>
    have refused := unmarked mark rest rfl
    obtain ⟨hexadecimal, binary⟩ := Bool.or_eq_false_iff.mp refused
    rw [hexadecimal, binary]
    rfl
  · rfl

private theorem Unmarked.append_lineFeed {text : List Char} (unmarked : Unmarked text)
    (more : List Char) : Unmarked (text ++ '\n' :: more) := by
  intro mark rest starts
  match text with
  | [] => cases starts
  | [zero] =>
      obtain ⟨-, rest⟩ := List.cons.inj starts
      obtain ⟨rfl, -⟩ := List.cons.inj rest
      rfl
  | zero :: other :: text =>
      obtain ⟨rfl, rest⟩ := List.cons.inj starts
      obtain ⟨rfl, -⟩ := List.cons.inj rest
      exact unmarked other text rfl

/-- Only the character after a zero can mark a radix, and a blank is no mark. -/
private theorem unmarked_of_sameFront {text other : List Char} (unmarked : Unmarked text)
    (same : SameFront (decimal text).size text other) : Unmarked other := by
  intro mark rest starts
  have zero : text.head? = some '0' ∨ other.head? ≠ some '0' := by
    rcases same.head with next | next | next
    · rw [← next, starts]
      exact .inl rfl
    · exact .inr (by rw [next]; simp)
    · exact .inr (by rw [next]; simp)
  rcases zero with zero | none
  · obtain ⟨text, rfl⟩ := List.head?_eq_some_iff.mp zero
    have positive : 0 < (decimal ('0' :: text)).size := size_decimal_pos (.inl (by decide))
    obtain ⟨more, size⟩ := Nat.exists_eq_add_one_of_ne_zero (Nat.ne_of_gt positive)
    rw [size] at same
    obtain ⟨left, whole, after⟩ := same.tail
    obtain rfl : mark :: rest = left := by simpa [starts] using whole
    rcases after.head with next | next | next
    · obtain ⟨text, rfl⟩ := List.head?_eq_some_iff.mp next.symm
      exact unmarked mark text rfl
    · cases next
    · obtain rfl : mark = ' ' := Option.some.inj next
      rfl
  · exact absurd (by rw [starts]; rfl) none

/-- A literal is read as a decimal one, or by the reader that its mark calls for. -/
private theorem unmarked_or_marked (text : List Char) :
    Unmarked text ∨ ∃ (mark : Char) (rest : List Char) (reader : Reader Numeral),
      text = '0' :: mark :: rest ∧ mark ≠ '\\' ∧ Regular reader ∧ ∀ rest,
        read ('0' :: mark :: rest) = ⟨(reader rest).value, (reader rest).size + 2⟩ := by
  by_cases unmarked : Unmarked text
  · exact .inl unmarked
  · have marked : ∃ mark rest, text = '0' :: mark :: rest ∧ marksRadix mark = true := by
      simpa [Unmarked] using unmarked
    obtain ⟨mark, rest, starts, marks⟩ := marked
    have other : mark ≠ '\\' := by
      intro same
      rw [same] at marks
      exact absurd marks (by decide)
    by_cases hexadecimal : (mark == 'x' || mark == 'X') = true
    · refine .inr ⟨mark, rest, _, starts, other, regular_hexadecimal, fun rest => ?_⟩
      simp [read, hexadecimal]
    · have binary : (mark == 'b' || mark == 'B') = true := by
        rw [marksRadix, Bool.or_eq_true] at marks
        exact marks.resolve_left hexadecimal
      refine .inr ⟨mark, rest, _, starts, other, regular_binary, fun rest => ?_⟩
      simp [read, hexadecimal, binary]

theorem regular_read : Regular read where
  size_le text := by
    rcases unmarked_or_marked text with unmarked | ⟨mark, rest, reader, rfl, -, regular, reads⟩
    · rw [read_of_unmarked unmarked]
      exact regular_decimal.size_le text
    · rw [reads]
      exact Nat.add_le_add_right (regular.size_le rest) 2
  backslash text := by
    rcases unmarked_or_marked text with unmarked | ⟨mark, rest, reader, rfl, other, regular, reads⟩
    · rw [read_of_unmarked unmarked]
      exact regular_decimal.backslash text
    · rw [reads]
      intro member
      rcases List.mem_cons.mp member with zero | later
      · exact absurd zero (by decide)
      rcases List.mem_cons.mp later with same | digits
      · exact other same.symm
      · exact regular.backslash rest digits
  stopsAtLine text more := by
    rcases unmarked_or_marked text with unmarked | ⟨mark, rest, reader, rfl, -, regular, reads⟩
    · rw [read_of_unmarked unmarked, read_of_unmarked (unmarked.append_lineFeed more)]
      exact regular_decimal.stopsAtLine text more
    · rw [reads, List.cons_append, List.cons_append, reads, regular.stopsAtLine]
  same {text instead numeral} found same := by
    rcases unmarked_or_marked text with unmarked | ⟨mark, rest, reader, rfl, -, regular, reads⟩
    · rw [read_of_unmarked unmarked] at found same ⊢
      rw [read_of_unmarked (unmarked_of_sameFront unmarked same)]
      exact regular_decimal.same found same
    · rw [reads] at found same
      obtain ⟨left, rfl, after⟩ := same.tail
      obtain ⟨left, rfl, digits⟩ := after.tail
      rw [reads, reads, regular.same found digits]

/-! ## Values -/

variable {text other : List Char} {result : Kind × Literal} {size : Nat}

theorem read_of_scan (scanned : scan text = (.ok result, size)) :
    ∃ numeral, (read text).value = some numeral ∧ numeral.value? = some result ∧
      (read text).size = size := by
  unfold scan at scanned
  dsimp only at scanned
  split at scanned
  · cases scanned
  · next numeral found =>
    split at scanned
    · next value denotes =>
      obtain ⟨rfl, rfl⟩ : value = result ∧ (read text).size = size := by simpa using scanned
      exact ⟨numeral, found, denotes, rfl⟩
    · cases scanned

theorem scan_of_sameFront (scanned : scan text = (.ok result, size))
    (same : SameFront size text other) : scan other = (.ok result, size) := by
  obtain ⟨numeral, found, denotes, rfl⟩ := read_of_scan scanned
  have reads : read other = read text := regular_read.same found same
  simp only [scan, reads, found, denotes]

theorem two_le_size_read {d : Char} (digit : d.isDigit = true) (rest : List Char) :
    2 ≤ (read ('.' :: d :: rest)).size := by
  have whole : digitGroup 10 ('.' :: d :: rest) = ⟨some [], 0⟩ := rfl
  have point : Reader.takeIf (· == '.') ('.' :: d :: rest) = ⟨some (some '.'), 1⟩ := rfl
  have fraction : 1 ≤ (digitGroup 10 (d :: rest)).size := by
    simp [size_digitGroup, isDigitOf_ten digit]
  show 0 + (1 + 1) ≤ (decimal ('.' :: d :: rest)).size
  apply le_size_bind whole
  apply le_size_bind point
  exact Nat.le_trans fraction (size_le_size_bind (digitGroup 10) _ _)

end JavaLex.Numeral
