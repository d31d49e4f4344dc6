import JavaLex.Proofs.Front.Takes
import JavaLex.Proofs.Scan.Lexeme

/-! # The extent of comments

A line comment stops before the end of its line. A block comment runs through the first star-slash
after its opening, whatever is between them: the star of the opening closes nothing, stars in a row
do not hide a slash, and comments do not nest.
-/

namespace JavaLex

open Charset

namespace Lexeme

def ClosesAt (text : List Char) (index : Nat) : Prop :=
  text[index]? = some '*' ∧ text[index + 1]? = some '/'

structure FirstCloses (text : List Char) (index : Nat) : Prop where
  closes : ClosesAt text index
  least : ∀ earlier < index, ¬ ClosesAt text earlier

/-! ## The search for the closing mark -/

variable {c : Char} {text rest : List Char} {index : Nat}

theorem closesAt_zero_iff :
    ClosesAt (c :: rest) 0 ↔ (c == '*' && rest.head? == some '/') = true := by
  simp [ClosesAt, List.head?_eq_getElem?]

theorem firstCloses_succ_iff :
    FirstCloses (c :: rest) (index + 1) ↔ ¬ ClosesAt (c :: rest) 0 ∧ FirstCloses rest index := by
  constructor
  · intro first
    refine ⟨first.least 0 (Nat.succ_pos index), first.closes, fun earlier before => ?_⟩
    exact first.least (earlier + 1) (Nat.succ_lt_succ before)
  · rintro ⟨other, first⟩
    refine ⟨first.closes, fun earlier before => ?_⟩
    cases earlier with
    | zero => exact other
    | succ earlier => exact first.least earlier (Nat.lt_of_succ_lt_succ before)

/-- The search stops right after the first star-slash. -/
theorem closing?_of_firstCloses (first : FirstCloses text index) :
    closing? text = some (index + 2) := by
  induction text generalizing index with
  | nil => cases first.closes.1
  | cons c rest ih =>
      cases index with
      | zero => rw [closing?, if_pos (closesAt_zero_iff.mp first.closes)]
      | succ index =>
          obtain ⟨other, later⟩ := firstCloses_succ_iff.mp first
          rw [closing?, if_neg (mt closesAt_zero_iff.mpr other), ih later]
          rfl

/-- Without a star-slash the search fails, and otherwise it finds the first one. -/
theorem exists_firstCloses (text : List Char) :
    (∃ index, FirstCloses text index) ∨ (∀ index, ¬ ClosesAt text index) ∧ closing? text = none := by
  induction text with
  | nil =>
      refine .inr ⟨fun index closes => ?_, rfl⟩
      cases closes.1
  | cons c rest ih =>
      by_cases here : ClosesAt (c :: rest) 0
      · exact .inl ⟨0, here, fun earlier before => absurd before (Nat.not_lt_zero earlier)⟩
      rcases ih with ⟨index, first⟩ | ⟨none, missing⟩
      · exact .inl ⟨index + 1, firstCloses_succ_iff.mpr ⟨here, first⟩⟩
      · refine .inr ⟨fun index closes => ?_, ?_⟩
        · cases index with
          | zero => exact here closes
          | succ index => exact none index closes
        · rw [closing?, if_neg (mt closesAt_zero_iff.mpr here), missing]
          rfl

/-! ## Comments -/

/-- One more star opens a documentation comment, unless a slash follows it. -/
theorem blockStyle_eq (text : List Char) :
    blockStyle text =
      if text[0]? = some '*' ∧ text[1]? ≠ some '/' then .javadoc else .block := by
  unfold blockStyle
  split
  · simp
  · next c rest other =>
    cases rest with
    | nil => simp
    | cons d rest =>
        have slash : d ≠ '/' := by
          rintro rfl
          exact other rest rfl
        simp [slash]
  · next closed opened =>
    cases text with
    | nil => simp
    | cons c rest =>
        have star : c ≠ '*' := by
          rintro rfl
          exact opened rest rfl
        simp [star]

end Lexeme

open Lexeme

/-- Comments, with the text after their first two characters. A line comment takes the characters
before the first line terminator, or all that are left. A block comment is well formed exactly if a
star-slash follows its opening, and ends with the first one; it is a documentation comment if it
goes on with a star and that star has no slash after it. Without a star-slash it is unterminated and
takes all that is left. -/
theorem comment_exact (text : List Char) :
    (∃ line rest, text = line ++ rest ∧ (∀ c ∈ line, isLineTerminator c = false) ∧
        (∀ c ∈ rest.head?, isLineTerminator c = true) ∧
        Lexeme.read '/' ('/' :: text) = ⟨.comment .line, line.length + 2⟩) ∧
      ((∃ style size, Lexeme.read '/' ('*' :: text) = ⟨.comment style, size⟩) ↔
        ∃ index, ClosesAt text index) ∧
      (∀ index, FirstCloses text index → Lexeme.read '/' ('*' :: text) =
        ⟨.comment (if text[0]? = some '*' ∧ text[1]? ≠ some '/' then .javadoc else .block),
          index + 4⟩) ∧
      ((∀ index, ¬ ClosesAt text index) → Lexeme.read '/' ('*' :: text) =
        ⟨.faulty [.of .unterminatedComment 0], text.length + 2⟩) := by
  have line : Lexeme.read '/' ('/' :: text) = Lexeme.lineComment text :=
    (ReadAs.lineComment text).read_eq
  have block : Lexeme.read '/' ('*' :: text) = Lexeme.blockComment text :=
    (ReadAs.blockComment text).read_eq
  have closed : ∀ index, FirstCloses text index → Lexeme.blockComment text =
      ⟨.comment (blockStyle text), index + 4⟩ := by
    intro index first
    rw [Lexeme.blockComment, closing?_of_firstCloses first]
  rw [line, block, ← blockStyle_eq]
  refine ⟨?line, ?succeeds, closed, ?unterminated⟩
  case line =>
    refine ⟨text.takeWhile (!isLineTerminator ·), text.dropWhile (!isLineTerminator ·),
      List.takeWhile_append_dropWhile.symm, fun c member => ?_, fun c first => ?_, rfl⟩
    · simpa using List.all_eq_true.mp List.all_takeWhile c member
    · have stops := Stops.dropWhile (!isLineTerminator ·) text
      rw [Stops, Option.mem_def.mp first] at stops
      simpa using stops
  case succeeds =>
    constructor
    · rintro ⟨style, size, read⟩
      rcases exists_firstCloses text with ⟨index, first⟩ | ⟨-, missing⟩
      · exact ⟨index, first.closes⟩
      · rw [Lexeme.blockComment, missing] at read
        cases read
    · rintro ⟨index, closes⟩
      rcases exists_firstCloses text with ⟨first, closing⟩ | ⟨none, -⟩
      · exact ⟨_, _, closed first closing⟩
      · exact absurd closes (none index)
  case unterminated =>
    intro none
    rcases exists_firstCloses text with ⟨index, first⟩ | ⟨-, missing⟩
    · exact absurd first.closes (none index)
    · rw [Lexeme.blockComment, missing]

/-- The star of the opening does not close a comment. -/
example : Lexeme.read '/' ['*', '/'] = ⟨.faulty [.of .unterminatedComment 0], 3⟩ := by decide

end JavaLex
