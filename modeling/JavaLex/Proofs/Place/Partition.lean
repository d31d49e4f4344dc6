import JavaLex.Proofs.Place.LineSearch

/-! # A text is its lines

A text is a list of lines, each of characters that end no line and then its terminator, which only
the last line lacks. The line map, the search in it and the texts of the lines all follow this one
division of the text.
-/

namespace JavaLex

open Charset

/-! ## Lines -/

structure Line where
  content : List Char
  ending : List Char

def Line.chars (line : Line) : List Char :=
  line.content ++ line.ending

/-- A line terminator before the rest of a text: a line feed, a carriage return that no line feed
follows, or the two together. -/
inductive Terminates (rest : List Char) : List Char → Prop where
  | lineFeed : Terminates rest ['\n']
  | carriageReturn : rest.head? ≠ some '\n' → Terminates rest ['\r']
  | both : Terminates rest ['\r', '\n']

/-- The lines of a text, one after the other, the last one without a terminator. -/
inductive Lines : List Char → List Line → Prop where
  | last {content : List Char} : (∀ c ∈ content, isLineTerminator c = false) →
      Lines content [⟨content, []⟩]
  | next {content ending rest : List Char} {lines : List Line} :
      (∀ c ∈ content, isLineTerminator c = false) → Terminates rest ending → Lines rest lines →
      Lines (content ++ ending ++ rest) (⟨content, ending⟩ :: lines)

theorem Terminates.isLineTerminator {rest ending : List Char}
    (terminates : Terminates rest ending) : ∀ c ∈ ending, isLineTerminator c = true := by
  cases terminates with
  | lineFeed => exact List.all_eq_true.mp (by decide)
  | carriageReturn => exact List.all_eq_true.mp (by decide)
  | both => exact List.all_eq_true.mp (by decide)

/-! ## Their starts -/

theorem Terminates.lineStartsFrom_append {rest ending : List Char}
    (terminates : Terminates rest ending) (offset : Nat) :
    lineStartsFrom offset (ending ++ rest) =
      (offset + byteSize ending) :: lineStartsFrom (offset + byteSize ending) rest := by
  have sizes : Char.utf8Size '\n' = 1 ∧ Char.utf8Size '\r' = 1 := by decide
  cases terminates with
  | lineFeed => simp [lineStartsFrom_cons, endsLine, sizes]
  | carriageReturn alone => simp [lineStartsFrom_cons, endsLine, sizes, alone]
  | both => simp [lineStartsFrom_cons, endsLine, sizes, Nat.add_assoc]

namespace Lines

variable {text : List Char} {lines : List Line}

end Lines

theorem Lines.exists_cons {rest : List Char} {lines : List Line} (divided : Lines rest lines)
    {c : Char} (plain : isLineTerminator c = false) : ∃ lines, Lines (c :: rest) lines := by
  cases divided with
  | last others => exact ⟨_, .last (List.forall_mem_cons.mpr ⟨plain, others⟩)⟩
  | @next content _ _ _ others terminates later =>
      exact ⟨_, @Lines.next (c :: content) _ _ _ (List.forall_mem_cons.mpr ⟨plain, others⟩)
        terminates later⟩

theorem terminates_singleton {c : Char} {rest : List Char} (terminator : isLineTerminator c = true)
    (apart : ∀ more, c = '\r' → rest = '\n' :: more → False) : Terminates rest [c] := by
  simp only [isLineTerminator, Bool.or_eq_true, beq_iff_eq] at terminator
  rcases terminator with rfl | rfl
  · exact .lineFeed
  · refine .carriageReturn fun follows => ?_
    obtain ⟨more, rfl⟩ := List.head?_eq_some_iff.mp follows
    exact apart more rfl rfl

/-- Every text is divided into lines. -/
theorem exists_lines (text : List Char) : ∃ lines, Lines text lines := by
  suffices general : ∀ offset : Nat, ∃ lines, Lines text lines from general 0
  intro offset
  fun_induction lineStartsFrom offset text with
  | case1 => exact ⟨_, .last (by simp)⟩
  | case2 offset rest ih =>
      obtain ⟨lines, divided⟩ := ih
      exact ⟨_, @Lines.next [] _ rest _ (by simp) .both divided⟩
  | case3 offset c rest apart terminator ih =>
      obtain ⟨lines, divided⟩ := ih
      exact ⟨_, @Lines.next [] _ rest _ (by simp) (terminates_singleton terminator apart) divided⟩
  | case4 offset c rest apart plain ih =>
      obtain ⟨lines, divided⟩ := ih
      exact divided.exists_cons (Bool.eq_false_iff.mpr plain)

namespace SourceUnit

variable {unit : SourceUnit} {lines : List Line}

end SourceUnit

example : (SourceUnit.mk "Lines.java" "a\r\n\r\rb\n").lines.starts = [0, 3, 4, 5, 7] := by
  decide

end JavaLex
