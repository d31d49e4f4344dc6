import JavaLex.Shell.Session

/-! # Submissions of an input

An input is cut into lines, and a line editor that joins lines as it should cuts the lines into
submissions. Nothing is lost on the way but a submission that the end of the input cuts off.
-/

namespace JavaLex

/-! ## Lines -/

namespace InputLine

/-- The line stands before the rest of an input. A line feed ends it, and a carriage return before
that is part of the end; only the last line may have no end. -/
inductive Heads (rest : List Char) : InputLine → Prop where
  | lineFeed {text : List Char} : '\n' ∉ text → text.getLast? ≠ some '\r' →
      Heads rest ⟨text, ['\n']⟩
  | both {text : List Char} : '\n' ∉ text → Heads rest ⟨text, ['\r', '\n']⟩
  | last {text : List Char} : rest = [] → text ≠ [] → '\n' ∉ text → Heads rest ⟨text, []⟩

inductive Cut : List InputLine → List Char → Prop where
  | nil : Cut [] []
  | cons {line : InputLine} {lines : List InputLine} {rest : List Char} :
      line.Heads rest → Cut lines rest → Cut (line :: lines) (line.raw ++ rest)

theorem takeWhile_append_of_not_mem {text : List Char} (plain : '\n' ∉ text) (rest : List Char) :
    (text ++ rest).takeWhile (· != '\n') = text ++ rest.takeWhile (· != '\n') ∧
      (text ++ rest).dropWhile (· != '\n') = rest.dropWhile (· != '\n') := by
  have other : ∀ c ∈ text, (c != '\n') = true := by
    intro c member
    apply bne_iff_ne.mpr
    intro same
    exact plain (same ▸ member)
  exact ⟨List.takeWhile_append_of_pos other, List.dropWhile_append_of_pos other⟩

theorem first?_of_heads {line : InputLine} {rest : List Char} (heads : line.Heads rest) :
    first? (line.raw ++ rest) = some (line, rest) := by
  cases heads with
  | @lineFeed text plain other =>
      obtain ⟨front, back⟩ := takeWhile_append_of_not_mem plain ('\n' :: rest)
      rw [raw, List.append_assoc, List.singleton_append, first?, front, back]
      simp [other]
  | @both text plain =>
      have whole : '\n' ∉ text ++ ['\r'] := by simpa using plain
      obtain ⟨front, back⟩ := takeWhile_append_of_not_mem whole ('\n' :: rest)
      rw [List.append_assoc, List.singleton_append] at front back
      rw [raw, List.append_assoc, List.cons_append, List.singleton_append, first?, front, back]
      simp
  | @last text ended filled plain =>
      obtain ⟨front, back⟩ := takeWhile_append_of_not_mem plain []
      rw [raw, List.append_nil, ended, first?, front, back]
      simp [filled]

theorem exists_heads {input : List Char} (filled : input ≠ []) :
    ∃ line rest, InputLine.Heads rest line ∧ input = line.raw ++ rest := by
  have whole := List.takeWhile_append_dropWhile (p := (· != '\n')) (l := input)
  have missing : '\n' ∉ input.takeWhile (· != '\n') := by
    intro member
    have other := List.all_eq_true.mp (List.all_takeWhile (l := input) (p := (· != '\n'))) _ member
    exact absurd other (by decide)
  generalize input.takeWhile (· != '\n') = text at whole missing
  cases left : input.dropWhile (· != '\n') with
  | nil =>
      rw [left, List.append_nil] at whole
      exact ⟨⟨text, []⟩, [], .last rfl (whole ▸ filled) missing, by simp [raw, whole]⟩
  | cons c rest =>
      have feed : c = '\n' := by
        have stops := List.head_dropWhile_not (p := (· != '\n')) (l := input) (by simp [left])
        simpa [left] using stops
      rw [left, feed] at whole
      by_cases carriage : text.getLast? = some '\r'
      · obtain ⟨front, same⟩ := List.getLast?_eq_some_iff.mp carriage
        refine ⟨⟨front, ['\r', '\n']⟩, rest, .both ?_, ?_⟩
        · rw [same, List.mem_append, not_or] at missing
          exact missing.1
        · rw [← whole, same]
          simp [raw]
      · exact ⟨⟨text, ['\n']⟩, rest, .lineFeed missing carriage, by simp [raw, ← whole]⟩

/-- Every input has lines. -/
theorem exists_cut (input : List Char) : ∃ lines, Cut lines input := by
  by_cases filled : input = []
  · exact ⟨[], filled ▸ .nil⟩
  · obtain ⟨line, rest, heads, same⟩ := exists_heads filled
    have shorter := length_lt_of_first? (same ▸ first?_of_heads heads)
    obtain ⟨lines, cut⟩ := exists_cut rest
    exact ⟨line :: lines, same ▸ .cons heads cut⟩
termination_by input.length

theorem Cut.flatMap_raw {lines : List InputLine} {input : List Char} (cut : Cut lines input) :
    lines.flatMap raw = input := by
  induction cut with
  | nil => rfl
  | cons _ _ ih => rw [List.flatMap_cons, ih]

/-- The text of some lines, without what ends the last of them. -/
def joined : List InputLine → List Char
  | [] => []
  | [line] => line.text
  | line :: next :: lines => line.raw ++ joined (next :: lines)

theorem joined_cons (line : InputLine) {lines : List InputLine} (more : lines ≠ []) :
    joined (line :: lines) = line.raw ++ joined lines := by
  cases lines with
  | nil => exact absurd rfl more
  | cons next lines => rfl

/-- After each of the lines the input is incomplete, with some text pending before the first. -/
def StaysOpen (incomplete : List Char → Bool) (pending : List Char) (lines : List InputLine) :
    Prop :=
  ∀ front, front <+: lines → front ≠ [] → incomplete (pending ++ joined front) = true

variable {incomplete : List Char → Bool} {pending : List Char}

theorem staysOpen_nil (incomplete : List Char → Bool) (pending : List Char) :
    StaysOpen incomplete pending [] :=
  fun _ front some => absurd (List.prefix_nil.mp front) some

theorem StaysOpen.cons {line : InputLine} {lines : List InputLine}
    (first : incomplete (pending ++ line.text) = true)
    (later : StaysOpen incomplete (pending ++ line.raw) lines) :
    StaysOpen incomplete pending (line :: lines) := by
  intro front starts some
  cases front with
  | nil => exact absurd rfl some
  | cons head front =>
      obtain ⟨rfl, begins⟩ := List.cons_prefix_cons.mp starts
      by_cases alone : front = []
      · rw [alone]
        exact first
      · rw [joined_cons head alone, ← List.append_assoc]
        exact later front begins alone

/-- The lines of a submission: the input is incomplete after each of them but the last. -/
structure IsSubmission (incomplete : List Char → Bool) (lines : List InputLine) : Prop where
  nonempty : lines ≠ []
  staysOpen : StaysOpen incomplete [] lines.dropLast
  complete : incomplete (joined lines) = false

end InputLine

open InputLine

/-! ## Line editors -/

namespace LineEditor

variable {editor : LineEditor} {incomplete : List Char → Bool} {pending input rest : List Char}
  {lines : List InputLine}

/-- What a line editor is relied on for while it reads an input. -/
structure Joins (editor : LineEditor) (incomplete : List Char → Bool) (input : List Char) :
    Prop where
  /-- A text is given once it is complete. -/
  complete : ∀ {pending rest : List Char} {line : InputLine},
    pending ++ (line.raw ++ rest) <:+ input → line.Heads rest →
    incomplete (pending ++ line.text) = false →
      editor.read incomplete pending (line.raw ++ rest) = some (pending ++ line.text, rest)
  /-- Before that, the terminator of a line is put back and the next line is added. -/
  joined : ∀ {pending rest : List Char} {line : InputLine},
    pending ++ (line.raw ++ rest) <:+ input → line.Heads rest →
    incomplete (pending ++ line.text) = true →
      editor.read incomplete pending (line.raw ++ rest) =
        editor.read incomplete (pending ++ line.raw) rest
  /-- What is pending at the end of the input is dropped. -/
  dropped : ∀ {pending : List Char}, pending <:+ input → editor.read incomplete pending [] = none

theorem gather_of_heads {line : InputLine} (heads : line.Heads rest) :
    gather incomplete pending (line.raw ++ rest) =
      if incomplete (pending ++ line.text) then
        gather incomplete (pending ++ line.text ++ line.terminator) rest
      else some (pending ++ line.text, rest) := by
  rw [gather]
  split
  · next none => cases none.symm.trans (first?_of_heads heads)
  · next head left first =>
    obtain ⟨rfl, rfl⟩ := Prod.mk.inj (Option.some.inj (first.symm.trans (first?_of_heads heads)))
    rfl

/-- The editor for piped input can be relied on. -/
theorem piped_joins (incomplete : List Char → Bool) (input : List Char) :
    piped.Joins incomplete input where
  complete := by
    intro pending rest line _ heads complete
    exact (gather_of_heads heads).trans (if_neg (by simp [complete]))
  joined := by
    intro pending rest line _ heads going
    rw [raw, ← List.append_assoc]
    exact (gather_of_heads heads).trans (if_pos going)
  dropped := by
    intro pending _
    show gather incomplete pending [] = none
    rw [gather]
    rfl

/-- What a call gives for some lines: the first of them that make up a complete text, if there are
such lines. -/
inductive Gives (incomplete : List Char → Bool) (pending : List Char) (lines : List InputLine) :
    Option (List Char × List Char) → Prop where
  | nothing : StaysOpen incomplete pending lines → Gives incomplete pending lines none
  | submission {opening more : List InputLine} {last : InputLine} {rest : List Char} :
      lines = opening ++ last :: more → Cut more rest → StaysOpen incomplete pending opening →
      incomplete (pending ++ InputLine.joined (opening ++ [last])) = false →
      Gives incomplete pending lines
        (some (pending ++ InputLine.joined (opening ++ [last]), rest))

theorem Joins.gives (joins : editor.Joins incomplete input) (cut : Cut lines rest)
    (within : pending ++ rest <:+ input) :
    Gives incomplete pending lines (editor.read incomplete pending rest) := by
  induction cut generalizing pending with
  | nil =>
      rw [List.append_nil] at within
      rw [joins.dropped within]
      exact .nothing (staysOpen_nil incomplete pending)
  | @cons line lines rest heads cut ih =>
      cases check : incomplete (pending ++ line.text) with
      | false =>
          rw [joins.complete within heads check]
          have alone : line :: lines = [] ++ line :: lines := rfl
          exact .submission alone cut (staysOpen_nil incomplete pending) check
      | true =>
          rw [joins.joined within heads check]
          rw [← List.append_assoc] at within
          have later := ih within
          generalize editor.read incomplete (pending ++ line.raw) rest = result at later
          cases later with
          | nothing stays => exact .nothing (.cons check stays)
          | @submission opening more last left split cutMore stays complete =>
              have same : pending ++ line.raw ++ InputLine.joined (opening ++ [last]) =
                  pending ++ InputLine.joined (line :: opening ++ [last]) := by
                rw [List.cons_append, joined_cons line (by simp), List.append_assoc]
              rw [same] at complete ⊢
              exact .submission (congrArg (line :: ·) split) cutMore (.cons check stays) complete

theorem Gives.exists_lines {text : List Char}
    (gives : Gives incomplete pending lines (some (text, rest))) :
    ∃ opening last more, lines = opening ++ last :: more ∧ Cut more rest ∧
      StaysOpen incomplete pending opening ∧
      text = pending ++ InputLine.joined (opening ++ [last]) ∧ incomplete text = false := by
  cases gives with
  | submission split cut stays complete => exact ⟨_, _, _, split, cut, stays, rfl, complete⟩

/-- The submissions and what the end of the input cuts off are all of the lines. -/
theorem Joins.exists_groups (joins : editor.Joins incomplete input) (cut : Cut lines rest)
    (within : rest <:+ input) :
    ∃ (groups : List (List InputLine)) (tail : List InputLine), lines = groups.flatten ++ tail ∧
      editor.submissions incomplete rest = groups.map InputLine.joined ∧
      (∀ group ∈ groups, IsSubmission incomplete group) ∧ StaysOpen incomplete [] tail := by
  fun_induction submissions editor incomplete rest generalizing lines with
  | case1 rest none =>
      have given : Gives incomplete [] lines _ := joins.gives cut within
      rw [none] at given
      cases given with
      | nothing stays => exact ⟨[], lines, rfl, rfl, by simp, stays⟩
  | case2 rest text left found ih =>
      have given : Gives incomplete [] lines _ := joins.gives cut within
      rw [found] at given
      obtain ⟨opening, last, more, rfl, cutMore, stays, same, complete⟩ := given.exists_lines
      rw [List.nil_append] at same
      have remains : left <:+ rest := by
        rw [← cut.flatMap_raw, ← cutMore.flatMap_raw, List.flatMap_append, List.flatMap_cons]
        exact (List.suffix_append _ _).trans (List.suffix_append _ _)
      obtain ⟨groups, tail, rfl, texts, each, dropped⟩ := ih cutMore (remains.trans within)
      have first : IsSubmission incomplete (opening ++ [last]) :=
        ⟨by simp, by rwa [List.dropLast_concat], same ▸ complete⟩
      refine ⟨(opening ++ [last]) :: groups, tail, by simp, ?_, ?_, dropped⟩
      · rw [texts, List.map_cons, same]
      · exact List.forall_mem_cons.mpr ⟨first, each⟩

end LineEditor

end JavaLex
