/-! # Line editors

A line editor reads an input call by call. What it gives for a call is a submission: a line, or
several lines that are joined because the text is incomplete without those that follow. How it is
done is left open here; `LineEditor.piped` is an editor for input that nobody types.
-/

namespace JavaLex

/-- A line of input and the characters that end it. -/
structure InputLine where
  text : List Char
  terminator : List Char
deriving DecidableEq, Repr, Inhabited

def InputLine.raw (line : InputLine) : List Char :=
  line.text ++ line.terminator

/-- The first line of an input, and what follows it. A line ends with a line feed, which a carriage
return may precede; the last line may lack it. -/
def InputLine.first? (input : List Char) : Option (InputLine × List Char) :=
  let text := input.takeWhile (· != '\n')
  match input.dropWhile (· != '\n') with
  | _ :: rest =>
      if text.getLast? == some '\r' then some (⟨text.dropLast, ['\r', '\n']⟩, rest)
      else some (⟨text, ['\n']⟩, rest)
  | [] => if text.isEmpty then none else some (⟨text, []⟩, [])

theorem InputLine.length_lt_of_first? {input rest : List Char} {line : InputLine}
    (first : first? input = some (line, rest)) : rest.length < input.length := by
  have whole := congrArg List.length (List.takeWhile_append_dropWhile (p := (· != '\n')) (l := input))
  rw [List.length_append] at whole
  unfold first? at first
  dsimp only at first
  split at first
  · next c more dropped =>
    rw [dropped, List.length_cons] at whole
    split at first
    · obtain ⟨-, rfl⟩ := Prod.mk.inj (Option.some.inj first)
      omega
    · obtain ⟨-, rfl⟩ := Prod.mk.inj (Option.some.inj first)
      omega
  · next dropped =>
    split at first
    · cases first
    · next some =>
      obtain ⟨-, rfl⟩ := Prod.mk.inj (Option.some.inj first)
      rw [dropped, List.length_nil] at whole
      have positive := List.length_pos_iff.mpr (mt List.isEmpty_iff.mpr some)
      rw [List.length_nil]
      omega

/-- Reads a call from what is left of an input, where some text is pending: a submission, with what
is left after it, or nothing at the end of the input. The first argument says which texts are
incomplete. A call that gives something takes something. -/
structure LineEditor where
  read : (List Char → Bool) → List Char → List Char → Option (List Char × List Char)
  shorter : ∀ {incomplete pending input text rest},
    read incomplete pending input = some (text, rest) → rest.length < input.length

namespace LineEditor

def submissions (editor : LineEditor) (incomplete : List Char → Bool) (input : List Char) :
    List (List Char) :=
  match _read : editor.read incomplete [] input with
  | none => []
  | some (text, rest) => text :: editor.submissions incomplete rest
termination_by input.length
decreasing_by exact editor.shorter _read

/-- Takes lines until the text is complete; the terminators of the lines before the last are put
back. -/
def gather (incomplete : List Char → Bool) (pending input : List Char) :
    Option (List Char × List Char) :=
  match _first : InputLine.first? input with
  | none => none
  | some (line, rest) =>
      let text := pending ++ line.text
      if incomplete text then gather incomplete (text ++ line.terminator) rest
      else some (text, rest)
termination_by input.length
decreasing_by exact InputLine.length_lt_of_first? _first

theorem length_lt_of_gather {incomplete : List Char → Bool} {pending input text rest : List Char}
    (found : gather incomplete pending input = some (text, rest)) :
    rest.length < input.length := by
  fun_induction gather incomplete pending input with
  | case1 => cases found
  | case2 pending input line more first text going ih =>
      exact Nat.lt_trans (ih found) (InputLine.length_lt_of_first? first)
  | case3 pending input line more first text closed =>
      obtain ⟨-, rfl⟩ := Prod.mk.inj (Option.some.inj found)
      exact InputLine.length_lt_of_first? first

/-- The editor for input that nobody types. -/
def piped : LineEditor where
  read := gather
  shorter := length_lt_of_gather

end LineEditor

end JavaLex
