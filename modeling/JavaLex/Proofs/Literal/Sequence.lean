import JavaLex.Proofs.Front.Quoted

/-! # Escape sequences

What an escape sequence is after its backslash: a letter or mark of a table, the longest octal
number up to 377, or else an illegal character; nothing at all where the line ends. `escape` reads
exactly these, so that there is one way to read an escape sequence in front of any text.
-/

namespace JavaLex.Quoted

open Charset

/-! ## What is written -/

def simpleEscapes : List (Char × Char) :=
  [('b', '\x08'), ('t', '\t'), ('n', '\n'), ('f', '\x0c'), ('r', '\r'), ('s', ' '), ('"', '"'),
   ('\'', '\''), ('\\', '\\')]

/-- Octal digits that an escape sequence may have: three only if the first is at most three. -/
inductive Octal : List Char → Prop where
  | one {d : Char} : isDigitOf 8 d = true → Octal [d]
  | two {d e : Char} : isDigitOf 8 d = true → isDigitOf 8 e = true → Octal [d, e]
  | three {d e f : Char} : isDigitOf 4 d = true → isDigitOf 8 e = true → isDigitOf 8 f = true →
      Octal [d, e, f]

/-- The front is an escape sequence before the rest: it stands for a character, or a character
makes it illegal. -/
inductive Sequence : List Char → List Char → Except Char Char → Prop where
  /-- A letter or mark of the table. -/
  | simple {letter decoded : Char} {rest : List Char} : (letter, decoded) ∈ simpleEscapes →
      Sequence [letter] rest (.ok decoded)
  /-- Octal digits that the next character does not go on with. -/
  | octal {digits rest : List Char} : Octal digits →
      (∀ next ∈ rest.head?, ¬ Octal (digits ++ [next])) →
      Sequence digits rest (.ok (Char.ofNat (valueOf 8 digits)))
  /-- Any other character of the line. -/
  | other {c : Char} {rest : List Char} : isLineTerminator c = false → ¬ Octal [c] →
      (∀ decoded, (c, decoded) ∉ simpleEscapes) → Sequence [c] rest (.error c)
  /-- A backslash at the end of its line. -/
  | last {rest : List Char} : rest.head?.all isLineTerminator = true →
      Sequence [] rest (.error '\\')

/-! ## What is read -/

theorem simpleEscape?_eq_some_iff {letter decoded : Char} :
    simpleEscape? letter = some decoded ↔ (letter, decoded) ∈ simpleEscapes := by
  constructor
  · intro found
    unfold simpleEscape? at found
    split at found
    all_goals first | cases found; decide | cases found
  · intro listed
    simp only [simpleEscapes, List.mem_cons, Prod.mk.injEq, List.not_mem_nil, or_false] at listed
    rcases listed with ⟨rfl, rfl⟩ | ⟨rfl, rfl⟩ | ⟨rfl, rfl⟩ | ⟨rfl, rfl⟩ | ⟨rfl, rfl⟩ | ⟨rfl, rfl⟩ |
      ⟨rfl, rfl⟩ | ⟨rfl, rfl⟩ | ⟨rfl, rfl⟩ <;> rfl

def moreDigits (d : Char) : Nat :=
  if isDigitOf 4 d then 2 else 1

theorem octal_cons_iff {d : Char} {digits : List Char} :
    Octal (d :: digits) ↔
      isDigitOf 8 d = true ∧ digits.length ≤ moreDigits d ∧ ∀ e ∈ digits, isDigitOf 8 e = true := by
  unfold moreDigits
  constructor
  · intro octal
    cases octal with
    | one first => simp [first]
    | two first second =>
        refine ⟨first, ?_, by simpa using second⟩
        split <;> simp
    | three first second third =>
        exact ⟨isDigitOf_mono (by decide) first, by simp [first], by simp [second, third]⟩
  · intro rule
    obtain ⟨first, short, others⟩ := rule
    match digits with
    | [] => exact .one first
    | [e] => exact .two first (others e (.head _))
    | [e, f] =>
        have low : isDigitOf 4 d = true := by
          by_cases low : isDigitOf 4 d = true
          · exact low
          · simp [low] at short
        exact .three low (others e (.head _)) (others f (.tail _ (.head _)))
    | _ :: _ :: _ :: more =>
        split at short <;> simp at short

theorem valueOf_le_three_iff {d : Char} (digit : isDigitOf 8 d = true) :
    valueOf 8 [d] ≤ 3 ↔ isDigitOf 4 d = true := by
  have digits : ∀ code < 123, isDigitOf 8 (Char.ofNat code) = true →
      (valueOf 8 [Char.ofNat code] ≤ 3 ↔ isDigitOf 4 (Char.ofNat code) = true) := by decide
  have upper : d.toNat < 123 := Nat.lt_succ_of_le (bounds_of_isDigitOf digit).2
  rw [← Char.ofNat_toNat d] at digit ⊢
  exact digits d.toNat upper digit

theorem octalRun_eq {d : Char} (digit : isDigitOf 8 d = true) (rest : List Char) :
    octalRun d rest = d :: (rest.take (moreDigits d)).takeWhile (isDigitOf 8) := by
  simp only [octalRun, moreDigits, valueOf_le_three_iff digit]
  split <;> simp [digit]

theorem octalRun_of_octal {d : Char} {digits rest : List Char} (octal : Octal (d :: digits))
    (longest : ∀ next ∈ rest.head?, ¬ Octal (d :: digits ++ [next])) :
    octalRun d (digits ++ rest) = d :: digits := by
  obtain ⟨first, short, others⟩ := octal_cons_iff.mp octal
  have stops : (rest.take (moreDigits d - digits.length)).takeWhile (isDigitOf 8) = [] := by
    cases left : moreDigits d - digits.length with
    | zero => rfl
    | succ count =>
        cases rest with
        | nil => rfl
        | cons next rest =>
            have refused : ¬ isDigitOf 8 next = true := by
              intro digit
              have longer : ¬ Octal (d :: (digits ++ [next])) := longest next rfl
              refine longer (octal_cons_iff.mpr ⟨first, ?_, ?_⟩)
              · rw [List.length_append, List.length_singleton]
                omega
              · intro e member
                rcases List.mem_append.mp member with earlier | last
                · exact others e earlier
                · rwa [List.mem_singleton.mp last]
            simp [refused]
  rw [octalRun_eq first, List.take_append, List.take_of_length_le short,
    List.takeWhile_append_of_pos others, stops, List.append_nil]

theorem escape_of_sequence {front rest : List Char} {meaning : Except Char Char}
    (sequence : Sequence front rest meaning) :
    escape (front ++ rest) = (meaning, front.length) := by
  cases sequence with
  | simple listed => exact escape_simple (simpleEscape?_eq_some_iff.mpr listed) rest
  | octal octal longest =>
      obtain ⟨d, digits, rfl⟩ : ∃ d digits, front = d :: digits := by
        cases octal <;> exact ⟨_, _, rfl⟩
      rw [List.cons_append, escape_octal (octal_cons_iff.mp octal).1,
        octalRun_of_octal octal longest]
  | @other c rest goesOn octal unlisted =>
      have digit : isDigitOf 8 c = false := by
        simpa [octal_cons_iff] using octal
      have unknown : simpleEscape? c = none := by
        cases found : simpleEscape? c with
        | none => rfl
        | some decoded => exact absurd (simpleEscape?_eq_some_iff.mp found) (unlisted decoded)
      simp [escape, goesOn, digit, unknown]
  | last ends =>
      cases rest with
      | nil => rfl
      | cons c rest =>
          have terminator : isLineTerminator c = true := by simpa using ends
          simp [escape, terminator]

theorem exists_octal {d : Char} (digit : isDigitOf 8 d = true) (text : List Char) :
    ∃ digits rest, text = digits ++ rest ∧ Octal (d :: digits) ∧
      ∀ next ∈ rest.head?, ¬ Octal (d :: digits ++ [next]) := by
  cases text with
  | nil => exact ⟨[], [], rfl, .one digit, nofun⟩
  | cons e text =>
      by_cases second : isDigitOf 8 e = true
      · by_cases third : isDigitOf 4 d = true ∧ ∃ f ∈ text.head?, isDigitOf 8 f = true
        · obtain ⟨low, f, found, octal⟩ := third
          obtain ⟨rest, rfl⟩ := List.head?_eq_some_iff.mp found
          refine ⟨[e, f], rest, rfl, .three low second octal, fun next _ longer => ?_⟩
          have short := (octal_cons_iff.mp longer).2.1
          unfold moreDigits at short
          split at short <;> simp at short
        · refine ⟨[e], text, rfl, .two digit second, fun next found longer => third ?_⟩
          cases longer with
          | three low _ octal => exact ⟨low, next, found, octal⟩
      · refine ⟨[], e :: text, rfl, .one digit, fun next found longer => second ?_⟩
        obtain rfl := Option.some.inj found
        cases longer with
        | two _ octal => exact octal

/-- Every text after a backslash begins with an escape sequence. -/
theorem exists_sequence (text : List Char) :
    ∃ front rest meaning, text = front ++ rest ∧ Sequence front rest meaning := by
  cases text with
  | nil => exact ⟨[], [], _, rfl, .last rfl⟩
  | cons c rest =>
      by_cases ends : isLineTerminator c = true
      · exact ⟨[], c :: rest, _, rfl, .last (by simpa using ends)⟩
      by_cases digit : isDigitOf 8 c = true
      · obtain ⟨digits, rest, rfl, octal, longest⟩ := exists_octal digit rest
        exact ⟨c :: digits, rest, _, rfl, .octal octal longest⟩
      by_cases listed : ∃ decoded, (c, decoded) ∈ simpleEscapes
      · obtain ⟨decoded, listed⟩ := listed
        exact ⟨[c], rest, _, rfl, .simple listed⟩
      · refine ⟨[c], rest, _, rfl, .other (by simpa using ends) ?_ (not_exists.mp listed)⟩
        exact fun octal => digit (octal_cons_iff.mp octal).1

/-- There is one escape sequence in front of a text. -/
theorem Sequence.unique {front rest front' rest' : List Char} {meaning meaning' : Except Char Char}
    (sequence : Sequence front rest meaning) (sequence' : Sequence front' rest' meaning')
    (same : front ++ rest = front' ++ rest') :
    front = front' ∧ rest = rest' ∧ meaning = meaning' := by
  have read := escape_of_sequence sequence
  rw [same, escape_of_sequence sequence'] at read
  obtain ⟨rfl, size⟩ := Prod.mk.inj read
  obtain ⟨rfl, rfl⟩ := List.append_inj same size.symm
  exact ⟨rfl, rfl, rfl⟩

end JavaLex.Quoted
