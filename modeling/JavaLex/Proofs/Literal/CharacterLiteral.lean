import JavaLex.Proofs.Literal.Sequence

/-! # Character literals

A character literal is one unit between two quotes: a character that fits a UTF-16 code unit, or a
legal escape sequence. Anything else that an opening quote starts is one fault, and recovery takes
what has been read of it together with the text up to the next quote of the line, if there is one.
-/

namespace JavaLex

open Charset

namespace Quoted

/-! ## Units -/

def endsUnit (c : Char) : Bool :=
  c == '\'' || isLineTerminator c

inductive Denotes : List Char → List Char → Char → Prop where
  | plain {c : Char} {rest : List Char} : c ≠ '\'' → c ≠ '\\' → c ≠ '\r' → c ≠ '\n' →
      c.toNat ≤ 0xffff → Denotes [c] rest c
  | escape {front rest : List Char} {c : Char} : Sequence front rest (.ok c) →
      Denotes ('\\' :: front) rest c

/-- What is read after the opening quote, before the rest: one unit with its meaning, unless a
quote, a line terminator or the end of the text stands there. -/
inductive Opening : List Char → List Char → Option (Except Char Char) → Prop where
  | nothing {rest : List Char} : rest.head?.all endsUnit = true → Opening [] rest none
  | plain {c : Char} {rest : List Char} : endsUnit c = false → c ≠ '\\' →
      Opening [c] rest (some (.ok c))
  | escape {front rest : List Char} {meaning : Except Char Char} : Sequence front rest meaning →
      Opening ('\\' :: front) rest (some meaning)

/-- How many characters recovery takes of the rest: those through the first quote, or none if the
line has no quote left. -/
structure Recovers (rest : List Char) (count : Nat) : Prop where
  quote : ∀ line after, rest = line ++ '\'' :: after → (∀ c ∈ line, endsUnit c = false) →
    count = line.length + 1
  nothing : (∀ line after, rest = line ++ '\'' :: after → ∃ c ∈ line, endsUnit c = true) →
    count = 0

def faultOf : Option (Except Char Char) → Fault
  | some (.error c) => .of (.illegalEscape c) 1
  | _ => .of .malformedCharacter 0

/-! ## What escape sequences denote -/

theorem toNat_ofNat_le (code : Nat) : (Char.ofNat code).toNat ≤ code := by
  by_cases valid : code.isValidChar
  · rw [Char.ofNat, dif_pos valid]
    exact Nat.le_refl code
  · rw [Char.ofNat, dif_neg valid]
    exact Nat.zero_le code

theorem Sequence.toNat_le {front rest : List Char} {c : Char}
    (sequence : Sequence front rest (.ok c)) : c.toNat ≤ 0xffff := by
  cases sequence with
  | simple listed =>
      have small : simpleEscapes.all (fun entry => entry.2.toNat ≤ 0xffff) = true := by decide
      exact of_decide_eq_true (List.all_eq_true.mp small _ listed)
  | octal octal =>
      have short : front.length ≤ 3 := by cases octal <;> simp
      calc
        _ ≤ valueOf 8 front := toNat_ofNat_le _
        _ ≤ Nat.pow 8 front.length := Nat.le_of_lt (valueOf_lt (by decide) front)
        _ ≤ Nat.pow 8 3 := Nat.pow_le_pow_right (by decide) short
        _ ≤ 0xffff := by decide

theorem Octal.all_isDigitOf {digits : List Char} (octal : Octal digits) :
    ∀ d ∈ digits, isDigitOf 8 d = true := by
  cases octal with
  | one first => simpa using first
  | two first second => simp [first, second]
  | three first second third =>
      have first : isDigitOf 8 _ = true := isDigitOf_mono (by decide) first
      simp [first, second, third]

theorem Sequence.not_isLineTerminator {front rest : List Char} {meaning : Except Char Char}
    (sequence : Sequence front rest meaning) : ∀ c ∈ front, isLineTerminator c = false := by
  cases sequence with
  | simple listed =>
      have letters : simpleEscapes.all (fun entry => !isLineTerminator entry.1) = true := by decide
      simpa using List.all_eq_true.mp letters _ listed
  | octal octal =>
      exact fun d member => isLineTerminator_of_isDigitOf (octal.all_isDigitOf d member)
  | other goesOn => simpa using goesOn
  | last => nofun

/-! ## The opening -/

namespace Opening

variable {part rest part' rest' : List Char} {meaning meaning' : Option (Except Char Char)}

theorem exists_opening (text : List Char) :
    ∃ part rest meaning, text = part ++ rest ∧ Opening part rest meaning := by
  cases text with
  | nil => exact ⟨[], [], _, rfl, .nothing rfl⟩
  | cons c text =>
      by_cases ends : endsUnit c = true
      · exact ⟨[], c :: text, _, rfl, .nothing (by simpa using ends)⟩
      by_cases backslash : c = '\\'
      · obtain ⟨front, rest, meaning, rfl, sequence⟩ := exists_sequence text
        rw [backslash]
        exact ⟨_, rest, _, rfl, .escape sequence⟩
      · exact ⟨[c], text, _, rfl, .plain (by simpa using ends) backslash⟩

theorem unique (opening : Opening part rest meaning) (opening' : Opening part' rest' meaning')
    (same : part ++ rest = part' ++ rest') : part = part' ∧ rest = rest' ∧ meaning = meaning' := by
  cases opening with
  | nothing ends =>
      cases opening' with
      | nothing => exact ⟨rfl, same, rfl⟩
      | plain inside =>
          rw [List.nil_append, List.cons_append] at same
          simp [same, inside] at ends
      | escape =>
          rw [List.nil_append, List.cons_append] at same
          simp [same, endsUnit, isLineTerminator] at ends
  | plain inside other =>
      cases opening' with
      | nothing ends =>
          rw [List.nil_append, List.cons_append] at same
          simp [← same, inside] at ends
      | plain =>
          obtain ⟨rfl, rfl⟩ := List.cons.inj same
          exact ⟨rfl, rfl, rfl⟩
      | escape => exact absurd (List.cons.inj same).1 other
  | escape sequence =>
      cases opening' with
      | nothing ends =>
          rw [List.nil_append, List.cons_append] at same
          simp [← same, endsUnit, isLineTerminator] at ends
      | plain _ other => exact absurd (List.cons.inj same).1.symm other
      | escape sequence' =>
          obtain ⟨rfl, rfl, rfl⟩ := sequence.unique sequence' (List.cons.inj same).2
          exact ⟨rfl, rfl, rfl⟩

theorem not_isLineTerminator (opening : Opening part rest meaning) :
    ∀ c ∈ part, isLineTerminator c = false := by
  cases opening with
  | nothing => nofun
  | plain inside =>
      intro c member
      rw [List.mem_singleton.mp member]
      exact (Bool.or_eq_false_iff.mp inside).2
  | escape sequence =>
      intro c member
      rcases List.mem_cons.mp member with rfl | inner
      · decide
      · exact sequence.not_isLineTerminator c inner

end Opening

/-! ## Recovery -/

theorem closingSize_of_quote {line after : List Char} (inside : ∀ c ∈ line, endsUnit c = false) :
    closingSize (line ++ '\'' :: after) = line.length + 1 := by
  have taken : (line ++ '\'' :: after).takeWhile (fun c => c != '\'' && !isLineTerminator c) =
      line := by
    rw [List.takeWhile_append_of_pos fun c member => ?_]
    · simp
    · have goesOn := inside c member
      rw [endsUnit, Bool.or_eq_false_iff] at goesOn
      simp [bne, goesOn]
  simp [closingSize, taken]

theorem exists_quote {text : List Char} (closes : closingSize text ≠ 0) :
    ∃ line after, text = line ++ '\'' :: after ∧ ∀ c ∈ line, endsUnit c = false := by
  unfold closingSize at closes
  extract_lets size at closes
  split at closes
  · next quote =>
    obtain ⟨within, last⟩ := List.getElem?_eq_some_iff.mp (eq_of_beq quote)
    have front : text.takeWhile (fun c => c != '\'' && !isLineTerminator c) = text.take size :=
      List.prefix_iff_eq_take.mp (List.takeWhile_prefix _)
    refine ⟨text.take size, text.drop (size + 1), ?_, fun c member => ?_⟩
    · rw [← last, ← List.drop_eq_getElem_cons within, List.take_append_drop]
    · rw [← front] at member
      have inside := List.all_eq_true.mp List.all_takeWhile c member
      simpa [endsUnit] using inside
  · exact absurd rfl closes

theorem recovers_closingSize (text : List Char) : Recovers text (closingSize text) where
  quote line after whole inside := whole ▸ closingSize_of_quote inside
  nothing none := by
    by_cases closes : closingSize text = 0
    · exact closes
    · obtain ⟨line, after, whole, inside⟩ := exists_quote closes
      obtain ⟨c, member, ends⟩ := none line after whole
      exact absurd (ends.symm.trans (inside c member)) (by decide)

theorem not_isLineTerminator_closing {text : List Char} {c : Char}
    (member : c ∈ text.take (closingSize text)) : isLineTerminator c = false := by
  by_cases closes : closingSize text = 0
  · rw [closes, List.take_zero] at member
    cases member
  · obtain ⟨line, after, rfl, inside⟩ := exists_quote closes
    rw [closingSize_of_quote inside, List.take_length_add_append] at member
    rcases List.mem_append.mp member with before | last
    · exact (Bool.or_eq_false_iff.mp (inside c before)).2
    · rw [List.mem_singleton.mp last]
      decide

/-! ## Reading -/

/-- A character literal is read by what stands after its opening quote. -/
theorem character_of_opening {part rest : List Char} {meaning : Option (Except Char Char)} :
    Opening part rest meaning → character (part ++ rest) =
      match meaning with
      | none => (.error .malformed, closingSize rest)
      | some (.error c) => (.error (.illegalEscape c), part.length + closingSize rest)
      | some (.ok c) =>
          if c.toNat ≤ 0xffff ∧ rest.head? = some '\'' then
            (.ok c, part.length + 1)
          else
            (.error .malformed, part.length + closingSize rest) := by
  intro opening
  cases opening with
  | nothing ends =>
      cases rest with
      | nil => rfl
      | cons c rest =>
          have ends : endsUnit c = true := by simpa using ends
          rcases Bool.or_eq_true_iff.mp ends with quote | terminator
          · obtain rfl := eq_of_beq quote
            rfl
          · have apart : c ≠ '\'' := by
              rintro rfl
              cases terminator
            simp [character, terminator, closingSize, apart]
  | plain inside other =>
      obtain ⟨quote, goesOn⟩ := Bool.or_eq_false_iff.mp inside
      simp [character, goesOn, quote, other]
  | @escape front rest meaning sequence =>
      have read : escape (front ++ rest) = (meaning, front.length) := escape_of_sequence sequence
      cases meaning with
      | error c => simp [character, isLineTerminator, read]
      | ok c => simp [character, isLineTerminator, read]

/-- A unit that fits a code unit is one that denotes its character. -/
theorem denotes_iff {unit rest : List Char} {c : Char} :
    Denotes unit ('\'' :: rest) c ↔
      Opening unit ('\'' :: rest) (some (.ok c)) ∧ c.toNat ≤ 0xffff := by
  constructor
  · intro denotes
    cases denotes with
    | plain quote backslash carriage line small =>
        exact ⟨.plain (by simp [endsUnit, isLineTerminator, quote, carriage, line]) backslash, small⟩
    | escape sequence => exact ⟨.escape sequence, sequence.toNat_le⟩
  · rintro ⟨opening, small⟩
    cases opening with
    | plain inside backslash =>
        simp only [endsUnit, isLineTerminator, Bool.or_eq_false_iff, beq_eq_false_iff_ne] at inside
        obtain ⟨quote, line, carriage⟩ := inside
        exact .plain quote backslash carriage line small
    | escape sequence => exact .escape sequence

theorem character_of_denotes {unit rest : List Char} {c : Char}
    (denotes : Denotes unit ('\'' :: rest) c) :
    character (unit ++ '\'' :: rest) = (.ok c, unit.length + 1) := by
  obtain ⟨opening, small⟩ := denotes_iff.mp denotes
  simp [character_of_opening opening, small]

theorem exists_denotes {text : List Char} {c : Char} {size : Nat}
    (read : character text = (.ok c, size)) :
    ∃ unit rest, text = unit ++ '\'' :: rest ∧ Denotes unit ('\'' :: rest) c ∧
      size = unit.length + 1 := by
  obtain ⟨part, rest, meaning, rfl, opening⟩ := Opening.exists_opening text
  rw [character_of_opening opening] at read
  match meaning, opening, read with
  | some (.ok d), opening, read =>
      by_cases closes : d.toNat ≤ 0xffff ∧ rest.head? = some '\''
      · simp only [if_pos closes, Prod.mk.injEq, Except.ok.injEq] at read
        obtain ⟨rfl, rfl⟩ := read
        obtain ⟨after, rfl⟩ := List.head?_eq_some_iff.mp closes.2
        exact ⟨part, after, rfl, denotes_iff.mpr ⟨opening, closes.1⟩, rfl⟩
      · simp only [if_neg closes, Prod.mk.injEq, reduceCtorEq, false_and] at read

end Quoted

namespace Lexeme

open Quoted

theorem read_quote (text : List Char) : read '\'' text = character text := rfl

/-- A character literal has its value if it is read without fault. -/
theorem character_eq_token_iff {text : List Char} {c : Char} {size : Nat} :
    character text = ⟨.token .charLiteral (some (.char c)), size⟩ ↔
      ∃ taken, Quoted.character text = (.ok c, taken) ∧ size = taken + 1 := by
  constructor
  · intro whole
    unfold character at whole
    match Quoted.character text, whole with
    | (.ok _, taken), rfl => exact ⟨taken, rfl, rfl⟩
  · rintro ⟨taken, read, rfl⟩
    simp [character, read]

/-- Where no unit with a closing quote stands, there is one fault, and the line is recovered. -/
theorem character_of_not_denotes {part rest : List Char} {meaning : Option (Except Char Char)}
    (opening : Opening part rest meaning)
    (none : ∀ after c, rest = '\'' :: after → ¬ Denotes part ('\'' :: after) c) :
    character (part ++ rest) = ⟨.faulty [faultOf meaning], 1 + part.length + closingSize rest⟩ := by
  have read := character_of_opening opening
  have size : part.length + closingSize rest + 1 = 1 + part.length + closingSize rest := by omega
  match meaning, opening, read with
  | .none, .nothing _, read =>
      rw [List.nil_append] at read
      simp [character, read, faultOf, Nat.add_comm]
  | some (.error c), _, read => simp [character, read, faultOf, size]
  | some (.ok c), opening, read =>
      have unclosed : ¬ (c.toNat ≤ 0xffff ∧ rest.head? = some '\'') := by
        rintro ⟨small, quote⟩
        obtain ⟨after, rfl⟩ := List.head?_eq_some_iff.mp quote
        exact none after c rfl (denotes_iff.mpr ⟨opening, small⟩)
      simp [character, read, faultOf, size, unclosed]

end Lexeme

open Quoted

/-- A character literal is read with its value and through its closing quote if it is one unit
between quotes, whose character fits a code unit. Otherwise there is one fault: an illegal escape
sequence at its backslash if the opening quote is followed by one, else a malformed literal at that
quote. What the quote opens is then taken, and through the next quote of the line if there is one. -/
theorem characterLiteral_exact (text : List Char) :
    (∀ c size, Lexeme.read '\'' text = ⟨.token .charLiteral (some (.char c)), size⟩ ↔
        ∃ unit rest, text = unit ++ '\'' :: rest ∧ Denotes unit ('\'' :: rest) c ∧
          size = unit.length + 2) ∧
      ((¬ ∃ unit rest c, text = unit ++ '\'' :: rest ∧ Denotes unit ('\'' :: rest) c) →
        ∃ part rest meaning closing, text = part ++ rest ∧ Opening part rest meaning ∧
          (∀ part' rest' meaning', text = part' ++ rest' → Opening part' rest' meaning' →
            part' = part ∧ rest' = rest ∧ meaning' = meaning) ∧
          Recovers rest closing ∧
          Lexeme.read '\'' text = ⟨.faulty [faultOf meaning], 1 + part.length + closing⟩ ∧
          ∀ c ∈ text.take (part.length + closing), isLineTerminator c = false) := by
  rw [Lexeme.read_quote]
  refine ⟨fun c size => ?_, fun none => ?_⟩
  · constructor
    · intro read
      obtain ⟨taken, whole, rfl⟩ := Lexeme.character_eq_token_iff.mp read
      obtain ⟨unit, rest, rfl, denotes, rfl⟩ := exists_denotes whole
      exact ⟨unit, rest, rfl, denotes, rfl⟩
    · rintro ⟨unit, rest, rfl, denotes, rfl⟩
      exact Lexeme.character_eq_token_iff.mpr ⟨_, character_of_denotes denotes, rfl⟩
  · obtain ⟨part, rest, meaning, rfl, opening⟩ := Opening.exists_opening text
    refine ⟨part, rest, meaning, closingSize rest, rfl, opening, ?_, recovers_closingSize rest, ?_,
      fun c member => ?_⟩
    · intro part' rest' meaning' whole opening'
      exact opening'.unique opening whole.symm
    · refine Lexeme.character_of_not_denotes opening fun after c quote denotes => none ?_
      exact ⟨part, after, c, by rw [quote], denotes⟩
    · rw [List.take_length_add_append] at member
      rcases List.mem_append.mp member with read | recovered
      · exact opening.not_isLineTerminator c read
      · exact not_isLineTerminator_closing recovered

/-- An empty literal is left behind its second quote. -/
example : Lexeme.read '\'' "'a".toList = ⟨.faulty [.of .malformedCharacter 0], 2⟩ := by decide

end JavaLex
