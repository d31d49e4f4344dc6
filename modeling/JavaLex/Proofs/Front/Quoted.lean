import JavaLex.Proofs.Escape.Translation
import JavaLex.Proofs.Front.Numeral
import JavaLex.Proofs.Scan.Lexeme

/-! # Quoted literals end at their quote

A string or character literal that is well formed depends on its own characters only, and its
spelling translates to itself: a backslash in it is followed by the rest of its escape sequence,
which never begins with `u`.
-/

namespace JavaLex.Quoted

open Charset

/-! ## Escape sequences -/

def octalRun (d : Char) (rest : List Char) : List Char :=
  ((d :: rest).take (if valueOf 8 [d] ≤ 3 then 3 else 2)).takeWhile (isDigitOf 8)

theorem escape_octal {d : Char} (digit : isDigitOf 8 d = true) (rest : List Char) :
    escape (d :: rest) =
      (.ok (Char.ofNat (valueOf 8 (octalRun d rest))), (octalRun d rest).length) := by
  simp [escape, isLineTerminator_of_isDigitOf digit, digit, octalRun]

theorem simpleEscape?_ne_some {d c : Char} (found : simpleEscape? d = some c) :
    isLineTerminator d = false ∧ isDigitOf 8 d = false ∧ d ≠ 'u' := by
  unfold simpleEscape? at found
  split at found
  all_goals first | decide | cases found

theorem escape_simple {d c : Char} (found : simpleEscape? d = some c) (rest : List Char) :
    escape (d :: rest) = (.ok c, 1) := by
  obtain ⟨goesOn, other, -⟩ := simpleEscape?_ne_some found
  simp [escape, goesOn, other, found]

private theorem escape_cases {text : List Char} {c : Char} (decoded : (escape text).1 = .ok c) :
    ∃ d rest, text = d :: rest ∧ (isDigitOf 8 d = true ∨ ∃ c, simpleEscape? d = some c) := by
  cases text with
  | nil => cases decoded
  | cons d rest =>
      refine ⟨d, rest, rfl, ?_⟩
      by_cases digit : isDigitOf 8 d = true
      · exact .inl digit
      cases found : simpleEscape? d with
      | some c => exact .inr ⟨c, rfl⟩
      | none =>
          simp only [escape, digit, found] at decoded
          split at decoded <;> cases decoded

theorem escape_of_sameFront {text other : List Char} {c : Char} (decoded : (escape text).1 = .ok c)
    (same : SameFront (escape text).2 text other) : escape other = escape text := by
  obtain ⟨d, rest, rfl, digit | ⟨c, found⟩⟩ := escape_cases decoded
  · have begun : 0 < (octalRun d rest).length := by
      unfold octalRun
      split <;> simp [digit]
    rw [escape_octal digit] at same ⊢
    dsimp only at same
    obtain ⟨fewer, size⟩ := Nat.exists_eq_add_one_of_ne_zero (Nat.ne_of_gt begun)
    have left : ∃ left, other = d :: left := by
      rw [size] at same
      obtain ⟨left, whole, -⟩ := same.tail
      exact ⟨left, whole⟩
    obtain ⟨left, rfl⟩ := left
    have run : octalRun d left = octalRun d rest := (same.limit _).takeWhile (by decide)
    rw [escape_octal digit, run]
  · rw [escape_simple found] at same ⊢
    obtain ⟨left, rfl, -⟩ := same.tail
    exact escape_simple found left

theorem inert_escape {text : List Char} {c : Char} (decoded : (escape text).1 = .ok c) :
    Inert ('\\' :: text.take (escape text).2) := by
  obtain ⟨d, rest, rfl, digit | ⟨c, found⟩⟩ := escape_cases decoded
  · have starts : octalRun d rest <+: d :: rest :=
      (List.takeWhile_prefix _).trans (List.take_prefix _ _)
    have plain : '\\' ∉ octalRun d rest := by
      intro member
      exact absurd (List.all_eq_true.mp List.all_takeWhile _ member) (by decide)
    rw [escape_octal digit]
    dsimp only
    rw [← List.prefix_iff_eq_take.mp starts]
    have begins : ∃ run, octalRun d rest = d :: run := by
      unfold octalRun
      split <;> simp [digit]
    obtain ⟨run, whole⟩ := begins
    rw [whole] at plain ⊢
    have other : d ≠ 'u' := by
      intro same
      rw [same] at digit
      exact absurd digit (by decide)
    exact .pair other (.of_not_mem fun member => plain (List.mem_cons_of_mem d member))
  · obtain ⟨-, -, other⟩ := simpleEscape?_ne_some found
    rw [escape_simple found]
    exact .pair other .nil

/-! ## String literals -/

theorem size_body_le (index : Nat) (text : List Char) : (body index text).size ≤ text.length := by
  fun_induction body index text with
  | case1 => exact Nat.le_refl _
  | case2 => simp
  | case3 => simp
  | case4 index c rest _ _ _ sequence tail decoded _ ih =>
      have taken : sequence.2 ≤ rest.length := size_escape_le rest
      have left : tail.size ≤ (rest.drop sequence.2).length := ih
      simp only [List.length_drop] at left
      simp only [List.length_cons]
      omega
  | case5 index c rest _ _ _ sequence tail illegal _ ih =>
      have taken : sequence.2 ≤ rest.length := size_escape_le rest
      have left : tail.size ≤ (rest.drop sequence.2).length := ih
      simp only [List.length_drop] at left
      simp only [List.length_cons]
      omega
  | case6 index c rest _ _ _ tail ih =>
      have left : tail.size ≤ rest.length := ih
      simp only [List.length_cons]
      omega

theorem body_of_sameFront {index : Nat} {text other : List Char}
    (closed : (body index text).stop = .quote) (legal : (body index text).illegal = [])
    (same : SameFront (body index text).size text other) : body index other = body index text := by
  revert other
  fun_induction body index text with
  | case1 => cases closed
  | case2 index c rest quote =>
      intro other same
      obtain ⟨left, rfl, -⟩ := same.tail
      rw [body, if_pos quote]
  | case3 => cases closed
  | case4 index c rest quote goesOn backslash sequence tail decoded found ih =>
      intro other same
      have parts : SameFront (sequence.2 + tail.size + 1) (c :: rest) other := by
        rw [Nat.add_comm sequence.2, Nat.add_right_comm]
        exact same
      obtain ⟨left, rfl, after⟩ := parts.tail
      have escapes : escape left = sequence := escape_of_sameFront found after.shorter
      have later : body (index + 1 + sequence.2) (left.drop sequence.2) = tail :=
        ih closed legal after.drop
      rw [body, if_neg quote, if_neg goesOn, if_pos backslash, escapes]
      dsimp only
      rw [found, later]
  | case5 => cases legal
  | case6 index c rest quote goesOn plain tail ih =>
      intro other same
      obtain ⟨left, rfl, after⟩ := same.tail
      have later : body (index + 1) left = tail := ih closed legal after
      rw [body, if_neg quote, if_neg goesOn, if_neg plain, later]

theorem inert_body {index : Nat} {text : List Char} (closed : (body index text).stop = .quote)
    (legal : (body index text).illegal = []) : Inert (text.take (body index text).size) := by
  fun_induction body index text with
  | case1 => cases closed
  | case2 index c rest quote =>
      obtain rfl := eq_of_beq quote
      exact .plain (by decide) .nil
  | case3 => cases closed
  | case4 index c rest quote goesOn backslash sequence tail decoded found ih =>
      have front : Inert ('\\' :: rest.take sequence.2) := inert_escape found
      have back : Inert ((rest.drop sequence.2).take tail.size) := ih closed legal
      obtain rfl := eq_of_beq backslash
      have whole : ('\\' :: rest).take (tail.size + 1 + sequence.2) =
          ('\\' :: rest.take sequence.2) ++ (rest.drop sequence.2).take tail.size := by
        rw [Nat.add_right_comm, List.take_succ_cons, Nat.add_comm, List.take_add, List.cons_append]
      rw [whole]
      exact front.append back
  | case5 => cases legal
  | case6 index c rest quote goesOn plain tail ih =>
      have later : Inert (rest.take tail.size) := ih closed legal
      exact .plain (by simpa using plain) later

/-! ## Character literals -/

/-- What follows the opening quote of a character literal that is well formed. -/
inductive Holds : List Char → Char → Nat → Prop where
  | plain {c : Char} {rest : List Char} : isLineTerminator c = false → c ≠ '\'' → c ≠ '\\' →
      c.toNat ≤ 0xffff → Holds (c :: '\'' :: rest) c 2
  | escape {text rest : List Char} {c : Char} : (escape text).1 = .ok c →
      text.drop (escape text).2 = '\'' :: rest → c.toNat ≤ 0xffff →
      Holds ('\\' :: text) c ((escape text).2 + 2)

theorem character_eq_ok_iff {text : List Char} {c : Char} {size : Nat} :
    character text = (.ok c, size) ↔ Holds text c size := by
  constructor
  · intro read
    unfold character at read
    split at read
    · cases read
    · next d rest =>
      split at read
      · cases read
      next goesOn =>
      split at read
      · cases read
      next quote =>
      by_cases backslash : (d == '\\') = true
      · rw [if_pos backslash] at read
        dsimp only at read
        split at read
        · cases read
        next value decoded =>
        split at read
        · next closes =>
          obtain ⟨small, closing⟩ := Bool.and_eq_true_iff.mp closes
          obtain ⟨after, rest⟩ := List.head?_eq_some_iff.mp (eq_of_beq closing)
          obtain rfl := eq_of_beq backslash
          cases read
          exact .escape decoded rest (of_decide_eq_true small)
        · cases read
      · rw [if_neg backslash] at read
        dsimp only at read
        split at read
        · next closes =>
          obtain ⟨small, closing⟩ := Bool.and_eq_true_iff.mp closes
          obtain ⟨after, rfl⟩ := List.head?_eq_some_iff.mp (eq_of_beq closing)
          cases read
          exact .plain (by simpa using goesOn) (by simpa using quote) (by simpa using backslash)
            (of_decide_eq_true small)
        · cases read
  · intro holds
    cases holds with
    | plain goesOn quote backslash small => simp [character, goesOn, quote, backslash, small]
    | escape decoded closes small => simp [character, isLineTerminator, decoded, closes, small]

namespace Holds

variable {text other : List Char} {c : Char} {size : Nat}

theorem size_le (holds : Holds text c size) : size ≤ text.length := by
  cases holds with
  | plain => simp
  | @escape text rest _ _ closes =>
      have left := congrArg List.length closes
      simp only [List.length_drop, List.length_cons] at left ⊢
      omega

theorem inert (holds : Holds text c size) : Inert (text.take size) := by
  cases holds with
  | plain _ _ other => exact .plain other (.plain (by decide) .nil)
  | @escape text rest _ decoded closes =>
      have whole : ('\\' :: text).take ((Quoted.escape text).2 + 2) =
          ('\\' :: text.take (Quoted.escape text).2) ++ ['\''] := by
        rw [List.take_succ_cons, List.take_add, closes]
        rfl
      rw [whole]
      exact (inert_escape decoded).append (.plain (by decide) .nil)

theorem of_sameFront (holds : Holds text c size) (same : SameFront size text other) :
    Holds other c size := by
  cases holds with
  | plain goesOn quote backslash small =>
      obtain ⟨left, rfl, after⟩ := same.tail
      obtain ⟨left, rfl, -⟩ := after.tail
      exact .plain goesOn quote backslash small
  | @escape text rest _ decoded closes small =>
      obtain ⟨left, rfl, after⟩ := same.tail
      have escapes : Quoted.escape left = Quoted.escape text :=
        escape_of_sameFront decoded after.shorter
      have closing := after.drop
      rw [closes] at closing
      obtain ⟨more, ends, -⟩ := closing.tail
      rw [← escapes] at decoded ends ⊢
      exact .escape decoded ends small

end Holds

end JavaLex.Quoted
