import JavaLex.Proofs.Literal.Sequence

/-! # String literals

The text after an opening quote is split from left to right into units: a backslash with its escape
sequence, or any other character, up to the first quote, line terminator or end of the text that no
backslash takes. There is one way to split it, and the units decide what the literal is: its value
when a quote ends it and every unit is legal, and otherwise its faults in the order of the text.
-/

namespace JavaLex

open Charset

namespace Quoted

/-! ## Units -/

/-- A part of a string literal: its characters, and the one it stands for or the one that makes it
illegal. -/
structure Piece where
  text : List Char
  meaning : Except Char Char
deriving Repr

def endsBody (c : Char) : Bool :=
  c == '"' || isLineTerminator c

/-- The text is split into units up to the rest, which does not belong to the body. -/
inductive Splits : List Char → List Piece → List Char → Prop where
  | stop {rest : List Char} : rest.head?.all endsBody = true → Splits rest [] rest
  | plain {c : Char} {text rest : List Char} {pieces : List Piece} : endsBody c = false →
      c ≠ '\\' → Splits text pieces rest → Splits (c :: text) (⟨[c], .ok c⟩ :: pieces) rest
  | escape {front text rest : List Char} {meaning : Except Char Char} {pieces : List Piece} :
      Sequence front text meaning → Splits text pieces rest →
      Splits ('\\' :: (front ++ text)) (⟨'\\' :: front, meaning⟩ :: pieces) rest

def decoded (pieces : List Piece) : List Char :=
  pieces.filterMap (·.meaning.toOption)

/-- The illegal units, each with the index of its backslash and the character at fault; the first
unit has the given index. -/
def illegals (index : Nat) : List Piece → List (Nat × Char)
  | [] => []
  | ⟨text, .ok _⟩ :: pieces => illegals (index + text.length) pieces
  | ⟨text, .error c⟩ :: pieces => (index, c) :: illegals (index + text.length) pieces

def stopOf (rest : List Char) : Stop :=
  match rest.head? with
  | none => .inputEnd
  | some c => if c == '"' then .quote else .lineEnd

def extent (pieces : List Piece) : Nat :=
  (pieces.flatMap (·.text)).length

@[simp] theorem decoded_cons_ok (text : List Char) (c : Char) (pieces : List Piece) :
    decoded (⟨text, .ok c⟩ :: pieces) = c :: decoded pieces := rfl

@[simp] theorem decoded_cons_error (text : List Char) (c : Char) (pieces : List Piece) :
    decoded (⟨text, .error c⟩ :: pieces) = decoded pieces := rfl

@[simp] theorem extent_cons (piece : Piece) (pieces : List Piece) :
    extent (piece :: pieces) = piece.text.length + extent pieces := by
  rw [extent, List.flatMap_cons, List.length_append, extent]

namespace Splits

variable {text rest rest' : List Char} {pieces pieces' : List Piece}

theorem text_eq (splits : Splits text pieces rest) : text = pieces.flatMap (·.text) ++ rest := by
  induction splits with
  | stop _ => rfl
  | plain _ _ _ ih => simpa using ih
  | escape _ _ ih => simpa using ih

theorem exists_of_backslash (splits : Splits ('\\' :: text) pieces rest) :
    ∃ front after meaning more, text = front ++ after ∧ Sequence front after meaning ∧
      Splits after more rest ∧ pieces = ⟨'\\' :: front, meaning⟩ :: more := by
  generalize whole : '\\' :: text = read at splits
  cases splits with
  | stop ends =>
      subst whole
      simp [endsBody, isLineTerminator] at ends
  | plain _ other _ => exact absurd (List.cons.inj whole).1.symm other
  | escape sequence later =>
      exact ⟨_, _, _, _, (List.cons.inj whole).2, sequence, later, rfl⟩

theorem unique (splits : Splits text pieces rest) (splits' : Splits text pieces' rest') :
    pieces = pieces' ∧ rest = rest' := by
  induction splits generalizing pieces' with
  | stop ends =>
      cases splits' with
      | stop _ => exact ⟨rfl, rfl⟩
      | plain inside _ _ => simp [inside] at ends
      | escape _ _ => simp [endsBody, isLineTerminator] at ends
  | plain inside other _ ih =>
      cases splits' with
      | stop ends => simp [inside] at ends
      | plain _ _ later =>
          obtain ⟨rfl, rfl⟩ := ih later
          exact ⟨rfl, rfl⟩
      | escape _ _ => exact absurd rfl other
  | escape sequence _ ih =>
      obtain ⟨front, after, meaning, more, same, sequence', later, rfl⟩ := splits'.exists_of_backslash
      obtain ⟨rfl, rfl, rfl⟩ := sequence.unique sequence' same
      obtain ⟨rfl, rfl⟩ := ih later
      exact ⟨rfl, rfl⟩

end Splits

theorem exists_splits (text : List Char) : ∃ pieces rest, Splits text pieces rest := by
  match text with
  | [] => exact ⟨[], [], .stop rfl⟩
  | c :: text =>
      by_cases ends : endsBody c = true
      · exact ⟨[], c :: text, .stop (by simpa using ends)⟩
      by_cases backslash : c = '\\'
      · obtain ⟨front, after, meaning, whole, sequence⟩ := exists_sequence text
        have shorter : after.length < text.length + 1 := by
          rw [whole, List.length_append]
          omega
        obtain ⟨pieces, rest, splits⟩ := exists_splits after
        rw [backslash, whole]
        exact ⟨_, rest, .escape sequence splits⟩
      · obtain ⟨pieces, rest, splits⟩ := exists_splits text
        exact ⟨_, rest, .plain (by simpa using ends) backslash splits⟩
termination_by text.length

theorem body_of_splits {text rest : List Char} {pieces : List Piece}
    (splits : Splits text pieces rest) (index : Nat) :
    body index text =
      ⟨decoded pieces, illegals index pieces, stopOf rest,
        extent pieces + if stopOf rest = .quote then 1 else 0⟩ := by
  induction splits generalizing index with
  | @stop rest ends =>
      cases rest with
      | nil => simp [body, decoded, illegals, stopOf, extent]
      | cons c rest =>
          have ends : c = '"' ∨ isLineTerminator c = true := by simpa [endsBody] using ends
          by_cases quote : c = '"'
          · simp [body, decoded, illegals, stopOf, extent, quote]
          · simp [body, decoded, illegals, stopOf, extent, quote, ends.resolve_left quote]
  | @plain c text rest pieces inside other _ ih =>
      obtain ⟨quote, goesOn⟩ := Bool.or_eq_false_iff.mp inside
      rw [body, if_neg (by simp [quote]), if_neg (by simp [goesOn]), if_neg (by simpa using other)]
      dsimp only
      rw [ih, decoded_cons_ok, extent_cons]
      simp only [illegals, List.length_singleton, Body.mk.injEq, true_and]
      omega
  | @escape front text rest meaning pieces sequence _ ih =>
      have read := escape_of_sequence sequence
      have moved : index + 1 + front.length = index + (front.length + 1) := by omega
      rw [body, if_neg (by decide), if_neg (by decide), if_pos (by decide)]
      dsimp only
      rw [read, List.drop_left, moved, ih]
      have size : ∀ after, extent pieces + after + 1 + front.length =
          front.length + 1 + extent pieces + after := by omega
      cases meaning with
      | ok c => simp [illegals, size]
      | error c => simp [illegals, size]

/-! ## Literals -/

def Piece.isLegal (piece : Piece) : Bool :=
  piece.meaning.isOk

theorem illegals_eq_nil_iff (index : Nat) (pieces : List Piece) :
    illegals index pieces = [] ↔ pieces.all Piece.isLegal = true := by
  induction pieces generalizing index with
  | nil => simp [illegals]
  | cons piece pieces ih =>
      obtain ⟨text, meaning⟩ := piece
      cases meaning with
      | ok c => simpa [illegals, Piece.isLegal, Except.isOk, Except.toBool] using ih _
      | error c => simp [illegals, Piece.isLegal, Except.isOk, Except.toBool]

end Quoted

open Quoted

/-- String literals are read by their units. Where a quote ends them and every unit is legal the
literal has what they stand for as its value. Otherwise its faults are that it is unterminated, at
the opening quote and unless a quote ends it, and each illegal unit at its backslash, in the order
of the text. A literal that is cut off is recoverable where a line ends it. Either way it takes its
units and the quote that ends them. -/
theorem stringLiteral_exact (text : List Char) :
    ∃ pieces rest, Splits text pieces rest ∧
      (∀ pieces' rest', Splits text pieces' rest' → pieces' = pieces ∧ rest' = rest) ∧
      text = pieces.flatMap (·.text) ++ rest ∧
      Lexeme.read '"' text =
        if rest.head? = some '"' ∧ pieces.all Piece.isLegal = true then
          ⟨.token .stringLiteral (some (.string (String.ofList (decoded pieces)))),
            1 + extent pieces + 1⟩
        else
          ⟨.faulty
            ((if rest.head? = some '"' then [] else [⟨.unterminatedString, 0, !rest.isEmpty⟩]) ++
              (illegals 1 pieces).map fun (index, c) => .of (.illegalEscape c) index),
            1 + extent pieces + if rest.head? = some '"' then 1 else 0⟩ := by
  obtain ⟨pieces, rest, splits⟩ := exists_splits text
  refine ⟨pieces, rest, splits, fun pieces' rest' splits' => splits'.unique splits,
    splits.text_eq, ?_⟩
  have read : Lexeme.read '"' text = Lexeme.string text := (Lexeme.ReadAs.string text).read_eq
  rw [read, Lexeme.string, body_of_splits splits 1]
  have legal_iff := illegals_eq_nil_iff 1 pieces
  cases rest with
  | nil => simp [stopOf, Fault.of, Cause.isRecoverable, Nat.add_comm]
  | cons c rest =>
      by_cases quote : c = '"'
      · by_cases legal : pieces.all Piece.isLegal = true
        · simp [stopOf, quote, legal, legal_iff.mpr legal, Nat.add_comm]
        · obtain ⟨first, more, some⟩ := List.exists_cons_of_ne_nil (mt legal_iff.mp legal)
          simp [stopOf, quote, legal, some, Nat.add_comm]
      · simp [stopOf, quote, Nat.add_comm]

end JavaLex
