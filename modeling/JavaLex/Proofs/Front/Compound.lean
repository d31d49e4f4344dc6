import JavaLex.Charset.Identifier
import JavaLex.Proofs.Front.Lexeme

/-! # Compound operators

A symbol of two or more characters is cut after the first one if both parts are symbols of the
table. `split?_eq_some_iff` is all that splitting a token does.
-/

namespace JavaLex

namespace Operator

/-- The first character of a symbol is in the table, and so is the rest of it. -/
structure SplitsInto (symbol first second : Operator) : Prop where
  two_le_size : 2 ≤ symbol.size
  first_chars : first.chars = symbol.chars.take 1
  second_chars : second.chars = symbol.chars.drop 1

theorem SplitsInto.chars_append {symbol first second : Operator}
    (splits : symbol.SplitsInto first second) : first.chars ++ second.chars = symbol.chars := by
  rw [splits.first_chars, splits.second_chars, List.take_append_drop]

theorem SplitsInto.size_first {symbol first second : Operator}
    (splits : symbol.SplitsInto first second) : first.size = 1 := by
  have long := splits.two_le_size
  rw [size] at long ⊢
  rw [splits.first_chars, List.length_take]
  omega

theorem byteSize_chars (symbol : Operator) : byteSize symbol.chars = symbol.size := by
  cases symbol <;> rfl

theorem isLineTerminator_of_mem_chars {symbol : Operator} {c : Char} (member : c ∈ symbol.chars) :
    Charset.isLineTerminator c = false := by
  have none : symbol.chars.any Charset.isLineTerminator = false := by
    cases symbol <;> decide
  exact Bool.eq_false_iff.mpr (List.any_eq_false.mp none c member)

end Operator

namespace Token

/-- A token is cut in two if it is a compound symbol with a byte for each character, and then at
its second byte. -/
theorem split?_eq_some_iff {token head tail : Token} :
    token.split? = some (head, tail) ↔
      ∃ symbol first second, token.kind = .operator symbol ∧ symbol.SplitsInto first second ∧
        token.span.size = symbol.size ∧
        head = plain (.operator first) first.spelling
          ⟨token.span.start, token.span.start + 1⟩ token.position ∧
        tail = plain (.operator second) second.spelling
          ⟨token.span.start + 1, token.span.stop⟩
          ⟨token.span.start + 1, token.line, token.column + 1⟩ := by
  constructor
  · intro found
    unfold split? at found
    split at found
    · next symbol kind =>
      split at found
      · cases found
      · next proper =>
        simp only [Bool.or_eq_true, decide_eq_true_eq, bne_iff_ne, not_or, Nat.not_lt,
          Decidable.not_not] at proper
        obtain ⟨first, single, found⟩ := Option.bind_eq_some_iff.mp found
        obtain ⟨second, rest, parts⟩ := Option.bind_eq_some_iff.mp found
        obtain ⟨rfl, rfl⟩ := Prod.mk.inj (Option.some.inj parts)
        exact ⟨symbol, first, second, kind, ⟨proper.1, Operator.chars_of_ofChars? single,
          Operator.chars_of_ofChars? rest⟩, proper.2, rfl, rfl⟩
    · cases found
  · rintro ⟨symbol, first, second, kind, splits, size, rfl, rfl⟩
    have single := Operator.ofChars?_eq_some_iff.mpr splits.first_chars
    have rest := Operator.ofChars?_eq_some_iff.mpr splits.second_chars
    have long : decide (symbol.size < 2) = false :=
      decide_eq_false (Nat.not_lt.mpr splits.two_le_size)
    simp only [split?, kind]
    rw [long, size, bne_self_eq_false, Bool.or_false, if_neg (by decide), single, rest]
    rfl

theorem isSome_split?_iff {token : Token} :
    token.split?.isSome = true ↔
      ∃ symbol first second, token.kind = .operator symbol ∧ symbol.SplitsInto first second ∧
        token.span.size = symbol.size := by
  constructor
  · intro some
    obtain ⟨⟨head, tail⟩, found⟩ := Option.isSome_iff_exists.mp some
    obtain ⟨symbol, first, second, kind, splits, size, -, -⟩ := split?_eq_some_iff.mp found
    exact ⟨symbol, first, second, kind, splits, size⟩
  · rintro ⟨symbol, first, second, kind, splits, size⟩
    have found := split?_eq_some_iff.mpr ⟨symbol, first, second, kind, splits, size, rfl, rfl⟩
    rw [found]
    rfl

end Token

end JavaLex
