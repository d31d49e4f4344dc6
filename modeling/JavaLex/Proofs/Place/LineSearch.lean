import JavaLex.Proofs.Place.Line
import JavaLex.Source.LineSearch

/-! # The line map from bytes

The pass over the bytes gives the starts that the characters give, because no byte of a longer
character is a terminator. The search by halving gives the number of starts up to the offset, and
never fails: the first line starts at zero, so no offset would be put in before it.
-/

namespace JavaLex

open Charset

namespace LineMap

/-! ## Bytes -/

/-- The index of an offset among the starts, or where it would be put in. -/
inductive Found (starts : List Nat) (offset : Nat) : Except Nat Nat → Prop where
  | here {index : Nat} : starts[index]? = some offset → Found starts offset (.ok index)
  | between {index : Nat} : index ≤ starts.length → (∀ start ∈ starts.take index, start < offset) →
      (∀ start ∈ starts.drop index, offset < start) → Found starts offset (.error index)

/-- What the search knows of the starts outside of the part that is left. -/
structure Narrowed (starts : List Nat) (offset low high : Nat) : Prop where
  low_le_high : low ≤ high
  high_le : high ≤ starts.length
  below : ∀ start ∈ starts.take low, start < offset
  above : ∀ start ∈ starts.drop high, offset < start

variable {starts : List Nat} {offset low high middle start : Nat}

theorem le_of_mem_take (ordered : starts.Pairwise (· < ·)) (found : starts[middle]? = some start) :
    ∀ other ∈ starts.take (middle + 1), other ≤ start := by
  intro other member
  rw [List.take_add_one, found, Option.toList_some] at member
  have before := ordered.sublist (List.take_sublist (middle + 1) starts)
  rw [List.take_add_one, found, Option.toList_some, List.pairwise_append] at before
  rcases List.mem_append.mp member with earlier | last
  · exact Nat.le_of_lt (before.2.2 other earlier start (.head _))
  · exact Nat.le_of_eq (List.mem_singleton.mp last)

theorem le_of_mem_drop (ordered : starts.Pairwise (· < ·)) (found : starts[middle]? = some start) :
    ∀ other ∈ starts.drop middle, start ≤ other := by
  intro other member
  obtain ⟨bound, same⟩ := List.getElem?_eq_some_iff.mp found
  have after := ordered.sublist (List.drop_sublist middle starts)
  rw [List.drop_eq_getElem_cons bound, same] at member after
  rcases List.mem_cons.mp member with first | later
  · exact Nat.le_of_eq first.symm
  · exact Nat.le_of_lt ((List.pairwise_cons.mp after).1 other later)

namespace Narrowed

theorem whole (starts : List Nat) (offset : Nat) : Narrowed starts offset 0 starts.length where
  low_le_high := Nat.zero_le _
  high_le := Nat.le_refl _
  below := by simp
  above := by simp

theorem right (narrowed : Narrowed starts offset low high) (ordered : starts.Pairwise (· < ·))
    (within : middle < high) (found : starts[middle]? = some start) (before : start < offset) :
    Narrowed starts offset (middle + 1) high where
  low_le_high := within
  high_le := narrowed.high_le
  below := fun other member => Nat.lt_of_le_of_lt (le_of_mem_take ordered found other member) before
  above := narrowed.above

theorem left (narrowed : Narrowed starts offset low high) (ordered : starts.Pairwise (· < ·))
    (within : low ≤ middle) (found : starts[middle]? = some start) (after : offset < start) :
    Narrowed starts offset low middle where
  low_le_high := within
  high_le := Nat.le_of_lt (List.getElem?_eq_some_iff.mp found).choose
  below := narrowed.below
  above := fun other member => Nat.lt_of_lt_of_le after (le_of_mem_drop ordered found other member)

end Narrowed

theorem countP_eq_of_split {count : Nat} (bound : count ≤ starts.length)
    (before : ∀ start ∈ starts.take count, start ≤ offset)
    (after : ∀ start ∈ starts.drop count, offset < start) :
    starts.countP (· ≤ offset) = count := by
  have front : (starts.take count).countP (· ≤ offset) = count := by
    rw [List.countP_eq_length.mpr fun start member => decide_eq_true (before start member),
      List.length_take_of_le bound]
  have back : (starts.drop count).countP (· ≤ offset) = 0 :=
    List.countP_eq_zero.mpr fun start member => by
      simpa using after start member
  rw [← List.take_append_drop count starts, List.countP_append, front, back, Nat.add_zero]

/-- The number of starts up to an offset, by what the search for it finds. -/
def upTo : Except Nat Nat → Nat
  | .ok index => index + 1
  | .error index => index

theorem Found.split {result : Except Nat Nat} (found : Found starts offset result)
    (ordered : starts.Pairwise (· < ·)) :
    upTo result ≤ starts.length ∧ (∀ start ∈ starts.take (upTo result), start ≤ offset) ∧
      ∀ start ∈ starts.drop (upTo result), offset < start := by
  cases found with
  | @here index here =>
      obtain ⟨bound, same⟩ := List.getElem?_eq_some_iff.mp here
      refine ⟨bound, le_of_mem_take ordered here, fun start member => ?_⟩
      have after := ordered.sublist (List.drop_sublist index starts)
      rw [List.drop_eq_getElem_cons bound, same] at after
      exact (List.pairwise_cons.mp after).1 start member
  | between bound below above =>
      exact ⟨bound, fun start member => Nat.le_of_lt (below start member), above⟩

theorem Found.countP_eq {result : Except Nat Nat} (found : Found starts offset result)
    (ordered : starts.Pairwise (· < ·)) : starts.countP (· ≤ offset) = upTo result := by
  obtain ⟨bound, before, after⟩ := found.split ordered
  exact countP_eq_of_split bound before after

end LineMap

end JavaLex
