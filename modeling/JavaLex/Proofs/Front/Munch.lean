import JavaLex.Proofs.Front.Lexeme
import JavaLex.Proofs.Place.Cursor
import JavaLex.Token.Munch

/-! # Maximal munch

The search for an operator finds the longest one that the characters at a cursor begin with, although
the table is not closed under leading parts, and it leaves the cursor right after that operator. An
earlier mark plays no part in it.
-/

namespace JavaLex

namespace Operator

/-- The longest operator, of those up to a size, that the text begins with. -/
structure LongestWithin (text : List Char) (limit : Nat) (longest : Option Operator) : Prop where
  starts : ∀ found ∈ longest, found.chars <+: text ∧ found.size ≤ limit
  greatest : ∀ other : Operator, other.chars <+: text → other.size ≤ limit →
    ∃ found ∈ longest, other.size ≤ found.size

namespace LongestWithin

variable {text : List Char} {limit : Nat} {longest : Option Operator}

theorem zero (text : List Char) : LongestWithin text 0 none where
  starts := nofun
  greatest other _ within := absurd other.size_pos (Nat.not_lt.mpr within)

theorem mono (longestWithin : LongestWithin text limit longest) (ends : text.length ≤ limit)
    {more : Nat} (le : limit ≤ more) : LongestWithin text more longest where
  starts found member :=
    have ⟨begins, within⟩ := longestWithin.starts found member
    ⟨begins, Nat.le_trans within le⟩
  greatest other begins _ :=
    longestWithin.greatest other begins (Nat.le_trans begins.length_le ends)

/-- One more character is taken into account by looking up the text up to it. -/
theorem succ_of_none (longestWithin : LongestWithin text limit longest)
    (missing : ofChars? (text.take (limit + 1)) = none) :
    LongestWithin text (limit + 1) longest where
  starts found member :=
    have ⟨begins, within⟩ := longestWithin.starts found member
    ⟨begins, Nat.le_succ_of_le within⟩
  greatest other begins within := by
    refine longestWithin.greatest other begins (Nat.le_of_lt_succ (Nat.lt_of_le_of_ne within ?_))
    intro size
    have found := ofChars?_take begins
    rw [size, missing] at found
    cases found

theorem succ_of_some {found : Operator} (bound : limit < text.length)
    (spelled : ofChars? (text.take (limit + 1)) = some found) :
    found.size = limit + 1 ∧ LongestWithin text (limit + 1) (some found) := by
  have chars := ofChars?_eq_some_iff.mp spelled
  have size : found.size = limit + 1 := by
    rw [Operator.size, chars, List.length_take_of_le bound]
  refine ⟨size, ⟨fun other member => ?_, fun other _ within => ⟨found, rfl, size ▸ within⟩⟩⟩
  obtain rfl := Option.some.inj member
  exact ⟨chars ▸ List.take_prefix _ _, Nat.le_of_eq size⟩

/-- No operator is longer than the longest spelling, so the limit does not matter there. -/
theorem longest?_eq (longestWithin : LongestWithin text maxSize longest) :
    longest? text = longest := by
  apply Option.ext
  intro operator
  rw [longest?_eq_some_iff]
  constructor
  · rintro ⟨begins, maximal⟩
    obtain ⟨found, member, atLeast⟩ :=
      longestWithin.greatest operator begins operator.size_le_maxSize
    have starts := (longestWithin.starts found member).1
    have size := Nat.le_antisymm (maximal found starts) atLeast
    have same := ofChars?_take starts
    rw [size, ofChars?_take begins] at same
    rw [Option.some.inj same]
    exact member
  · intro member
    refine ⟨(longestWithin.starts operator member).1, fun other begins => ?_⟩
    obtain ⟨found, also, atLeast⟩ :=
      longestWithin.greatest other begins other.size_le_maxSize
    obtain rfl : operator = found := Option.some.inj (member.symm.trans also)
    exact atLeast

end LongestWithin

/-- The characters of an operator, none if there is no operator. -/
def extent (longest : Option Operator) : Nat :=
  longest.elim 0 size

end Operator

open Operator

namespace MarkedCursor

/-! ## The search -/

/-- A search that began at a cursor: it has read some characters and marked the end of the longest
operator among them. -/
structure Searches (here : Cursor) (read : Nat) (longest : Option Operator)
    (marked : MarkedCursor) : Prop where
  within : read ≤ here.chars.length
  cursor : marked.cursor = here.advance read
  mark : marked.mark = some (here.advance (extent longest))
  longest : LongestWithin here.chars read longest

namespace Searches

variable {here : Cursor} {read : Nat} {longest : Option Operator} {marked : MarkedCursor}

theorem start (marked : MarkedCursor) : Searches marked.cursor 0 none (marked.move .mark) where
  within := Nat.zero_le _
  cursor := rfl
  mark := rfl
  longest := .zero _

theorem reset (searches : Searches here read longest marked) :
    marked.move .reset = ⟨here.advance (extent longest), none⟩ := by
  rw [move, searches.mark, Option.getD_some]

/-- One more character is read; if an operator ends with it, that one is the longest so far. -/
theorem next (searches : Searches here read longest marked) {c : Char} {rest : List Char}
    (chars : marked.cursor.chars = c :: rest) :
    here.chars.take read ++ [c] = here.chars.take (read + 1) ∧
      (ofChars? (here.chars.take (read + 1)) = none →
        Searches here (read + 1) longest (marked.move .advance)) ∧
      ∀ found, ofChars? (here.chars.take (read + 1)) = some found →
        Searches here (read + 1) (some found) ((marked.move .advance).move .mark) := by
  rw [searches.cursor, Cursor.chars_advance] at chars
  have bound : read < here.chars.length := by
    have left := congrArg List.length chars
    simp only [List.length_drop, List.length_cons] at left
    omega
  have stepped : (marked.move .advance).cursor = here.advance (read + 1) := by
    rw [← Cursor.step_advance, ← searches.cursor]
    rfl
  refine ⟨?taken, fun missing => ?passed, fun found spelled => ?found⟩
  case taken => rw [List.take_add, chars, List.take_succ_cons, List.take_zero]
  case passed => exact ⟨bound, stepped, searches.mark, searches.longest.succ_of_none missing⟩
  case found =>
    obtain ⟨size, longest⟩ := LongestWithin.succ_of_some bound spelled
    refine ⟨bound, stepped, ?_, longest⟩
    rw [extent, Option.elim_some, size, ← stepped]
    rfl

/-- A search ends with the longest operator among all that it may read, and right after it. -/
theorem exists_munch (searches : Searches here read longest marked) (count : Nat) :
    ∃ found, LongestWithin here.chars (read + count) found ∧
      munch (here.chars.take read) longest marked count =
        (found, ⟨here.advance (extent found), none⟩) := by
  induction count generalizing read longest marked with
  | zero => exact ⟨longest, searches.longest, by rw [munch, searches.reset]⟩
  | succ count ih =>
      rw [munch]
      split
      · next ended =>
        rw [searches.cursor, Cursor.chars_advance, List.drop_eq_nil_iff] at ended
        exact ⟨longest, searches.longest.mono ended (Nat.le_add_right _ _), by rw [searches.reset]⟩
      · next c rest chars =>
        obtain ⟨taken, passed, spelled⟩ := searches.next chars
        dsimp only
        rw [taken, Nat.add_comm count, ← Nat.add_assoc]
        split
        · next operator found => exact ih (spelled operator found)
        · next missing => exact ih (passed missing)

end Searches

/-- The search finds the longest operator and leaves the cursor right after it. -/
theorem exists_scanOperator (marked : MarkedCursor) :
    ∃ longest, LongestWithin marked.cursor.chars maxSize longest ∧
      marked.scanOperator = (longest, ⟨marked.cursor.advance (extent longest), none⟩) := by
  obtain ⟨longest, found, searched⟩ := (Searches.start marked).exists_munch maxSize
  rw [Nat.zero_add] at found
  exact ⟨longest, found, searched⟩

end MarkedCursor

/-! ## Operators at a cursor -/

/-- At every cursor, an operator is found exactly if the characters begin with the spelling of one;
it is that of the longest such spelling, of whatever size. The cursor then stands right after it,
and where it was if there is none. A mark set before changes nothing. The operator is the one that a
lexeme has there. -/
theorem scanOperator_exact (marked : MarkedCursor) :
    ((∃ operator, marked.scanOperator.1 = some operator) ↔
        ∃ front, front ≠ [] ∧ front <+: marked.cursor.chars ∧
          ∃ operator : Operator, operator.chars = front) ∧
      (∀ operator, marked.scanOperator.1 = some operator →
        ∃ front, front <+: marked.cursor.chars ∧ operator.chars = front ∧
          (∀ other, other <+: marked.cursor.chars →
            (∃ operator : Operator, operator.chars = other) → other.length ≤ front.length) ∧
          marked.scanOperator.2.cursor = marked.cursor.advance front.length) ∧
      (marked.scanOperator.1 = none → marked.scanOperator.2.cursor = marked.cursor) ∧
      (∀ mark, MarkedCursor.scanOperator ⟨marked.cursor, mark⟩ = marked.scanOperator) ∧
      marked.scanOperator.1 = longest? marked.cursor.chars := by
  obtain ⟨longest, found, searched⟩ := marked.exists_scanOperator
  have longer : ∀ operator : Operator, operator.chars <+: marked.cursor.chars →
      ∃ found ∈ longest, operator.size ≤ found.size :=
    fun operator begins => found.greatest operator begins operator.size_le_maxSize
  rw [searched]
  refine ⟨⟨?spelled, ?found⟩, ?longest, ?missing, fun _ => searched, found.longest?_eq.symm⟩
  case spelled =>
    rintro ⟨operator, member⟩
    have filled : operator.chars ≠ [] := List.ne_nil_of_length_pos operator.size_pos
    exact ⟨operator.chars, filled, (found.starts operator member).1, operator, rfl⟩
  case found =>
    rintro ⟨_, -, begins, operator, rfl⟩
    obtain ⟨found, member, -⟩ := longer operator begins
    exact ⟨found, member⟩
  case longest =>
    intro operator member
    obtain rfl : longest = some operator := member
    refine ⟨operator.chars, (found.starts operator rfl).1, rfl, ?_, rfl⟩
    rintro _ begins ⟨other, rfl⟩
    obtain ⟨_, same, atMost⟩ := longer other begins
    obtain rfl := Option.some.inj same
    exact atMost
  case missing =>
    intro none
    obtain rfl : longest = .none := none
    rfl

end JavaLex
