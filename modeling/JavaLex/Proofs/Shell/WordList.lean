import JavaLex.Proofs.Shell.Completion
import Mathlib.Data.List.Destutter

/-! # Completions and hints from one list

The words are sorted by code points, which is the order of their bytes, and then repetitions are
dropped; the order in which the reserved words come does not matter. Completion and hint go through
the list separately: the hint is the first completion that adds something to the word.
-/

namespace JavaLex

/-! ## Order by bytes -/

def utf8Bytes (text : String) : List UInt8 :=
  text.toUTF8.data.toList

/-- One row of bytes stands before another one, as in a dictionary. -/
def BytesBefore (first second : List UInt8) : Prop :=
  List.Lex (fun byte other => byte.toNat < other.toNat) first second

theorem utf8Bytes_eq (text : String) :
    utf8Bytes text = text.toList.flatMap String.utf8EncodeChar := by
  rw [utf8Bytes, String.toUTF8, ← String.utf8Encode_toList, List.utf8Encode.eq_1,
    List.data_toByteArray]

private theorem bytesBefore_cons_iff {m n : Nat} (left : m < 256) (right : n < 256)
    {first second : List UInt8} :
    BytesBefore (UInt8.ofNat m :: first) (UInt8.ofNat n :: second) ↔
      m < n ∨ m = n ∧ BytesBefore first second := by
  have low : (UInt8.ofNat m).toNat = m := by rw [UInt8.toNat_ofNat', Nat.mod_eq_of_lt left]
  have high : (UInt8.ofNat n).toNat = n := by rw [UInt8.toNat_ofNat', Nat.mod_eq_of_lt right]
  unfold BytesBefore
  rw [List.cons_lex_cons_iff, ← UInt8.toNat_inj, low, high]

/-- Of two characters the lesser one has the lesser bytes, whatever follows: a longer form has the
greater first byte, and forms of one length hold the digits of the code point in base 64. -/
theorem bytesBefore_encode {c d : Char} (lt : c < d) (rest more : List UInt8) :
    BytesBefore (String.utf8EncodeChar c ++ rest) (String.utf8EncodeChar d ++ more) := by
  have order : c.val.toNat < d.val.toNat := lt
  have bound : d.val.toNat < 0x110000 := by
    rcases d.valid with low | high
    · exact Nat.lt_trans low (by decide)
    · exact high.2
  rw [String.utf8EncodeChar.eq_1, String.utf8EncodeChar.eq_1]
  generalize c.val.toNat = m at order ⊢
  generalize d.val.toNat = n at order bound ⊢
  -- the digits, taken off one at a time
  have second : ∀ value : Nat, value / 4096 = value / 64 / 64 := fun value => by omega
  have third : ∀ value : Nat, value / 262144 = value / 64 / 64 / 64 := fun value => by omega
  simp only [second, third]
  repeat' split
  all_goals simp (disch := omega) only [List.cons_append, List.nil_append, bytesBefore_cons_iff]
  all_goals omega

theorem bytesBefore_flatMap_encode {first second : List Char}
    (before : List.Lex (· < ·) first second) :
    BytesBefore (first.flatMap String.utf8EncodeChar) (second.flatMap String.utf8EncodeChar) := by
  induction before with
  | @nil c rest =>
      have positive := c.utf8Size_pos
      rw [← String.length_utf8EncodeChar] at positive
      obtain ⟨byte, bytes, encoded⟩ := List.exists_cons_of_length_pos positive
      rw [List.flatMap_cons, encoded]
      exact .nil
  | rel lesser => exact bytesBefore_encode lesser _ _
  | @cons c _ _ _ ih => exact ih.append_left _ (String.utf8EncodeChar c)

/-- Texts in the order of their code points are in that of their bytes. -/
theorem bytesBefore_of_lt {first second : String} (lt : first < second) :
    BytesBefore (utf8Bytes first) (utf8Bytes second) := by
  rw [utf8Bytes_eq, utf8Bytes_eq]
  exact bytesBefore_flatMap_encode (List.lex_lt.mpr lt)

namespace Completion

/-! ## The list of words -/

/-- Texts in code point order, once each. -/
def sortedOnce (entries : List String) : List String :=
  (entries.mergeSort fun a b => decide (a ≤ b)).eraseReps

theorem words_eq_sortedOnce (allowUnderscore : Bool) :
    words allowUnderscore =
      sortedOnce (Reserved.words allowUnderscore ++ commonNames ++ commandNames) := rfl

theorem eraseReps_eq_destutter {α : Type} [DecidableEq α] (entries : List α) :
    entries.eraseReps = entries.destutter (· ≠ ·) := by
  have loop : ∀ (last : α) (rest kept : List α),
      List.eraseRepsBy.loop (· == ·) last rest kept =
        kept.reverse ++ rest.destutter' (· ≠ ·) last := by
    intro last rest
    induction rest generalizing last with
    | nil => simp [List.eraseRepsBy.loop]
    | cons next rest ih =>
        intro kept
        by_cases same : last = next
        · simp [List.eraseRepsBy.loop, same, ih]
        · have apart : (last == next) = false := beq_false_of_ne same
          simp [List.eraseRepsBy.loop, same, apart, ih]
  cases entries with
  | nil => rfl
  | cons first rest => exact loop first rest []

theorem pairwise_le_mergeSort (entries : List String) :
    (entries.mergeSort fun a b => decide (a ≤ b)).Pairwise (· ≤ ·) := by
  have sorted : (entries.mergeSort fun a b => decide (a ≤ b)).Pairwise
      fun a b => decide (a ≤ b) = true :=
    List.pairwise_mergeSort
      (fun a b c first second => by
        simp only [decide_eq_true_eq] at first second ⊢
        exact String.le_trans first second)
      (fun a b => by simpa using String.le_total a b) entries
  exact sorted.imp of_decide_eq_true

theorem sortedOnce_eq_dedup (entries : List String) :
    sortedOnce entries = (entries.mergeSort fun a b => decide (a ≤ b)).dedup := by
  have antisymm : Std.Antisymm fun a b : String => a ≤ b := ⟨fun _ _ => String.le_antisymm⟩
  rw [sortedOnce, eraseReps_eq_destutter, (pairwise_le_mergeSort entries).destutter_eq_dedup]

theorem mem_sortedOnce {entries : List String} {entry : String} :
    entry ∈ sortedOnce entries ↔ entry ∈ entries := by
  rw [sortedOnce_eq_dedup, List.mem_dedup, List.mem_mergeSort]

theorem pairwise_sortedOnce (entries : List String) : (sortedOnce entries).Pairwise (· < ·) := by
  rw [sortedOnce_eq_dedup]
  have sorted := (pairwise_le_mergeSort entries).sublist (List.dedup_sublist _)
  have apart := List.nodup_dedup (entries.mergeSort fun a b => decide (a ≤ b))
  exact (sorted.and apart).imp fun both => Std.lt_of_le_of_ne both.1 both.2

/-- Sorting forgets the order in which the texts come. -/
theorem sortedOnce_eq_of_perm {entries others : List String} (same : entries.Perm others) :
    sortedOnce entries = sortedOnce others := by
  have sorted : (entries.mergeSort fun a b => decide (a ≤ b)) =
      others.mergeSort fun a b => decide (a ≤ b) :=
    List.Perm.eq_of_pairwise (fun _ _ _ _ => String.le_antisymm) (pairwise_le_mergeSort entries)
      (pairwise_le_mergeSort others)
      ((List.mergeSort_perm _ _).trans (same.trans (List.mergeSort_perm _ _).symm))
  rw [sortedOnce, sortedOnce, sorted]

theorem mem_words_iff {allowUnderscore : Bool} {entry : String} :
    entry ∈ words allowUnderscore ↔
      entry ∈ Reserved.words allowUnderscore ∨ entry ∈ commonNames ∨ entry ∈ commandNames := by
  rw [words_eq_sortedOnce, mem_sortedOnce, List.mem_append, List.mem_append, or_assoc]

/-! ## What is looked up -/

variable {entries : List String} {word : List Char}

theorem mem_candidates_iff {candidate : Candidate} :
    candidate ∈ candidates entries word ↔
      candidate.display ∈ entries ∧
        word ++ candidate.replacement.toList = candidate.display.toList := by
  rw [candidates, List.mem_map]
  constructor
  · rintro ⟨entry, kept, rfl⟩
    obtain ⟨listed, begins⟩ := List.mem_filter.mp kept
    obtain ⟨rest, whole⟩ := List.isPrefixOf_iff_prefix.mp begins
    refine ⟨listed, ?_⟩
    rw [String.toList_ofList, ← whole, List.drop_left]
  · rintro ⟨listed, whole⟩
    obtain ⟨entry, rest⟩ := candidate
    dsimp only at listed whole
    have begins : word.isPrefixOf entry.toList = true :=
      List.isPrefixOf_iff_prefix.mpr ⟨_, whole⟩
    refine ⟨entry, List.mem_filter.mpr ⟨listed, begins⟩, ?_⟩
    rw [← whole, List.drop_left, String.ofList_toList]

theorem pairwise_candidates (sorted : entries.Pairwise (· < ·)) (word : List Char) :
    (candidates entries word).Pairwise fun first second =>
      BytesBefore (utf8Bytes first.display) (utf8Bytes second.display) := by
  rw [candidates, List.pairwise_map]
  exact (sorted.filter _).imp bytesBefore_of_lt

/-- The search for a longer word finds the first completion that adds something. -/
theorem continuation?_eq (entries : List String) (word : List Char) :
    continuation? entries word =
      ((candidates entries word).find? (!·.replacement.isEmpty)).map Candidate.replacement := by
  have longer : ∀ entry : String,
      (word.isPrefixOf entry.toList && decide (word.length < entry.toList.length)) =
        (word.isPrefixOf entry.toList &&
          !(String.ofList (entry.toList.drop word.length)).isEmpty) := by
    intro entry
    congr 1
    rw [Bool.eq_iff_iff]
    simp
  rw [continuation?, candidates, List.find?_map, List.find?_filter, Option.map_map]
  simp only [Function.comp_def, longer, Bool.decide_and, Bool.decide_eq_true]

end Completion

open Completion

/-- At the end of a line where completion finds a word, it offers each word of the list that begins
with it, once and in the order of their bytes, with what is left of that word; behind no word it
offers nothing. For a word of two bytes or more the hint is the first completion that adds
something. The list holds the reserved words, the common names and the commands, and it is the same
in whatever order the reserved words come. -/
theorem hint_first_completion {allowUnderscore : Bool} {line : List Char}
    {found : List Candidate}
    (completed : complete? (words allowUnderscore) line (byteSize line) = some found) :
    (∀ entry, entry ∈ words allowUnderscore ↔
        entry ∈ Reserved.words allowUnderscore ∨ entry ∈ commonNames ∨ entry ∈ commandNames) ∧
      (∀ reserved, reserved.Perm (Reserved.words allowUnderscore) →
        sortedOnce (reserved ++ commonNames ++ commandNames) = words allowUnderscore) ∧
      ∃ word, word? line (byteSize line) = some word ∧
        (∀ candidate, candidate ∈ found ↔
          word ≠ [] ∧ candidate.display ∈ words allowUnderscore ∧
            word ++ candidate.replacement.toList = candidate.display.toList) ∧
        found.Pairwise (fun first second =>
          BytesBefore (utf8Bytes first.display) (utf8Bytes second.display)) ∧
        hint? (words allowUnderscore) line (byteSize line) =
          some (if 2 ≤ byteSize word then
            (found.find? (!·.replacement.isEmpty)).map (Style.dimmed.wrap ·.replacement)
          else none) := by
  obtain ⟨word, cut, rfl⟩ := Option.map_eq_some_iff.mp completed
  refine ⟨fun entry => mem_words_iff, ?order, word, cut, fun candidate => ?offered, ?sorted, ?hint⟩
  case order =>
    intro reserved same
    rw [words_eq_sortedOnce]
    exact sortedOnce_eq_of_perm ((same.append_right _).append_right _)
  case offered =>
    cases word with
    | nil => simp
    | cons c rest => simp [mem_candidates_iff]
  case sorted =>
    cases word with
    | nil => exact .nil
    | cons c rest => exact pairwise_candidates (pairwise_sortedOnce _) (c :: rest)
  case hint =>
    rw [hint?, if_neg (Nat.lt_irrefl _), cut, Option.map_some]
    by_cases short : byteSize word < 2
    · rw [if_pos short, if_neg (Nat.not_le_of_lt short)]
    · have filled : word.isEmpty = false := by
        cases word with
        | nil => exact absurd (by decide) short
        | cons => rfl
      rw [if_neg short, if_pos (Nat.le_of_not_lt short), filled, continuation?_eq, Option.map_map]
      rfl

/-- A word that is an entry itself and begins another one, which has dots. -/
theorem hint_first_completion_system :
    complete? (words false) "x System".toList (byteSize "x System".toList) =
        some (candidates (words false) "System".toList) ∧
      ⟨"System", ""⟩ ∈ candidates (words false) "System".toList ∧
      ⟨"System.out.println", ".out.println"⟩ ∈ candidates (words false) "System".toList ∧
      hint? (words false) "x System".toList (byteSize "x System".toList) =
        some (((candidates (words false) "System".toList).find? (!·.replacement.isEmpty)).map
          (Style.dimmed.wrap ·.replacement)) := by
  have cut : word? "x System".toList (byteSize "x System".toList) = some "System".toList := by
    decide +kernel
  have completed : complete? (words false) "x System".toList (byteSize "x System".toList) =
      some (candidates (words false) "System".toList) := by
    rw [complete?, cut]
    rfl
  obtain ⟨listed, -, word, same, offered, -, hint⟩ := hint_first_completion completed
  obtain rfl := Option.some.inj (cut.symm.trans same)
  refine ⟨completed, (offered _).mpr ⟨by decide, (listed _).mpr (.inr (.inl ?_)), rfl⟩,
    (offered _).mpr ⟨by decide, (listed _).mpr (.inr (.inl ?_)), rfl⟩, hint⟩
  · decide
  · decide

end JavaLex
