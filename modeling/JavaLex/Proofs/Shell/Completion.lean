import JavaLex.Shell.Completion

/-! # The word before the caret

The word to complete is the longest one that the text before the caret ends with. Its start is taken
to be one byte after the separator before it begins, so it can be cut out exactly if that separator
is of one byte, or if there is none; behind any other there is no completion and no hint.
-/

namespace JavaLex

/-! ## Cuts behind a part of a text -/

theorem takeBytes_add_append (first second : List Char) (bytes : Nat) :
    takeBytes (byteSize first + bytes) (first ++ second) = first ++ takeBytes bytes second := by
  induction first with
  | nil => rw [byteSize_nil, Nat.zero_add, List.nil_append, List.nil_append]
  | cons c rest ih =>
      have positive := c.utf8Size_pos
      obtain ⟨size, total⟩ : ∃ size, byteSize (c :: rest) + bytes = size + 1 :=
        ⟨c.utf8Size + byteSize rest + bytes - 1, by rw [byteSize_cons]; omega⟩
      have left : size + 1 - c.utf8Size = byteSize rest + bytes := by
        rw [← total, byteSize_cons]
        omega
      rw [total, List.cons_append, takeBytes, left, ih, List.cons_append]

theorem isBoundary_add_append (first second : List Char) (bytes : Nat) :
    isBoundary (first ++ second) (byteSize first + bytes) = isBoundary second bytes := by
  rw [isBoundary, isBoundary, takeBytes_add_append, byteSize_append]
  exact Bool.eq_iff_iff.mpr (by simp)

/-- One byte into a text is between characters if the first one is of one byte. -/
theorem isBoundary_cons_one (c : Char) (rest : List Char) :
    isBoundary (c :: rest) 1 = (c.utf8Size == 1) := by
  have first : 1 - c.utf8Size = 0 := Nat.sub_eq_zero_of_le c.utf8Size_pos
  rw [isBoundary, takeBytes, Nat.zero_add, first, takeBytes, byteSize_cons, byteSize_nil]
  rfl

theorem exists_append_of_isBoundary {text : List Char} {offset : Nat}
    (boundary : isBoundary text offset = true) :
    text = takeBytes offset text ++ dropBytes offset text ∧
      offset = byteSize (takeBytes offset text) :=
  ⟨(takeBytes_append_dropBytes offset text).symm, (eq_of_beq boundary).symm⟩

theorem slice?_eq_none {text : List Char} {start : Nat} (inside : isBoundary text start = false)
    (stop : Nat) : slice? start stop text = none := by
  rw [slice?, inside, Bool.and_false, Bool.false_and, if_neg (by decide)]

namespace Completion

/-! ## The word at the end of a text -/

/-- The text is what is kept and then a word, which no character before it belongs to. -/
structure EndsWithWord (before kept word : List Char) : Prop where
  whole : before = kept ++ word
  parts : ∀ c ∈ word, isWordPart c = true
  separator : ∀ c, kept.getLast? = some c → isWordPart c = false

/-- The character before the word takes one byte, or there is none. -/
def separatedByByte (kept : List Char) : Bool :=
  kept.getLast?.all (·.utf8Size == 1)

theorem exists_endsWithWord (before : List Char) :
    ∃ kept word, EndsWithWord before kept word := by
  refine ⟨(before.reverse.dropWhile isWordPart).reverse,
    (before.reverse.takeWhile isWordPart).reverse, ?whole, fun c member => ?parts,
    fun c last => ?separator⟩
  case whole =>
    rw [← List.reverse_append, List.takeWhile_append_dropWhile, List.reverse_reverse]
  case parts => exact List.all_eq_true.mp List.all_takeWhile c (List.mem_reverse.mp member)
  case separator =>
    have stops := List.head?_dropWhile_not isWordPart before.reverse
    rw [List.getLast?_reverse] at last
    rw [last] at stops
    simpa using stops

namespace EndsWithWord

variable {before kept word : List Char}

theorem longest (ends : EndsWithWord before kept word) {other : List Char}
    (suffix : other <:+ before) (parts : ∀ c ∈ other, isWordPart c = true) : other <:+ word := by
  have whole := ends.whole
  rcases List.suffix_or_suffix_of_suffix suffix ⟨kept, whole.symm⟩ with within | ⟨more, rfl⟩
  · exact within
  · obtain ⟨front, same⟩ := suffix
    rw [whole, ← List.append_assoc] at same
    have split : front ++ more = kept := List.append_cancel_right same
    cases last : more.getLast? with
    | none =>
        obtain rfl := List.getLast?_eq_none_iff.mp last
        exact List.suffix_refl _
    | some c =>
        -- the character before the word would belong to it
        have separator := ends.separator c (by rw [← split, List.getLast?_append, last]; rfl)
        rw [parts c (List.mem_append_left _ (List.mem_of_getLast? last))] at separator
        cases separator

theorem kept_eq (ends : EndsWithWord before kept word) :
    (before.reverse.dropWhile isWordPart).reverse = kept := by
  have parts : ∀ c ∈ word.reverse, isWordPart c = true := fun c member =>
    ends.parts c (List.mem_reverse.mp member)
  rw [ends.whole, List.reverse_append, List.dropWhile_append_of_pos parts]
  cases last : kept.reverse with
  | nil => rw [List.dropWhile_nil, ← last, List.reverse_reverse]
  | cons c front =>
      have separator := ends.separator c (by rw [List.getLast?_eq_head?_reverse, last]; rfl)
      rw [List.dropWhile_cons_of_neg (by simp [separator]), ← last, List.reverse_reverse]

/-- The word is cut out if one byte leads past the separator, and nothing is otherwise. -/
theorem slice?_wordStart (ends : EndsWithWord before kept word) (after : List Char) :
    slice? (wordStart before) (byteSize before) (before ++ after) =
      if separatedByByte kept then some word else none := by
  rw [wordStart, ends.kept_eq, ends.whole]
  cases last : kept.getLast? with
  | none =>
      obtain rfl := List.getLast?_eq_none_iff.mp last
      exact slice?_append [] word after
  | some separator =>
      obtain ⟨front, rfl⟩ := List.getLast?_eq_some_iff.mp last
      have start : byteSize (front ++ [separator]) - separator.utf8Size = byteSize front := by
        simp
      dsimp only
      rw [separatedByByte, last, Option.all_some, start]
      split
      · next single =>
        have past : byteSize front + 1 = byteSize (front ++ [separator]) := by
          simp [eq_of_beq single]
        rw [past, slice?_append]
      · next wide =>
        refine slice?_eq_none ?_ _
        rw [List.append_assoc, List.append_assoc, isBoundary_add_append]
        exact (isBoundary_cons_one separator _).trans (Bool.eq_false_iff.mpr wide)

end EndsWithWord

/-! ## Completion and hints -/

variable {line kept word : List Char} {caret : Nat}

theorem wordStart?_eq (boundary : isBoundary line caret = true) :
    wordStart? line caret = some (wordStart (takeBytes caret line)) := by
  obtain ⟨whole, size⟩ := exists_append_of_isBoundary boundary
  have front := slice?_append [] (takeBytes caret line) (dropBytes caret line)
  rw [List.nil_append, ← whole, ← size] at front
  rw [wordStart?, ← byteSize_nil, front, Option.map_some]

theorem word?_eq (boundary : isBoundary line caret = true)
    (ends : EndsWithWord (takeBytes caret line) kept word) :
    word? line caret = if separatedByByte kept then some word else none := by
  obtain ⟨whole, size⟩ := exists_append_of_isBoundary boundary
  have cut := ends.slice?_wordStart (dropBytes caret line)
  rw [← whole, ← size] at cut
  rw [word?, wordStart?_eq boundary]
  exact cut

/-! ## What completes a word -/

theorem slice?_of_isPrefixOf {entry : String} (begins : word.isPrefixOf entry.toList = true) :
    slice? (byteSize word) (byteSize entry.toList) entry.toList =
      some (entry.toList.drop word.length) := by
  obtain ⟨more, whole⟩ := List.isPrefixOf_iff_prefix.mp begins
  have cut := slice?_append word more []
  rw [List.append_nil, whole] at cut
  rw [cut, ← whole, List.drop_left]

/-- What is left of a candidate behind the word is cut out between characters. -/
theorem slice?_of_mem_candidates {words : List String} {candidate : Candidate}
    (member : candidate ∈ candidates words word) :
    slice? (byteSize word) (byteSize candidate.display.toList) candidate.display.toList =
      some candidate.replacement.toList := by
  obtain ⟨entry, kept, rfl⟩ := List.mem_map.mp member
  rw [slice?_of_isPrefixOf (List.mem_filter.mp kept).2, String.toList_ofList]

theorem exists_of_continuation? {words : List String} {rest : String}
    (found : continuation? words word = some rest) :
    ∃ entry ∈ words, slice? (byteSize word) (byteSize entry.toList) entry.toList =
      some rest.toList := by
  obtain ⟨entry, listed, rfl⟩ := Option.map_eq_some_iff.mp found
  have kept := List.find?_some listed
  have begins := (Bool.and_eq_true_iff.mp kept).1
  exact ⟨entry, List.mem_of_find?_eq_some listed,
    by rw [slice?_of_isPrefixOf begins, String.toList_ofList]⟩

end Completion

open Completion

/-- Between any two characters of a line, the start of the word before the caret is found. The word
is the longest end of the text before the caret that is made of characters of words. It is cut out,
and there are completions and a hint, exactly if the character before it is of one byte or missing;
before the end of the line no hint is looked up. Completions and hints are cut off between
characters. -/
theorem completion_safe_iff {line : List Char} {caret : Nat}
    (boundary : isBoundary line caret = true) (words : List String) :
    ∃ kept word start, takeBytes caret line = kept ++ word ∧
      (∀ c ∈ word, isWordPart c = true) ∧
      (∀ other, other <:+ takeBytes caret line → (∀ c ∈ other, isWordPart c = true) →
        other <:+ word) ∧
      wordStart? line caret = some start ∧
      slice? start caret line = (if separatedByByte kept then some word else none) ∧
      ((complete? words line caret).isSome = true ↔ separatedByByte kept = true) ∧
      ((hint? words line caret).isSome = true ↔
        caret < byteSize line ∨ separatedByByte kept = true) ∧
      (∀ candidate ∈ candidates words word,
        slice? (byteSize word) (byteSize candidate.display.toList) candidate.display.toList =
          some candidate.replacement.toList) ∧
      ∀ rest, continuation? words word = some rest →
        ∃ entry ∈ words, slice? (byteSize word) (byteSize entry.toList) entry.toList =
          some rest.toList := by
  obtain ⟨kept, word, ends⟩ := exists_endsWithWord (takeBytes caret line)
  have found := word?_eq boundary ends
  have start := wordStart?_eq boundary
  refine ⟨kept, word, _, ends.whole, ends.parts, fun _ => ends.longest, start, ?cut, ?complete,
    ?hint, fun _ => slice?_of_mem_candidates, fun _ => exists_of_continuation?⟩
  case cut =>
    rw [← found, word?, start]
    rfl
  case complete =>
    rw [complete?, found, Option.isSome_map]
    split <;> simp_all
  case hint =>
    rw [hint?, found]
    split
    · next earlier => simp [earlier]
    · next last =>
      rw [Option.isSome_map]
      split <;> simp_all

/-- A word behind a blank, with an arrow of three bytes further left. -/
theorem completion_safe_iff_blank :
    isBoundary "→ cla".toList 7 = true ∧
      ∃ kept word, takeBytes 7 "→ cla".toList = kept ++ word ∧
        (∀ c ∈ word, isWordPart c = true) ∧
        ((complete? (words false) "→ cla".toList 7).isSome = true ↔
          separatedByByte kept = true) := by
  have boundary : isBoundary "→ cla".toList 7 = true := by decide
  obtain ⟨kept, word, -, whole, parts, -, -, -, complete, -⟩ :=
    completion_safe_iff boundary (words false)
  exact ⟨boundary, kept, word, whole, parts, complete⟩

/-- Right behind an arrow the letters of a keyword are a word, but they are not completed. -/
theorem completion_lost_behind_arrow :
    isBoundary "→cla".toList 6 = true ∧ EndsWithWord "→cla".toList ['→'] "cla".toList ∧
      wordStart? "→cla".toList 6 = some 1 ∧ complete? (words false) "→cla".toList 6 = none ∧
      hint? (words false) "→cla".toList 6 = none := by
  have ends : EndsWithWord "→cla".toList ['→'] "cla".toList := by
    refine ⟨rfl, List.all_eq_true.mp (by decide), fun c last => ?_⟩
    obtain rfl := Option.some.inj last
    decide +kernel
  refine ⟨by decide, ends, by decide +kernel, by decide +kernel, by decide +kernel⟩

end JavaLex
