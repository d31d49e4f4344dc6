import JavaLex.Literal.Numeral

/-! # Readers look one character ahead

What a reader finds depends on the characters it takes and on the one after them, and a blank or
the end of the text will do in place of that one. A line feed is no different from the end of the
text, also to a reader that finds nothing. `Reader.Regular` is closed under the ways in which
readers are put together, so every numeral is read the same wherever a blank follows it.
-/

namespace JavaLex

/-! ## The end of a line -/

/-- Finds the same in a line as in a text that ends with the line. -/
def StopsAtLine {α : Type} (find : List Char → α) : Prop :=
  ∀ text more, find (text ++ '\n' :: more) = find text

namespace StopsAtLine

theorem takeWhile {p : Char → Bool} (ends : p '\n' = false) : StopsAtLine (List.takeWhile p) := by
  intro text more
  induction text with
  | nil => simp [ends]
  | cons c text ih => simp only [List.cons_append, List.takeWhile_cons, ih]

theorem take_takeWhile {p : Char → Bool} (ends : p '\n' = false) (count : Nat)
    (text more : List Char) :
    ((text ++ '\n' :: more).take count).takeWhile p = (text.take count).takeWhile p := by
  rw [List.take_append]
  cases past : count - text.length with
  | zero => simp
  | succ left => rw [List.take_succ_cons, takeWhile ends]

theorem head? {α : Type} {p : Option Char → α} (ends : p (some '\n') = p none)
    (text more : List Char) : p (text ++ '\n' :: more).head? = p text.head? := by
  cases text with
  | nil => exact ends
  | cons c text => rfl

end StopsAtLine

/-! ## Texts with the same front -/

/-- Texts that agree on their first characters and on the next one, unless the second text has
a blank there or ends. -/
structure SameFront (size : Nat) (text other : List Char) : Prop where
  take : other.take size = text.take size
  next : other[size]? = text[size]? ∨ other[size]? = none ∨ other[size]? = some ' '

namespace SameFront

variable {first second size : Nat} {text other : List Char} {c : Char}

theorem shorter (same : SameFront (first + second) text other) : SameFront first text other where
  take := by
    have cut := congrArg (List.take first) same.take
    rwa [List.take_take, List.take_take, Nat.min_eq_left (Nat.le_add_right _ _)] at cut
  next := by
    cases second with
    | zero => exact same.next
    | succ second =>
        have found := congrArg (·[first]?) same.take
        rw [List.getElem?_take_of_lt (by omega), List.getElem?_take_of_lt (by omega)] at found
        exact .inl found

theorem drop (same : SameFront (first + second) text other) :
    SameFront second (text.drop first) (other.drop first) where
  take := by
    have cut := congrArg (List.drop first) same.take
    rwa [List.drop_take, List.drop_take, Nat.add_sub_cancel_left] at cut
  next := by
    rw [List.getElem?_drop, List.getElem?_drop]
    exact same.next

theorem zero (same : SameFront 0 text other) :
    other.head? = text.head? ∨ other.head? = none ∨ other.head? = some ' ' := by
  rw [List.head?_eq_getElem?, List.head?_eq_getElem?]
  exact same.next

theorem head (same : SameFront size text other) :
    other.head? = text.head? ∨ other.head? = none ∨ other.head? = some ' ' := by
  rw [← Nat.zero_add size] at same
  exact same.shorter.zero

theorem tail (same : SameFront (size + 1) (c :: text) other) :
    ∃ rest, other = c :: rest ∧ SameFront size text rest := by
  cases other with
  | nil => simpa using same.take
  | cons d rest =>
      obtain ⟨rfl, -⟩ : d = c ∧ rest.take size = text.take size := by simpa using same.take
      rw [Nat.add_comm] at same
      exact ⟨rest, rfl, same.drop⟩

/-- Texts with the same front still have it when both are cut off. -/
theorem limit (same : SameFront size text other) (count : Nat) :
    SameFront size (text.take count) (other.take count) where
  take := by
    rw [List.take_take, List.take_take, Nat.min_comm, ← List.take_take, ← List.take_take, same.take]
  next := by
    rw [List.getElem?_take, List.getElem?_take]
    split
    · exact same.next
    · exact .inl rfl

/-- A condition that the next character fails, as a blank does, is failed in the other text. -/
theorem refuses {p : Char → Bool} (blank : p ' ' = false) (same : SameFront 0 text other)
    (refused : ∀ c, text.head? = some c → p c = false) :
    ∀ d, other.head? = some d → p d = false := by
  intro d found
  rcases same.zero with next | next | next
  · exact refused d (next.symm.trans found)
  · cases next.symm.trans found
  · obtain rfl : ' ' = d := Option.some.inj (next.symm.trans found)
    exact blank

/-- A choice by the next character is made alike, if neither a blank nor the end of the text
makes it, or if the character is taken. -/
theorem choice {p : Option Char → Bool} (ended : p none = false) (blank : p (some ' ') = false)
    (same : SameFront size text other) (takes : p text.head? = true → 0 < size) :
    p other.head? = p text.head? := by
  cases taken : p text.head? with
  | true =>
      obtain ⟨more, rfl⟩ := Nat.exists_eq_add_one_of_ne_zero (Nat.ne_of_gt (takes taken))
      cases text with
      | nil => exact absurd (taken.symm.trans ended) (by decide)
      | cons c text =>
          obtain ⟨rest, rfl, -⟩ := same.tail
          exact taken
  | false =>
      rcases same.head with next | next | next
      · rw [next, taken]
      · rw [next, ended]
      · rw [next, blank]

/-- A run of characters that a blank does not continue ends where it ended. -/
theorem takeWhile {p : Char → Bool} (blank : p ' ' = false)
    (same : SameFront (text.takeWhile p).length text other) :
    other.takeWhile p = text.takeWhile p := by
  have stops : ∀ {text : List Char}, (∀ c, text.head? = some c → p c = false) →
      text.takeWhile p = [] := by
    intro text refused
    cases text with
    | nil => rfl
    | cons c text => simp [refused c rfl]
  induction text generalizing other with
  | nil => exact stops (same.refuses blank fun c found => by cases found)
  | cons c text ih =>
      cases more : p c with
      | true =>
          rw [List.takeWhile_cons_of_pos more] at same ⊢
          obtain ⟨rest, rfl, after⟩ := same.tail
          rw [List.takeWhile_cons_of_pos more, ih after]
      | false =>
          have refused : ∀ d, (c :: text).head? = some d → p d = false := by
            rintro d found
            obtain rfl := Option.some.inj found
            exact more
          rw [stops refused] at same ⊢
          exact stops (same.refuses blank refused)

end SameFront

namespace Reader

/-! ## Parts in a row -/

theorem bind_of_none {reader : Reader α} {next : α → Reader β} {text : List Char} {size : Nat}
    (h : reader text = ⟨none, size⟩) : (reader >>= next) text = ⟨none, size⟩ := by
  change Reader.bind reader next text = _
  simp [Reader.bind, h]

theorem le_size_bind {reader : Reader α} {next : α → Reader β} {text : List Char} {a : α}
    {first second : Nat} (h : reader text = ⟨some a, first⟩)
    (le : second ≤ (next a (text.drop first)).size) :
    first + second ≤ ((reader >>= next) text).size := by
  rw [bind_of_some h]
  exact Nat.add_le_add_left le first

theorem value_bind_eq_some {reader : Reader α} {next : α → Reader β} {text : List Char} {b : β}
    (found : ((reader >>= next) text).value = some b) :
    ∃ a, reader text = ⟨some a, (reader text).size⟩ ∧
      (next a (text.drop (reader text).size)).value = some b ∧
        ((reader >>= next) text).size =
          (reader text).size + (next a (text.drop (reader text).size)).size := by
  rcases first : reader text with ⟨_ | a, size⟩
  · rw [bind_of_none first] at found
    cases found
  · rw [bind_of_some first] at found ⊢
    exact ⟨a, rfl, found, rfl⟩

def Advances (reader : Reader α) : Prop :=
  ∀ text a, (reader text).value = some a → 0 < (reader text).size

namespace Advances

theorem bind {reader : Reader α} (advances : Advances reader) (next : α → Reader β) :
    Advances (reader >>= next) := by
  intro text b found
  obtain ⟨a, first, -, size⟩ := value_bind_eq_some found
  have taken := advances text a (congrArg Reading.value first)
  omega

theorem of_next {reader : Reader α} {next : α → Reader β} (advances : ∀ a, Advances (next a)) :
    Advances (reader >>= next) := by
  intro text b found
  obtain ⟨a, -, second, size⟩ := value_bind_eq_some found
  have taken := advances a _ b second
  omega

theorem of_optional {choice : Bool} {reader : Reader α} {default : α} {next : α → Reader β}
    (advances : ∀ a, Advances (next a)) :
    Advances (if choice = true then reader >>= next else Pure.pure default >>= next) := by
  cases choice with
  | true => exact of_next advances
  | false => exact of_next advances

end Advances

/-! ## Regular readers -/

/-- A reader that stays within the text, takes no backslash, does not look past a line, and finds
the same in texts with the same front. -/
structure Regular (reader : Reader α) : Prop where
  size_le (text : List Char) : (reader text).size ≤ text.length
  backslash (text : List Char) : '\\' ∉ text.take (reader text).size
  stopsAtLine : StopsAtLine reader
  same {text other : List Char} {a : α} : (reader text).value = some a →
    SameFront (reader text).size text other → reader other = reader text

namespace Regular

theorem pure (a : α) : Regular (Pure.pure a : Reader α) where
  size_le _ := Nat.zero_le _
  backslash _ := List.not_mem_nil
  stopsAtLine _ _ := rfl
  same _ _ := rfl

theorem require (condition : Bool) : Regular (Reader.require condition) := by
  cases condition with
  | true => exact pure ()
  | false =>
      exact {
        size_le := fun _ => Nat.zero_le _
        backslash := fun _ => List.not_mem_nil
        stopsAtLine := fun _ _ => rfl
        same := fun found => by cases found }

theorem takeIf {condition : Char → Bool} (blank : condition ' ' = false)
    (backslash : condition '\\' = false) (lineFeed : condition '\n' = false) :
    Regular (Reader.takeIf condition) where
  size_le text := by
    unfold Reader.takeIf
    split
    · split <;> simp
    · simp
  backslash text := by
    unfold Reader.takeIf
    split
    · next c rest =>
      split
      · next taken =>
        have other : '\\' ≠ c := by
          rintro rfl
          exact absurd (taken.symm.trans backslash) (by decide)
        simpa using other
      · exact List.not_mem_nil
    · exact List.not_mem_nil
  stopsAtLine text more := by
    cases text with
    | nil => simp [Reader.takeIf, lineFeed]
    | cons c text => rfl
  same {text other _} _ same := by
    have stays : ∀ {text : List Char}, (∀ c, text.head? = some c → condition c = false) →
        Reader.takeIf condition text = ⟨some none, 0⟩ := by
      intro text refused
      cases text with
      | nil => rfl
      | cons c text => simp [Reader.takeIf, refused c rfl]
    by_cases taken : ∃ c, text.head? = some c ∧ condition c = true
    · obtain ⟨c, starts, taken⟩ := taken
      obtain ⟨text, rfl⟩ := List.head?_eq_some_iff.mp starts
      have reads : ∀ rest, Reader.takeIf condition (c :: rest) = ⟨some (some c), 1⟩ := by
        intro rest
        simp [Reader.takeIf, taken]
      rw [reads] at same ⊢
      obtain ⟨rest, rfl, -⟩ := same.tail
      exact reads rest
    · have refused : ∀ c, text.head? = some c → condition c = false := by
        intro c starts
        exact Bool.eq_false_iff.mpr fun accepted => taken ⟨c, starts, accepted⟩
      rw [stays refused] at same ⊢
      exact stays (same.refuses blank refused)

/-- Regular readers in a row are regular: what the first one sees after its part is the front of
what the second one takes, or the second one takes nothing. -/
theorem bind {reader : Reader α} {next : α → Reader β} (regular : Regular reader)
    (regulars : ∀ a, Regular (next a)) : Regular (reader >>= next) where
  size_le text := by
    have within := regular.size_le text
    rcases first : reader text with ⟨_ | a, size⟩
    · rw [bind_of_none first]
      rwa [first] at within
    · have left := (regulars a).size_le (text.drop size)
      rw [first] at within
      rw [List.length_drop] at left
      rw [bind_of_some first]
      dsimp only at within ⊢
      omega
  backslash text := by
    have front := regular.backslash text
    rcases first : reader text with ⟨_ | a, size⟩
    · rw [bind_of_none first]
      rwa [first] at front
    · have back := (regulars a).backslash (text.drop size)
      rw [first] at front
      rw [bind_of_some first, List.take_add, List.mem_append]
      exact fun member => member.elim front back
  stopsAtLine text more := by
    have within := regular.size_le text
    have begun := regular.stopsAtLine text more
    rcases first : reader text with ⟨_ | a, size⟩
    · rw [bind_of_none first, bind_of_none (begun.trans first)]
    · rw [first] at within
      rw [bind_of_some first, bind_of_some (begun.trans first),
        List.drop_append_of_le_length within, (regulars a).stopsAtLine]
  same {text other b} found same := by
    obtain ⟨a, first, second, size⟩ := value_bind_eq_some found
    rw [size] at same
    -- the first reader sees a shorter front, the second one what is left of it
    have begun := regular.same (congrArg Reading.value first) same.shorter
    have ended := (regulars a).same second same.drop
    rw [bind_of_some first, bind_of_some (begun.trans first), ended]

/-- A part that a text may lack, with a value that stands for it. -/
theorem optional {choice : Bool} {reader : Reader α} {default : α} {next : α → Reader β}
    (regular : Regular reader) (regulars : ∀ a, Regular (next a)) :
    Regular (if choice = true then reader >>= next else Pure.pure default >>= next) := by
  cases choice with
  | true => exact bind regular regulars
  | false => exact bind (pure default) regulars

/-- A reader that looks ahead before it goes on. The branch that a blank cannot choose has to
take the character it was chosen for. -/
theorem peek {condition : Option Char → Bool} {reader other : Reader α}
    (ended : condition none = false) (blank : condition (some ' ') = false)
    (lineFeed : condition (some '\n') = false) (chosen : Regular reader)
    (otherwise : Regular other) (takes : Advances reader) :
    Regular (next? >>= fun next => if condition next then reader else other) := by
  have looks : ∀ text, (next? >>= fun next => if condition next then reader else other) text =
      (if condition text.head? then reader else other) text := by
    intro text
    rw [bind_of_some (by rfl : next? text = ⟨some text.head?, 0⟩)]
    simp
  have regular : ∀ choice : Bool, Regular (if choice then reader else other) := by
    intro choice
    cases choice with
    | true => exact chosen
    | false => exact otherwise
  refine ⟨fun text => ?_, fun text => ?_, fun text more => ?_,
    fun {text instead a} found same => ?_⟩
  · rw [looks]
    exact (regular _).size_le text
  · rw [looks]
    exact (regular _).backslash text
  · have choice : condition (text ++ '\n' :: more).head? = condition text.head? :=
      StopsAtLine.head? (lineFeed.trans ended.symm) text more
    rw [looks, looks, choice]
    exact (regular _).stopsAtLine text more
  · rw [looks] at found same ⊢
    have choice : condition instead.head? = condition text.head? := by
      apply same.choice ended blank
      intro taken
      rw [taken] at found ⊢
      exact takes text a found
    rw [looks, choice]
    exact (regular _).same found same

end Regular

end Reader

end JavaLex
