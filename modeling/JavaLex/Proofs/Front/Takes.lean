import JavaLex.Proofs.Front.Reader
import JavaLex.Proofs.Literal.Grammar

/-! # What a reader takes

A reader takes a front of the text and leaves the rest. For each way of putting readers together a
lemma says what the whole takes in terms of its parts, in both directions: a numeral is read by
reading its parts with what follows them in place, and what is read as a numeral divides into the
parts that were read.
-/

namespace JavaLex

def Stops (p : Char → Bool) (text : List Char) : Prop :=
  text.head?.any p = false

namespace Stops

variable {p q : Char → Bool} {c : Char} {text rest : List Char}

@[simp] theorem nil : Stops p [] := rfl

@[simp] theorem cons_iff : Stops p (c :: rest) ↔ p c = false := by
  rw [Stops, List.head?_cons, Option.any_some]

theorem mono (stops : Stops p text) (weaker : ∀ c, q c = true → p c = true) : Stops q text := by
  cases text with
  | nil => rfl
  | cons c rest =>
      rw [cons_iff] at stops ⊢
      cases found : q c with
      | true => exact (weaker c found).symm.trans stops
      | false => rfl

theorem takeWhile_eq_nil (stops : Stops p text) : text.takeWhile p = [] := by
  cases text with
  | nil => rfl
  | cons c rest => simp [cons_iff.mp stops]

theorem dropWhile (p : Char → Bool) (text : List Char) : Stops p (text.dropWhile p) := by
  induction text with
  | nil => rfl
  | cons c rest ih =>
      cases found : p c with
      | true => simpa [found] using ih
      | false => simp [found]

end Stops

namespace Reader

variable {α β : Type} {text rest later : List Char}

def Takes (reader : Reader α) (text : List Char) (a : α) (rest : List Char) : Prop :=
  ∃ front, text = front ++ rest ∧ reader text = ⟨some a, front.length⟩

namespace Takes

theorem pure (a : α) (text : List Char) : Takes (Pure.pure a) text a text :=
  ⟨[], rfl, rfl⟩

theorem bind {reader : Reader α} {next : α → Reader β} {a : α} {b : β}
    (takes : Takes reader text a rest) (goesOn : Takes (next a) rest b later) :
    Takes (reader >>= next) text b later := by
  obtain ⟨front, rfl, found⟩ := takes
  obtain ⟨middle, rfl, found'⟩ := goesOn
  refine ⟨front ++ middle, by rw [List.append_assoc], ?_⟩
  rw [bind_of_some found, List.drop_left, found', List.length_append]

theorem require {condition : Bool} (holds : condition = true) (text : List Char) :
    Takes (Reader.require condition) text () text := by
  subst holds
  exact ⟨[], rfl, rfl⟩

theorem next (text : List Char) : Takes next? text text.head? text :=
  ⟨[], rfl, rfl⟩

theorem takeIf {condition : Char → Bool} {c : Char} (holds : condition c = true)
    (rest : List Char) : Takes (Reader.takeIf condition) (c :: rest) (some c) rest :=
  ⟨[c], rfl, by simp [Reader.takeIf, holds]⟩

theorem takeIf_refuses {condition : Char → Bool} (refuses : Stops condition text) :
    Takes (Reader.takeIf condition) text none text := by
  refine ⟨[], rfl, ?_⟩
  cases text with
  | nil => rfl
  | cons c rest =>
      simp [Reader.takeIf, Stops.cons_iff.mp refuses]

theorem of_pos {condition : Bool} {reader other : Reader α} {a : α} (holds : condition = true)
    (takes : Takes reader text a rest) :
    Takes (if condition = true then reader else other) text a rest := by
  rw [if_pos holds]
  exact takes

theorem of_regular {reader : Reader α} (regular : Regular reader) {a : α}
    (found : (reader text).value = some a) :
    Takes reader text a (text.drop (reader text).size) := by
  refine ⟨text.take (reader text).size, (List.take_append_drop _ _).symm, ?_⟩
  rw [List.length_take_of_le (regular.size_le text), ← found]

/-! ## Parts of what is taken -/

theorem bind_iff {reader : Reader α} {next : α → Reader β} {b : β} :
    Takes (reader >>= next) text b later ↔
      ∃ a rest, Takes reader text a rest ∧ Takes (next a) rest b later := by
  constructor
  · intro takes
    obtain ⟨front, rfl, found⟩ := takes
    cases first : reader (front ++ later) with
    | mk value size =>
      cases value with
      | none =>
          rw [bind_of_none first] at found
          cases found
      | some a =>
          rw [bind_of_some first] at found
          have total := congrArg Reading.size found
          have value := congrArg Reading.value found
          dsimp only at total value
          have within : size ≤ front.length := by omega
          rw [List.drop_append_of_le_length within] at total value
          refine ⟨a, front.drop size ++ later, ⟨front.take size, ?_, ?_⟩, front.drop size, rfl, ?_⟩
          · rw [← List.append_assoc, List.take_append_drop]
          · rw [first, List.length_take_of_le within]
          · cases second : next a (front.drop size ++ later) with
            | mk left taken =>
              rw [second] at value total
              dsimp only at value total
              rw [value, List.length_drop, show taken = front.length - size by omega]
  · intro parts
    obtain ⟨a, rest, takes, goesOn⟩ := parts
    exact takes.bind goesOn

theorem unique {reader : Reader α} {a b : α} (takes : Takes reader text a rest)
    (takes' : Takes reader text b later) : a = b ∧ rest = later := by
  obtain ⟨front, rfl, found⟩ := takes
  obtain ⟨front', whole, found'⟩ := takes'
  have same := found.symm.trans found'
  obtain ⟨-, rest⟩ := List.append_inj whole (congrArg Reading.size same)
  exact ⟨Option.some.inj (congrArg Reading.value same), rest⟩

/-- After what the first reader takes, only the second one is left. -/
theorem bind_iff_of_takes {reader : Reader α} {next : α → Reader β} {a : α} {b : β}
    (takes : Takes reader text a rest) :
    Takes (reader >>= next) text b later ↔ Takes (next a) rest b later := by
  constructor
  · intro whole
    obtain ⟨_, _, first, goesOn⟩ := bind_iff.mp whole
    obtain ⟨rfl, rfl⟩ := takes.unique first
    exact goesOn
  · exact takes.bind

theorem pure_iff {a b : α} : Takes (Pure.pure a) text b rest ↔ b = a ∧ rest = text := by
  constructor
  · intro takes
    obtain ⟨front, rfl, found⟩ := takes
    have value := congrArg Reading.value found
    have size := congrArg Reading.size found
    obtain rfl := List.eq_nil_of_length_eq_zero size.symm
    exact ⟨(Option.some.inj value).symm, rfl⟩
  · intro same
    rw [same.1, same.2]
    exact .pure a text

theorem require_iff {condition : Bool} {u : Unit} :
    Takes (Reader.require condition) text u rest ↔ condition = true ∧ rest = text := by
  cases condition with
  | true => exact pure_iff.trans (by simp)
  | false =>
      refine iff_of_false ?_ (by simp)
      intro takes
      obtain ⟨front, -, found⟩ := takes
      cases found

theorem next_iff {c : Option Char} :
    Takes next? text c rest ↔ c = text.head? ∧ rest = text := by
  constructor
  · intro takes
    obtain ⟨front, rfl, found⟩ := takes
    have value := congrArg Reading.value found
    have size := congrArg Reading.size found
    obtain rfl := List.eq_nil_of_length_eq_zero size.symm
    exact ⟨(Option.some.inj value).symm, rfl⟩
  · intro same
    rw [same.1, same.2]
    exact .next text

theorem takeIf_iff {condition : Char → Bool} {taken : Option Char} :
    Takes (Reader.takeIf condition) text taken rest ↔
      (taken = none ∧ rest = text ∧ Stops condition text) ∨
        ∃ c, taken = some c ∧ condition c = true ∧ text = c :: rest := by
  constructor
  · intro takes
    obtain ⟨front, whole, found⟩ := takes
    cases text with
    | nil =>
        have value := congrArg Reading.value found
        obtain ⟨-, rfl⟩ := List.append_eq_nil_iff.mp whole.symm
        exact .inl ⟨(Option.some.inj value).symm, rfl, rfl⟩
    | cons c more =>
        unfold Reader.takeIf at found
        dsimp only at found
        split at found
        case isTrue holds =>
          have value := congrArg Reading.value found
          have size := congrArg Reading.size found
          obtain ⟨d, rfl⟩ := List.length_eq_one_iff.mp size.symm
          obtain ⟨rfl, rfl⟩ := List.cons.inj whole
          exact .inr ⟨c, (Option.some.inj value).symm, holds, rfl⟩
        case isFalse refuses =>
          have value := congrArg Reading.value found
          have size := congrArg Reading.size found
          obtain rfl := List.eq_nil_of_length_eq_zero size.symm
          exact .inl ⟨(Option.some.inj value).symm, whole.symm, by simpa using refuses⟩
  · intro cases
    rcases cases with ⟨rfl, rfl, refuses⟩ | ⟨c, rfl, holds, rfl⟩
    · exact .takeIf_refuses refuses
    · exact .takeIf holds rest

/-- A part that a text may lack, with a value that stands for it. -/
theorem optional_iff {choice : Bool} {reader : Reader α} {default : α} {next : α → Reader β}
    {b : β} :
    Takes (if choice = true then reader >>= next else Pure.pure default >>= next) text b later ↔
      ∃ a rest, Takes (if choice = true then reader else Pure.pure default) text a rest ∧
        Takes (next a) rest b later := by
  cases choice <;> exact bind_iff

end Takes

end Reader

namespace Numeral

open Charset Reader Grammar

/-! ## Digits -/

def continuesGroup (radix : Nat) (c : Char) : Bool :=
  isDigitOf radix c || c == '_'

/-- Runs in which each underscore stands between two digits: groups, and after a digit also the
empty run and an underscore with a group after it. -/
theorem separated_iff {radix : Nat} {run : List Char}
    (within : ∀ c ∈ run, continuesGroup radix c = true) :
    (separated false run = true ↔ Grouped radix run) ∧
      (separated true run = true ↔
        run = [] ∨ Grouped radix run ∨ ∃ more, run = '_' :: more ∧ Grouped radix more) := by
  induction run with
  | nil =>
      refine ⟨iff_of_false (by simp [separated]) ?_, by simp [separated]⟩
      intro grouped
      cases grouped
  | cons c rest ih =>
      obtain ⟨first, second⟩ := ih fun d member => within d (.tail _ member)
      by_cases mark : c = '_'
      · have never : ¬ Grouped radix (c :: rest) := by
          intro grouped
          obtain ⟨d, more, text, digit⟩ := grouped.exists_cons
          exact ne_underscore digit ((List.cons.inj text).1.symm.trans mark)
        simp [separated, mark ▸ never, mark, first]
      · have digit : isDigitOf radix c = true := by
          simpa [continuesGroup, mark] using within c (.head _)
        simp [separated, mark, second, Grouped.cons_iff digit]

theorem continuesGroup_of_grouped {radix : Nat} {text : List Char} (grouped : Grouped radix text) :
    ∀ c ∈ text, continuesGroup radix c = true := by
  intro c member
  simpa [continuesGroup] using grouped.isDigitOf_or_eq_of_mem c member

instance instDecidableGrouped (radix : Nat) (text : List Char) : Decidable (Grouped radix text) :=
  decidable_of_iff
    (text.all (continuesGroup radix) = true ∧ separated false text = true)
    ⟨fun run => (separated_iff (List.all_eq_true.mp run.1)).1.mp run.2, fun grouped =>
      ⟨List.all_eq_true.mpr (continuesGroup_of_grouped grouped),
        (separated_iff (continuesGroup_of_grouped grouped)).1.mpr grouped⟩⟩

theorem digitGroup_eq (radix : Nat) (text : List Char) :
    digitGroup radix text =
      if (text.takeWhile (continuesGroup radix)).isEmpty ||
          separated false (text.takeWhile (continuesGroup radix)) then
        ⟨some ((text.takeWhile (continuesGroup radix)).filter (· != '_')),
          (text.takeWhile (continuesGroup radix)).length⟩
      else
        ⟨none, (text.takeWhile (continuesGroup radix)).length⟩ := rfl

theorem takes_no_group {radix : Nat} {rest : List Char}
    (stops : Stops (continuesGroup radix) rest) :
    Takes (digitGroup radix) rest [] rest :=
  ⟨[], rfl, by rw [digitGroup_eq, stops.takeWhile_eq_nil]; rfl⟩

theorem takes_group {radix : Nat} (group : Group radix) {rest : List Char}
    (stops : Stops (continuesGroup radix) rest) :
    Takes (digitGroup radix) (group.text ++ rest) group.digits rest := by
  have within := continuesGroup_of_grouped group.grouped
  have run : (group.text ++ rest).takeWhile (continuesGroup radix) = group.text := by
    rw [List.takeWhile_append_of_pos within, stops.takeWhile_eq_nil, List.append_nil]
  refine ⟨group.text, rfl, ?_⟩
  rw [digitGroup_eq, run, (separated_iff within).1.mpr group.grouped, Bool.or_true, if_pos rfl]
  rfl

theorem takes_digitGroup_iff {radix : Nat} {text digits rest : List Char} :
    Takes (digitGroup radix) text digits rest ↔
      Stops (continuesGroup radix) rest ∧
        (digits = [] ∧ text = rest ∨
          ∃ group : Group radix, text = group.text ++ rest ∧ digits = group.digits) := by
  constructor
  · intro takes
    obtain ⟨front, whole, found⟩ := takes
    have within : ∀ c ∈ text.takeWhile (continuesGroup radix), continuesGroup radix c = true :=
      List.all_eq_true.mp List.all_takeWhile
    have parts := List.takeWhile_append_dropWhile (p := continuesGroup radix) (l := text)
    have size : (text.takeWhile (continuesGroup radix)).length = front.length :=
      (size_digitGroup radix text).symm.trans (congrArg Reading.size found)
    obtain ⟨run, left⟩ := List.append_inj (parts.trans whole) size
    rw [digitGroup_eq, run] at found
    split at found
    case isTrue legal =>
      have value := Option.some.inj (congrArg Reading.value found)
      refine ⟨left ▸ .dropWhile _ _, ?_⟩
      cases front with
      | nil => exact .inl ⟨value.symm, whole⟩
      | cons c more =>
          have separated : separated false (c :: more) = true := by simpa using legal
          exact .inr ⟨⟨c :: more, (separated_iff (run ▸ within)).1.mp separated⟩, whole, value.symm⟩
    case isFalse _ => cases found
  · intro cases
    obtain ⟨stops, ⟨rfl, rfl⟩ | ⟨group, rfl, rfl⟩⟩ := cases
    · exact takes_no_group stops
    · exact takes_group group stops

/-! ## Letters -/

variable {letters : List Char}

theorem takes_letter_iff {condition : Char → Bool} {text rest : List Char} {taken : Option Char}
    (accepts : ∀ c, condition c = true ↔ c ∈ letters) :
    Takes (takeIf condition) text taken rest ↔
      ∃ letter : Option (Letter letters), text = spelling letter ++ rest ∧
        taken = letter.map Subtype.val ∧ (letter = none → Stops condition rest) := by
  rw [Takes.takeIf_iff]
  constructor
  · intro cases
    rcases cases with ⟨rfl, rfl, refuses⟩ | ⟨c, rfl, holds, rfl⟩
    · exact ⟨none, rfl, rfl, fun _ => refuses⟩
    · exact ⟨some ⟨c, (accepts c).mp holds⟩, rfl, rfl, nofun⟩
  · intro found
    obtain ⟨letter, rfl, rfl, refuses⟩ := found
    cases letter with
    | none => exact .inl ⟨rfl, rfl, refuses rfl⟩
    | some letter => exact .inr ⟨letter.val, rfl, (accepts _).mpr letter.property, rfl⟩

theorem takes_exponent_iff {text rest : List Char} {n : Int} :
    Takes exponent text n rest ↔
      ∃ power : Power, text = power.text ++ rest ∧ n = power.value ∧
        Stops (continuesGroup 10) rest := by
  have accepts : ∀ c, (c == '+' || c == '-') = true ↔ c ∈ ['+', '-'] := by simp
  unfold exponent
  simp only [Takes.bind_iff, takes_letter_iff accepts, takes_digitGroup_iff, Takes.require_iff,
    Takes.pure_iff]
  constructor
  · intro parts
    rcases parts with ⟨sign, rest, ⟨letter, rfl, rfl, -⟩, digits, later, ⟨stops, group⟩, _, _,
      ⟨some, rfl⟩, rfl, rfl⟩
    rcases group with ⟨rfl, -⟩ | ⟨group, rfl, rfl⟩
    · cases some
    · refine ⟨⟨letter, group⟩, ?_, ?_, stops⟩
      · simp [Power.text]
      · cases letter <;> simp [Power.value]
  · intro parts
    rcases parts with ⟨⟨letter, group⟩, rfl, rfl, stops⟩
    refine ⟨_, group.text ++ rest, ⟨letter, ?_, rfl, ?_⟩, group.digits, rest,
      ⟨stops, .inr ⟨group, rfl, rfl⟩⟩, (), rest, ⟨?_, rfl⟩, ?_, rfl⟩
    · simp [Power.text]
    · intro _
      refine group.head?_any_append rest fun c digit => ?_
      have low := (bounds_of_isDigitOf digit).1
      rw [Bool.or_eq_false_iff, beq_eq_false_iff_ne, beq_eq_false_iff_ne]
      constructor <;>
        · rintro rfl
          exact absurd low (by decide)
    · simp [group.digits_ne_nil]
    · cases letter <;> simp [Power.value]

end Numeral

end JavaLex
