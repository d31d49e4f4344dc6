import JavaLex.Literal.Numeral

/-! # The grammar of numeric literals

A numeric literal is a tree of the parts of its spelling, and the parts carry the rules: the digits
of a group have single underscores strictly between them, a zero in front of more digits makes a
literal octal, and a hexadecimal float has an exponent. `Number.text` is the spelling and
`Number.kind` the kind that the mark in front and the suffix call for. `Number.numeral` is what the
literal has to be read as.
-/

namespace JavaLex.Grammar

open Charset

/-! ## Digits -/

/-- Digits of a radix with single underscores strictly between two of them. -/
inductive Grouped (radix : Nat) : List Char → Prop where
  | single {d : Char} : isDigitOf radix d = true → Grouped radix [d]
  | digit {d : Char} {rest : List Char} : isDigitOf radix d = true → Grouped radix rest →
      Grouped radix (d :: rest)
  | underscore {d : Char} {rest : List Char} : isDigitOf radix d = true → Grouped radix rest →
      Grouped radix (d :: '_' :: rest)

theorem isDigitOf_underscore {radix : Nat} : isDigitOf radix '_' = false := by
  simp [isDigitOf, digit?]

theorem ne_underscore {radix : Nat} {d : Char} (digit : isDigitOf radix d = true) : d ≠ '_' := by
  rintro rfl
  rw [isDigitOf_underscore] at digit
  cases digit

theorem filter_cons {radix : Nat} {d : Char} (digit : isDigitOf radix d = true)
    (rest : List Char) : (d :: rest).filter (· != '_') = d :: rest.filter (· != '_') := by
  simp [ne_underscore digit]

namespace Grouped

variable {radix other : Nat} {text rest : List Char} {d : Char}

theorem cons_iff (first : isDigitOf radix d = true) :
    Grouped radix (d :: rest) ↔
      rest = [] ∨ Grouped radix rest ∨ ∃ more, rest = '_' :: more ∧ Grouped radix more := by
  constructor
  · intro grouped
    cases grouped with
    | single _ => exact .inl rfl
    | digit _ later => exact .inr (.inl later)
    | underscore _ later => exact .inr (.inr ⟨_, rfl, later⟩)
  · intro follows
    rcases follows with rfl | later | ⟨more, rfl, later⟩
    · exact .single first
    · exact .digit first later
    · exact .underscore first later

theorem exists_cons (grouped : Grouped radix text) :
    ∃ d rest, text = d :: rest ∧ isDigitOf radix d = true := by
  cases grouped with
  | single first => exact ⟨_, _, rfl, first⟩
  | digit first _ => exact ⟨_, _, rfl, first⟩
  | underscore first _ => exact ⟨_, _, rfl, first⟩

theorem isDigitOf_or_eq_of_mem (grouped : Grouped radix text) :
    ∀ c ∈ text, isDigitOf radix c = true ∨ c = '_' := by
  induction grouped with
  | single first => simpa using .inl first
  | digit first _ ih => simpa [first] using ih
  | underscore first _ ih => simpa [first] using ih

theorem of_all (all : text.all (isDigitOf radix) = true) (nonempty : text ≠ []) :
    Grouped radix text := by
  induction text with
  | nil => exact absurd rfl nonempty
  | cons d rest ih =>
      rw [List.all_cons, Bool.and_eq_true] at all
      by_cases last : rest = []
      · exact (cons_iff all.1).mpr (.inl last)
      · exact .digit all.1 (ih all.2 last)

theorem of_digits (grouped : Grouped radix text)
    (digits : ∀ c ∈ text.filter (· != '_'), isDigitOf other c = true) : Grouped other text := by
  induction grouped with
  | single first => exact .single (digits _ (by simp [ne_underscore first]))
  | digit first _ ih =>
      simp only [filter_cons first, List.forall_mem_cons] at digits
      exact .digit digits.1 (ih digits.2)
  | underscore first _ ih =>
      simp only [filter_cons first, List.forall_mem_cons] at digits
      exact .underscore digits.1 (ih (by simpa using digits.2))

end Grouped

structure Group (radix : Nat) where
  text : List Char
  grouped : Grouped radix text

namespace Group

variable {radix : Nat}

def digits (group : Group radix) : List Char :=
  group.text.filter (· != '_')

def LeadsWithZero (group : Group radix) : Prop :=
  group.digits.head? = some '0' ∧ 1 < group.digits.length

instance instDecidableLeadsWithZero (group : Group radix) : Decidable group.LeadsWithZero :=
  inferInstanceAs (Decidable (_ ∧ _))

theorem all_digits (group : Group radix) : group.digits.all (isDigitOf radix) = true := by
  rw [List.all_eq_true]
  intro c member
  obtain ⟨spelled, other⟩ := List.mem_filter.mp member
  exact (group.grouped.isDigitOf_or_eq_of_mem c spelled).resolve_right (bne_iff_ne.mp other)

theorem exists_digits_eq (group : Group radix) :
    ∃ d rest, group.text = d :: rest ∧ isDigitOf radix d = true ∧
      group.digits = d :: rest.filter (· != '_') := by
  obtain ⟨d, rest, text, first⟩ := group.grouped.exists_cons
  exact ⟨d, rest, text, first, by rw [digits, text, filter_cons first]⟩

theorem digits_ne_nil (group : Group radix) : group.digits ≠ [] := by
  obtain ⟨d, rest, -, -, digits⟩ := group.exists_digits_eq
  simp [digits]

theorem head?_any_append (group : Group radix) {p : Char → Bool} (rest : List Char)
    (refuses : ∀ c, isDigitOf radix c = true → p c = false) :
    (group.text ++ rest).head?.any p = false := by
  obtain ⟨d, more, text, digit, -⟩ := group.exists_digits_eq
  rw [text, List.cons_append, List.head?_cons, Option.any_some, refuses d digit]

def ofDigits (digits : List Char) (all : digits.all (isDigitOf radix) = true)
    (nonempty : digits ≠ []) : Group radix :=
  ⟨digits, .of_all all nonempty⟩

theorem digits_ofDigits {digits : List Char} (all : digits.all (isDigitOf radix) = true)
    (nonempty : digits ≠ []) : (ofDigits digits all nonempty).digits = digits := by
  rw [Group.digits, ofDigits, List.filter_eq_self]
  intro c member
  simp [ne_underscore (List.all_eq_true.mp all c member)]

end Group

/-! ## Letters -/

abbrev Letter (letters : List Char) : Type :=
  { c : Char // c ∈ letters }

theorem Letter.holds {letters : List Char} {p : Char → Bool} (all : letters.all p = true)
    (letter : Letter letters) : p letter.val = true :=
  List.all_eq_true.mp all _ letter.property

theorem Letter.refuses {letters : List Char} {p : Char → Bool} (none : letters.any p = false)
    (letter : Letter letters) : p letter.val = false :=
  Bool.eq_false_iff.mpr (List.any_eq_false.mp none _ letter.property)

def spelling {letters : List Char} : Option (Letter letters) → List Char
  | some letter => [letter.val]
  | none => []

abbrev LongSuffix : Type := Letter ['l', 'L']

abbrev FloatSuffix : Type := Letter ['f', 'F', 'd', 'D']

def isDouble (suffix : Option FloatSuffix) : Bool :=
  suffix.all fun letter => letter.val == 'd' || letter.val == 'D'

/-! ## Integers -/

inductive IntegerDigits where
  | decimal (group : Group 10) (unmarked : ¬ group.LeadsWithZero)
  | octal (group : Group 8) (marked : group.LeadsWithZero)
  | hexadecimal (mark : Letter ['x', 'X']) (group : Group 16)
  | binary (mark : Letter ['b', 'B']) (group : Group 2)

namespace IntegerDigits

def text : IntegerDigits → List Char
  | decimal group _ => group.text
  | octal group _ => group.text
  | hexadecimal mark group => '0' :: mark.val :: group.text
  | binary mark group => '0' :: mark.val :: group.text

def radix : IntegerDigits → Nat
  | decimal _ _ => 10
  | octal _ _ => 8
  | hexadecimal _ _ => 16
  | binary _ _ => 2

/-- The digits without underscores and without the mark; the zero of an octal literal is one of
them. -/
def digits : IntegerDigits → List Char
  | decimal group _ => group.digits
  | octal group _ => group.digits
  | hexadecimal _ group => group.digits
  | binary _ group => group.digits

end IntegerDigits

structure Integer where
  digits : IntegerDigits
  suffix : Option LongSuffix

namespace Integer

def text (literal : Integer) : List Char :=
  literal.digits.text ++ spelling literal.suffix

def kind (literal : Integer) : Kind :=
  if literal.suffix.isSome then .longLiteral else .intLiteral

def numeral (literal : Integer) : Numeral :=
  .integer literal.digits.radix literal.digits.digits literal.suffix.isSome

/-- A point right after the literal would be taken for a part of it. -/
def takesPoint (literal : Integer) : Bool :=
  literal.suffix.isNone && literal.digits.radix != 2

end Integer

/-! ## Floating-point numbers -/

/-- Digits with a point among them, or without one. -/
inductive Significand (radix : Nat) where
  /-- Digits without a point. -/
  | whole (group : Group radix)
  /-- Digits with a point after the last one. -/
  | trailing (group : Group radix)
  /-- Digits before and after a point. -/
  | inner (group fraction : Group radix)
  /-- Digits with a point before the first one. -/
  | leading (fraction : Group radix)

namespace Significand

variable {radix : Nat}

def text : Significand radix → List Char
  | whole group => group.text
  | trailing group => group.text ++ ['.']
  | inner group fraction => group.text ++ '.' :: fraction.text
  | leading fraction => '.' :: fraction.text

def units : Significand radix → List Char
  | whole group => group.digits
  | trailing group => group.digits
  | inner group _ => group.digits
  | leading _ => []

def places : Significand radix → List Char
  | whole _ => []
  | trailing _ => []
  | inner _ fraction => fraction.digits
  | leading fraction => fraction.digits

def hasPoint : Significand radix → Bool
  | whole _ => false
  | trailing _ | inner _ _ | leading _ => true

theorem digits_ne_nil (significand : Significand radix) :
    significand.units ++ significand.places ≠ [] := by
  cases significand with
  | whole group => exact List.append_ne_nil_of_left_ne_nil group.digits_ne_nil _
  | trailing group => exact List.append_ne_nil_of_left_ne_nil group.digits_ne_nil _
  | inner group _ => exact List.append_ne_nil_of_left_ne_nil group.digits_ne_nil _
  | leading fraction => exact fraction.digits_ne_nil

theorem exists_of_digits {whole fraction : List Char} (all : whole.all (isDigitOf radix) = true)
    (all' : fraction.all (isDigitOf radix) = true) (nonempty : whole ++ fraction ≠ []) :
    ∃ significand : Significand radix, significand.units = whole ∧
      significand.places = fraction ∧ significand.text = whole ++ '.' :: fraction := by
  by_cases absent : whole = []
  · subst absent
    exact ⟨.leading (.ofDigits _ all' nonempty), rfl, Group.digits_ofDigits _ _, rfl⟩
  have units := Group.digits_ofDigits all absent
  by_cases absent' : fraction = []
  · subst absent'
    exact ⟨.trailing (.ofDigits _ all absent), units, rfl, rfl⟩
  · exact ⟨.inner (.ofDigits _ all absent) (.ofDigits _ all' absent'), units,
      Group.digits_ofDigits _ _, rfl⟩

end Significand

structure Power where
  sign : Option (Letter ['+', '-'])
  group : Group 10

namespace Power

def text (power : Power) : List Char :=
  spelling power.sign ++ power.group.text

def value (power : Power) : Int :=
  let size : Int := valueOf 10 power.group.digits
  if power.sign.any (·.val == '-') then -size else size

end Power

structure Exponent (marks : List Char) where
  mark : Letter marks
  power : Power

def Exponent.text {marks : List Char} (exponent : Exponent marks) : List Char :=
  exponent.mark.val :: exponent.power.text

/-- A decimal floating-point literal. A point, an exponent or a suffix tells it from an integer. -/
structure DecimalFloat where
  significand : Significand 10
  exponent : Option (Exponent ['e', 'E'])
  suffix : Option FloatSuffix
  floating : significand.hasPoint = true ∨ exponent.isSome = true ∨ suffix.isSome = true

namespace DecimalFloat

def ending (literal : DecimalFloat) : List Char :=
  (literal.exponent.elim [] Exponent.text) ++ spelling literal.suffix

def text (literal : DecimalFloat) : List Char :=
  literal.significand.text ++ literal.ending

def power (literal : DecimalFloat) : Int :=
  literal.exponent.elim 0 (·.power.value)

def double (literal : DecimalFloat) : Bool :=
  isDouble literal.suffix

def numeral (literal : DecimalFloat) : Numeral :=
  .floating (valueOf 10 (literal.significand.units ++ literal.significand.places)) 10
    (literal.power - literal.significand.places.length) literal.double

end DecimalFloat

/-- A hexadecimal floating-point literal. Its exponent is a power of two. -/
structure HexadecimalFloat where
  mark : Letter ['x', 'X']
  significand : Significand 16
  exponent : Exponent ['p', 'P']
  suffix : Option FloatSuffix

namespace HexadecimalFloat

def text (literal : HexadecimalFloat) : List Char :=
  '0' :: literal.mark.val ::
    (literal.significand.text ++ (literal.exponent.text ++ spelling literal.suffix))

def double (literal : HexadecimalFloat) : Bool :=
  isDouble literal.suffix

def numeral (literal : HexadecimalFloat) : Numeral :=
  .floating (valueOf 16 (literal.significand.units ++ literal.significand.places)) 2
    (literal.exponent.power.value - 4 * literal.significand.places.length) literal.double

end HexadecimalFloat

/-! ## Literals -/

inductive Number where
  | integer (literal : Integer)
  | decimalFloat (literal : DecimalFloat)
  | hexadecimalFloat (literal : HexadecimalFloat)

def floatKind (double : Bool) : Kind :=
  if double then .doubleLiteral else .floatLiteral

namespace Number

def text : Number → List Char
  | integer literal => literal.text
  | decimalFloat literal => literal.text
  | hexadecimalFloat literal => literal.text

def kind : Number → Kind
  | integer literal => literal.kind
  | decimalFloat literal => floatKind literal.double
  | hexadecimalFloat literal => floatKind literal.double

def numeral : Number → Numeral
  | integer literal => literal.numeral
  | decimalFloat literal => literal.numeral
  | hexadecimalFloat literal => literal.numeral

def takesPoint : Number → Bool
  | integer literal => literal.takesPoint
  | _ => false

/-- The literal ends before the text: neither an identifier character goes on with it nor a point
that it would take. -/
structure Ends (number : Number) (rest : List Char) : Prop where
  word : rest.head?.any isIdentifierPart = false
  point : number.takesPoint = true → rest.head? ≠ some '.'

end Number

end JavaLex.Grammar
