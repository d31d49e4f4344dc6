import JavaLex.Proofs.Front.Takes

/-! # Parts of numeric literals

What the readers of the parts of a numeral take: significands, exponents, suffixes, the end of a
literal and digits without a mark. Each lemma gives the part of the grammar that was taken, and in
the other direction what has to follow a part so that it is taken whole.
-/

namespace JavaLex.Numeral

open Charset Reader Grammar

/-! ## What ends a part -/

theorem isIdentifierPart_of_isDigitOf {radix : Nat} {c : Char} (digit : isDigitOf radix c = true) :
    isIdentifierPart c = true := by
  have low : c.toNat < 0x80 := Nat.lt_of_le_of_lt (bounds_of_isDigitOf digit).2 (by decide)
  have alphanumeric : c.isAlphanum = true := by
    change (c.isUpper || c.isLower || c.isDigit) = true
    apply Decidable.byContradiction
    intro other
    simp only [Bool.or_eq_true, not_or, Bool.not_eq_true] at other
    simp [isDigitOf, digit?, other] at digit
  simp [isIdentifierPart, low, alphanumeric]

theorem isIdentifierPart_of_continuesGroup {radix : Nat} {c : Char}
    (goesOn : continuesGroup radix c = true) : isIdentifierPart c = true := by
  rcases Bool.or_eq_true_iff.mp goesOn with digit | underscore
  · exact isIdentifierPart_of_isDigitOf digit
  · rw [eq_of_beq underscore]
    decide

section Stops

variable {p : Char → Bool} {letters : List Char} {rest : List Char}

theorem stops_group {radix : Nat} (word : Stops isIdentifierPart rest) :
    Stops (continuesGroup radix) rest :=
  word.mono fun _ => isIdentifierPart_of_continuesGroup

theorem stops_letters (accepts : ∀ c, p c = true ↔ c ∈ letters)
    (parts : letters.all isIdentifierPart = true) (word : Stops isIdentifierPart rest) :
    Stops p rest :=
  word.mono fun c letter => List.all_eq_true.mp parts c ((accepts c).mp letter)

theorem stops_spelling (letter : Option (Letter letters))
    (refuses : letters.any p = false) (stops : Stops p rest) :
    Stops p (spelling letter ++ rest) := by
  cases letter with
  | none => exact stops
  | some letter => exact Stops.cons_iff.mpr (Letter.refuses refuses letter)

end Stops

/-! ## Significands -/

theorem continuesGroup_point (radix : Nat) : continuesGroup radix '.' = false := by
  simp [continuesGroup, isDigitOf, digit?]

/-- Digits, a point and digits that are taken one after the other are a significand. -/
theorem exists_significand {radix : Nat} {text units afterUnits afterPoint places rest : List Char}
    {point : Option Char} (whole : Takes (digitGroup radix) text units afterUnits)
    (taken : Takes (takeIf (· == '.')) afterUnits point afterPoint)
    (fraction : Takes (if point.isSome = true then digitGroup radix else pure []) afterPoint
      places rest)
    (nonempty : units ++ places ≠ []) :
    ∃ significand : Significand radix, text = significand.text ++ rest ∧
      significand.units = units ∧ significand.places = places ∧
      significand.hasPoint = point.isSome ∧ Stops (continuesGroup radix) rest ∧
      (point = none → Stops (· == '.') rest) := by
  obtain ⟨stops, whole⟩ := takes_digitGroup_iff.mp whole
  rcases Takes.takeIf_iff.mp taken with ⟨rfl, rfl, refuses⟩ | ⟨c, rfl, accepted, rfl⟩
  · obtain ⟨rfl, rfl⟩ := Takes.pure_iff.mp fraction
    rcases whole with ⟨rfl, -⟩ | ⟨group, rfl, rfl⟩
    · exact absurd rfl nonempty
    · exact ⟨.whole group, rfl, rfl, rfl, rfl, stops, fun _ => refuses⟩
  · obtain rfl := eq_of_beq accepted
    obtain ⟨ends, fraction⟩ := takes_digitGroup_iff.mp fraction
    rcases whole with ⟨rfl, rfl⟩ | ⟨group, rfl, rfl⟩
    · rcases fraction with ⟨rfl, -⟩ | ⟨places, rfl, rfl⟩
      · exact absurd rfl nonempty
      · exact ⟨.leading places, rfl, rfl, rfl, rfl, ends, nofun⟩
    · rcases fraction with ⟨rfl, rfl⟩ | ⟨places, rfl, rfl⟩
      · exact ⟨.trailing group, by simp [Significand.text], rfl, rfl, rfl, ends,
          nofun⟩
      · exact ⟨.inner group places, by simp [Significand.text], rfl, rfl, rfl, ends,
          nofun⟩

/-- The parts of a significand are taken; a point is the character after the digits in front. -/
theorem takes_significand {radix : Nat} (significand : Significand radix) {rest : List Char}
    (stops : Stops (continuesGroup radix) rest)
    (ends : significand.hasPoint = false → Stops (· == '.') rest) :
    ∃ point afterUnits afterPoint, point.isSome = significand.hasPoint ∧
      Takes (digitGroup radix) (significand.text ++ rest) significand.units afterUnits ∧
      Takes (takeIf (· == '.')) afterUnits point afterPoint ∧
      Takes (if point.isSome = true then digitGroup radix else pure []) afterPoint
        significand.places rest ∧
      (afterUnits = rest ∨ afterUnits.head? = some '.') := by
  have before : ∀ more, Stops (continuesGroup radix) ('.' :: more) := fun more =>
    Stops.cons_iff.mpr (continuesGroup_point radix)
  have point : ∀ more, Takes (takeIf (· == '.')) ('.' :: more) (some '.') more := fun more =>
    .takeIf rfl more
  cases significand with
  | whole group =>
      exact ⟨none, rest, rest, rfl, takes_group group stops, .takeIf_refuses (ends rfl),
        .pure [] rest, .inl rfl⟩
  | trailing group =>
      have text : (Significand.trailing group).text ++ rest = group.text ++ '.' :: rest := by
        simp [Significand.text]
      rw [text]
      exact ⟨some '.', _, rest, rfl, takes_group group (before rest), point rest,
        takes_no_group stops, .inr rfl⟩
  | inner group fraction =>
      have text : (Significand.inner group fraction).text ++ rest =
          group.text ++ '.' :: (fraction.text ++ rest) := by
        simp [Significand.text]
      rw [text]
      exact ⟨some '.', _, _, rfl, takes_group group (before _), point _,
        takes_group fraction stops, .inr rfl⟩
  | leading fraction =>
      exact ⟨some '.', _, _, rfl, takes_no_group (before _), point _,
        takes_group fraction stops, .inr rfl⟩

/-! ## Exponents and suffixes -/

theorem marksDecimal_iff (c : Char) : (c == 'e' || c == 'E') = true ↔ c ∈ ['e', 'E'] := by simp

theorem marksBinary_iff (c : Char) : (c == 'p' || c == 'P') = true ↔ c ∈ ['p', 'P'] := by simp

theorem floatSuffix_iff (c : Char) :
    (c == 'f' || c == 'F' || c == 'd' || c == 'D') = true ↔ c ∈ ['f', 'F', 'd', 'D'] := by
  simp [or_assoc]

theorem longSuffix_iff (c : Char) : (c == 'l' || c == 'L') = true ↔ c ∈ ['l', 'L'] := by simp

theorem takes_optionalExponent_iff {text rest : List Char} {power : Int} {marked : Bool} :
    (∃ mark afterMark, mark.isSome = marked ∧
      Takes (takeIf fun c => c == 'e' || c == 'E') text mark afterMark ∧
      Takes (if mark.isSome = true then exponent else pure 0) afterMark power rest) ↔
    ∃ exponent : Option (Exponent ['e', 'E']), exponent.isSome = marked ∧
      text = exponent.elim [] Exponent.text ++ rest ∧ power = exponent.elim 0 (·.power.value) ∧
      (exponent = none → Stops (fun c => c == 'e' || c == 'E') rest) ∧
      (exponent.isSome = true → Stops (continuesGroup 10) rest) := by
  simp only [takes_letter_iff marksDecimal_iff]
  constructor
  · intro parts
    rcases parts with ⟨mark, afterMark, rfl, ⟨letter, rfl, rfl, refuses⟩, number⟩
    cases letter with
    | none =>
        obtain ⟨rfl, rfl⟩ := Takes.pure_iff.mp number
        exact ⟨none, rfl, rfl, rfl, fun _ => refuses rfl, nofun⟩
    | some letter =>
        obtain ⟨power, rfl, rfl, stops⟩ := takes_exponent_iff.mp number
        exact ⟨some ⟨letter, power⟩, rfl, rfl, rfl, nofun, fun _ => stops⟩
  · intro parts
    rcases parts with ⟨exponent, rfl, rfl, rfl, refuses, stops⟩
    cases exponent with
    | none => exact ⟨none, rest, rfl, ⟨none, rfl, rfl, fun _ => refuses rfl⟩, .pure 0 rest⟩
    | some exponent =>
        exact ⟨some exponent.mark.val, _, rfl,
          ⟨some exponent.mark, rfl, rfl, nofun⟩,
          takes_exponent_iff.mpr ⟨exponent.power, rfl, rfl, stops rfl⟩⟩

theorem takes_floatSuffix_iff {text rest : List Char} {double : Option Bool} :
    Takes floatSuffix text double rest ↔
      ∃ suffix : Option FloatSuffix, text = spelling suffix ++ rest ∧
        double = suffix.map (fun letter => letter.val == 'd' || letter.val == 'D') ∧
        (suffix = none → Stops (fun c => c == 'f' || c == 'F' || c == 'd' || c == 'D') rest) := by
  unfold floatSuffix
  simp only [Takes.bind_iff, takes_letter_iff floatSuffix_iff, Takes.pure_iff]
  constructor
  · intro parts
    rcases parts with ⟨_, _, ⟨suffix, rfl, rfl, refuses⟩, rfl, rfl⟩
    exact ⟨suffix, rfl, Option.map_map .., refuses⟩
  · intro parts
    rcases parts with ⟨suffix, rfl, rfl, refuses⟩
    exact ⟨_, rest, ⟨suffix, rfl, rfl, refuses⟩, by rw [Option.map_map]; rfl, rfl⟩

theorem getD_isDouble (suffix : Option FloatSuffix) :
    (suffix.map fun letter => letter.val == 'd' || letter.val == 'D').getD true =
      isDouble suffix := by
  cases suffix <;> rfl

theorem takes_longSuffix_iff {text rest : List Char} {long : Bool} :
    Takes longSuffix text long rest ↔
      ∃ suffix : Option LongSuffix, text = spelling suffix ++ rest ∧ long = suffix.isSome ∧
        (suffix = none → Stops (fun c => c == 'l' || c == 'L') rest) := by
  unfold longSuffix
  simp only [Takes.bind_iff, takes_letter_iff longSuffix_iff, Takes.pure_iff]
  constructor
  · intro parts
    rcases parts with ⟨_, _, ⟨suffix, rfl, rfl, refuses⟩, rfl, rfl⟩
    exact ⟨suffix, rfl, by simp, refuses⟩
  · intro parts
    rcases parts with ⟨suffix, rfl, rfl, refuses⟩
    exact ⟨_, rest, ⟨suffix, rfl, rfl, refuses⟩, by simp, rfl⟩

theorem takes_ending_iff {text rest : List Char} {u : Unit} :
    Takes ending text u rest ↔ rest = text ∧ Stops isIdentifierPart text := by
  unfold ending
  simp only [Takes.bind_iff, Takes.next_iff, Takes.require_iff]
  constructor
  · intro parts
    rcases parts with ⟨_, _, ⟨rfl, rfl⟩, ends, rfl⟩
    exact ⟨rfl, by simpa [Stops] using ends⟩
  · intro parts
    rcases parts with ⟨rfl, ends⟩
    exact ⟨_, _, ⟨rfl, rfl⟩, by simpa [Stops] using ends, rfl⟩

/-- The end of an integer: a suffix or none, and nothing of a word after it. -/
theorem takes_integerEnding_iff {next : Bool → Reader Numeral} {text later : List Char}
    {numeral : Numeral} :
    Takes (longSuffix >>= fun long => ending >>= fun _ => next long) text numeral later ↔
      ∃ (suffix : Option LongSuffix) (rest : List Char), text = spelling suffix ++ rest ∧
        Stops isIdentifierPart rest ∧ Takes (next suffix.isSome) rest numeral later := by
  simp only [Takes.bind_iff, takes_longSuffix_iff, takes_ending_iff]
  constructor
  · intro parts
    rcases parts with ⟨_, rest, ⟨suffix, rfl, rfl, -⟩, _, _, ⟨rfl, word⟩, found⟩
    exact ⟨suffix, _, rfl, word, found⟩
  · intro parts
    rcases parts with ⟨suffix, rest, rfl, word, found⟩
    exact ⟨_, rest, ⟨suffix, rfl, rfl, fun _ => stops_letters longSuffix_iff (by decide) word⟩,
      (), rest,
      ⟨rfl, word⟩, found⟩

theorem takes_unmarked_iff {group : Group 10} {long : Bool} {text rest : List Char}
    {numeral : Numeral} :
    Takes (unmarked group.digits long) text numeral rest ↔
      rest = text ∧
        (group.LeadsWithZero ∧ group.digits.all (isDigitOf 8) = true ∧
            numeral = .integer 8 group.digits long ∨
          ¬ group.LeadsWithZero ∧ numeral = .integer 10 group.digits long) := by
  unfold unmarked
  by_cases leads : group.LeadsWithZero
  · rw [if_pos (by simpa [Group.LeadsWithZero] using leads)]
    simp only [Takes.bind_iff, Takes.require_iff, Takes.pure_iff]
    constructor
    · intro parts
      rcases parts with ⟨_, _, ⟨octal, rfl⟩, rfl, rfl⟩
      exact ⟨rfl, .inl ⟨leads, octal, rfl⟩⟩
    · intro parts
      rcases parts with ⟨rfl, ⟨-, octal, rfl⟩ | ⟨not, -⟩⟩
      · exact ⟨(), _, ⟨octal, rfl⟩, rfl, rfl⟩
      · exact absurd leads not
  · rw [if_neg (by simpa [Group.LeadsWithZero] using leads)]
    rw [Takes.pure_iff]
    simp [leads, and_comm]

/-! ## Parts with a literal after them -/

theorem takes_floatSuffix (suffix : Option FloatSuffix) {rest : List Char}
    (word : Stops isIdentifierPart rest) :
    Takes floatSuffix (spelling suffix ++ rest)
      (suffix.map fun letter => letter.val == 'd' || letter.val == 'D') rest :=
  takes_floatSuffix_iff.mpr
    ⟨suffix, rfl, rfl, fun _ => stops_letters floatSuffix_iff (by decide) word⟩

theorem takes_longSuffix (suffix : Option LongSuffix) {rest : List Char}
    (word : Stops isIdentifierPart rest) :
    Takes longSuffix (spelling suffix ++ rest) suffix.isSome rest :=
  takes_longSuffix_iff.mpr
    ⟨suffix, rfl, rfl, fun _ => stops_letters longSuffix_iff (by decide) word⟩

theorem takes_ending {rest : List Char} (word : Stops isIdentifierPart rest) :
    Takes ending rest () rest :=
  takes_ending_iff.mpr ⟨rfl, word⟩

/-- No point stands after digits, be it before or after a suffix. -/
theorem stops_suffix {suffix : Option LongSuffix} {rest : List Char}
    (noPoint : suffix = none → rest.head? ≠ some '.') :
    Stops (· == '.') (spelling suffix ++ rest) := by
  cases suffix with
  | some letter =>
      have refuses : ['l', 'L'].any (· == '.') = false := rfl
      exact Stops.cons_iff.mpr (Letter.refuses refuses letter)
  | none =>
      cases rest with
      | nil => rfl
      | cons c rest => simpa [spelling] using noPoint rfl

theorem stops_point {digits : IntegerDigits} {suffix : Option LongSuffix} {rest : List Char}
    (notBinary : (digits.radix != 2) = true) (ends : (Number.integer ⟨digits, suffix⟩).Ends rest) :
    Stops (· == '.') (spelling suffix ++ rest) :=
  stops_suffix fun absent =>
    ends.point (by simpa [Number.takesPoint, Integer.takesPoint, absent] using notBinary)

/-- An integer literal ends where no identifier character follows, nor a point after its digits. -/
theorem ends_integer {digits : IntegerDigits} {suffix : Option LongSuffix} {rest : List Char}
    (word : Stops isIdentifierPart rest) (noPoint : Stops (· == '.') (spelling suffix ++ rest)) :
    (Number.integer ⟨digits, suffix⟩).Ends rest := by
  refine ⟨word, fun takesPoint => ?_⟩
  cases suffix with
  | some _ => cases takesPoint
  | none =>
      intro point
      obtain ⟨_, rfl⟩ := List.head?_eq_some_iff.mp point
      exact absurd noPoint (by simp [spelling])

end JavaLex.Numeral
