import JavaLex.Proofs.Front.Numeral
import JavaLex.Proofs.Literal.NumberParts
import JavaLex.Proofs.Scan.Lexeme

/-! # Numeric literals are read by their grammar

`takes_read_iff` says that a text which begins with a number is read as a numeral in front of the
rest exactly when it is a literal of the grammar followed by that rest. Hence everything that is
scanned with a value or found out of range is a literal, and every literal is scanned, wherever it
ends.
-/

namespace JavaLex

open Charset Reader Grammar

namespace Numeral

/-! ## Decimal literals -/

open Lexeme (StartsNumber)

/-- A text that begins with a number has a digit before or after its point. -/
theorem digits_ne_nil_of_startsNumber {c : Char} {more units afterUnits afterPoint places rest :
    List Char} {point : Option Char} (starts : StartsNumber c more)
    (whole : Takes (digitGroup 10) (c :: more) units afterUnits)
    (taken : Takes (takeIf (· == '.')) afterUnits point afterPoint)
    (fraction : Takes (if point.isSome = true then digitGroup 10 else pure []) afterPoint
      places rest) :
    units ++ places ≠ [] := by
  have goesOn : ∀ {d : Char}, d.isDigit = true → continuesGroup 10 d = true := fun digit => by
    simp [continuesGroup, isDigitOf_ten digit]
  intro empty
  obtain ⟨rfl, rfl⟩ := List.append_eq_nil_iff.mp empty
  obtain ⟨stops, ⟨-, rfl⟩ | ⟨group, -, nothing⟩⟩ := takes_digitGroup_iff.mp whole
  · rcases starts with digit | ⟨rfl, digit⟩
    · exact absurd (Stops.cons_iff.mp stops) (by simp [goesOn digit])
    · rcases Takes.takeIf_iff.mp taken with ⟨-, -, refuses⟩ | ⟨_, rfl, -, same⟩
      · exact absurd (Stops.cons_iff.mp refuses) (by decide)
      · obtain ⟨-, rfl⟩ := List.cons.inj same
        obtain ⟨stops, ⟨-, rfl⟩ | ⟨group, -, nothing⟩⟩ := takes_digitGroup_iff.mp fraction
        · cases more with
          | nil => cases digit
          | cons d more => exact absurd (Stops.cons_iff.mp stops) (by simp [goesOn digit])
        · exact group.digits_ne_nil nothing.symm
  · exact group.digits_ne_nil nothing.symm

theorem exists_integer {group : Group 10} {text rest : List Char} {numeral : Numeral}
    (noPoint : Stops (· == '.') text)
    (takes : Takes (longSuffix >>= fun long => ending >>= fun _ => unmarked group.digits long) text
      numeral rest) :
    ∃ number : Number, group.text ++ text = number.text ++ rest ∧ number.Ends rest ∧
      number.numeral = numeral := by
  obtain ⟨suffix, _, rfl, word, found⟩ := takes_integerEnding_iff.mp takes
  obtain ⟨rfl, ⟨leads, octal, rfl⟩ | ⟨leads, rfl⟩⟩ := takes_unmarked_iff.mp found
  · have grouped := group.grouped.of_digits (List.all_eq_true.mp octal)
    refine ⟨.integer ⟨.octal ⟨group.text, grouped⟩ leads, suffix⟩, ?_,
      ends_integer word noPoint, rfl⟩
    exact (List.append_assoc ..).symm
  · refine ⟨.integer ⟨.decimal group leads, suffix⟩, ?_, ends_integer word noPoint, rfl⟩
    exact (List.append_assoc ..).symm

/-- What is read as a decimal numeral is a literal of the grammar. -/
theorem exists_number_of_takes_decimal {c : Char} {more rest : List Char} {numeral : Numeral}
    (starts : StartsNumber c more) (takes : Takes decimal (c :: more) numeral rest) :
    ∃ number : Number, c :: more = number.text ++ rest ∧ number.Ends rest ∧
      number.numeral = numeral := by
  unfold decimal at takes
  dsimp only at takes
  simp only [Takes.bind_iff, Takes.optional_iff] at takes
  obtain ⟨units, afterUnits, whole, point, afterPoint, taken, places, afterPlaces, fraction, mark,
    afterMark, marked, power, afterPower, scaled, double, afterSuffix, typed, ended⟩ := takes
  have nonempty := digits_ne_nil_of_startsNumber starts whole taken fraction
  obtain ⟨significand, text, rfl, rfl, pointed, -, noPoint⟩ :=
    exists_significand whole taken fraction nonempty
  obtain ⟨exponent, scale, rfl, rfl, -, -⟩ :=
    takes_optionalExponent_iff.mp ⟨mark, afterMark, rfl, marked, scaled⟩
  obtain ⟨suffix, rfl, rfl, -⟩ := takes_floatSuffix_iff.mp typed
  rw [← pointed, ← scale, Option.isSome_map] at ended
  rw [text]
  split at ended
  case isTrue floating =>
    simp only [Takes.bind_iff, takes_ending_iff, Takes.pure_iff, getD_isDouble] at ended
    obtain ⟨_, _, ⟨rfl, ends⟩, rfl, rfl⟩ := ended
    refine ⟨.decimalFloat ⟨significand, exponent, suffix, by simpa [or_assoc] using floating⟩, ?_,
      ⟨ends, nofun⟩, rfl⟩
    simp [Number.text, DecimalFloat.text, DecimalFloat.ending]
  case isFalse integer =>
    simp only [Bool.or_eq_true, not_or, Bool.not_eq_true] at integer
    obtain ⟨⟨unpointed, unscaled⟩, unsuffixed⟩ := integer
    obtain rfl : exponent = none := by simpa using unscaled
    obtain rfl : suffix = none := by simpa using unsuffixed
    cases significand with
    | trailing _ => cases unpointed
    | inner _ _ => cases unpointed
    | leading _ => cases unpointed
    | whole group =>
        have absent : point = none := by simpa using pointed.symm.trans unpointed
        exact exists_integer (noPoint absent) ended

/-! ## Hexadecimal and binary literals -/

/-- What is read as a hexadecimal numeral after its mark is a literal of the grammar. -/
theorem exists_number_of_takes_hexadecimal (mark : Letter ['x', 'X']) {text rest : List Char}
    {numeral : Numeral} (takes : Takes hexadecimal text numeral rest) :
    ∃ number : Number, '0' :: mark.val :: text = number.text ++ rest ∧ number.Ends rest ∧
      number.numeral = numeral := by
  unfold hexadecimal at takes
  simp only [Takes.bind_iff, Takes.next_iff] at takes
  obtain ⟨units, afterUnits, whole, _, _, ⟨rfl, rfl⟩, takes⟩ := takes
  split at takes
  case isTrue floating =>
    simp only [Takes.bind_iff, Takes.optional_iff, Takes.require_iff,
      takes_letter_iff marksBinary_iff, takes_exponent_iff, takes_floatSuffix_iff,
      takes_ending_iff, Takes.pure_iff] at takes
    obtain ⟨point, afterPoint, taken, places, _, fraction, _, _, ⟨nonempty, rfl⟩, _, _,
      ⟨letter, rfl, rfl, -⟩, _, _, ⟨marked, rfl⟩, _, _, ⟨power, rfl, rfl, -⟩, _, _,
      ⟨suffix, rfl, rfl, -⟩, _, _, ⟨rfl, ends⟩, rfl, rfl⟩ := takes
    obtain ⟨significand, rfl, rfl, rfl, -, -, -⟩ :=
      exists_significand whole taken fraction (by simpa using nonempty)
    obtain ⟨letter, rfl⟩ := Option.isSome_iff_exists.mp (by simpa using marked)
    refine ⟨.hexadecimalFloat ⟨mark, significand, ⟨letter, power⟩, suffix⟩, ?_, ⟨ends, nofun⟩, ?_⟩
    · simp [Number.text, HexadecimalFloat.text, Exponent.text, spelling]
    · rw [getD_isDouble]
      rfl
  case isFalse integer =>
    obtain ⟨_, _, required, ended⟩ := Takes.bind_iff.mp takes
    obtain ⟨nonempty, rfl⟩ := Takes.require_iff.mp required
    obtain ⟨suffix, _, rfl, word, found⟩ := takes_integerEnding_iff.mp ended
    obtain ⟨rfl, rfl⟩ := Takes.pure_iff.mp found
    obtain ⟨-, ⟨rfl, -⟩ | ⟨group, rfl, rfl⟩⟩ := takes_digitGroup_iff.mp whole
    · cases nonempty
    · have noPoint : Stops (· == '.') (spelling suffix ++ rest) :=
        Stops.mono (Bool.not_eq_true _ ▸ integer) fun c point => by simp [eq_of_beq point]
      refine ⟨.integer ⟨.hexadecimal mark group, suffix⟩, ?_, ends_integer word noPoint, rfl⟩
      simp [Number.text, Integer.text, IntegerDigits.text]

/-- What is read as a binary numeral after its mark is a literal of the grammar. -/
theorem exists_number_of_takes_binary (mark : Letter ['b', 'B']) {text rest : List Char}
    {numeral : Numeral} (takes : Takes binary text numeral rest) :
    ∃ number : Number, '0' :: mark.val :: text = number.text ++ rest ∧ number.Ends rest ∧
      number.numeral = numeral := by
  obtain ⟨_, _, whole, left⟩ := Takes.bind_iff.mp takes
  obtain ⟨_, _, required, ended⟩ := Takes.bind_iff.mp left
  obtain ⟨nonempty, rfl⟩ := Takes.require_iff.mp required
  obtain ⟨suffix, _, rfl, word, found⟩ := takes_integerEnding_iff.mp ended
  obtain ⟨rfl, rfl⟩ := Takes.pure_iff.mp found
  obtain ⟨-, ⟨rfl, -⟩ | ⟨group, rfl, rfl⟩⟩ := takes_digitGroup_iff.mp whole
  · cases nonempty
  · refine ⟨.integer ⟨.binary mark group, suffix⟩, ?_, ⟨word, ?_⟩, rfl⟩
    · simp [Number.text, Integer.text, IntegerDigits.text]
    · simp [Number.takesPoint, Integer.takesPoint, IntegerDigits.radix]

/-! ## Literals are read -/

theorem stops_ending (float : DecimalFloat) {p : Char → Bool} {rest : List Char}
    (marks : ['e', 'E'].any p = false) (letters : ['f', 'F', 'd', 'D'].any p = false)
    (stops : float.significand.hasPoint = true → Stops p rest) :
    Stops p (float.ending ++ rest) := by
  cases scaled : float.exponent with
  | some exponent =>
      simpa [DecimalFloat.ending, scaled, Exponent.text] using Letter.refuses marks exponent.mark
  | none =>
      cases typed : float.suffix with
      | some letter =>
          simpa [DecimalFloat.ending, scaled, typed, spelling] using Letter.refuses letters letter
      | none =>
          simpa [DecimalFloat.ending, scaled, typed, spelling] using
            stops (by simpa [scaled, typed] using float.floating)

theorem takes_decimalFloat (float : DecimalFloat) {rest : List Char}
    (word : Stops isIdentifierPart rest) :
    Takes decimal (float.text ++ rest) float.numeral rest := by
  obtain ⟨point, afterUnits, afterPoint, pointed, units, taken, places, -⟩ :=
    takes_significand float.significand
      (stops_ending float (by decide) (by decide) fun _ => stops_group word)
      (fun noPoint => stops_ending float rfl rfl fun hasPoint => by simp_all)
  obtain ⟨mark, afterMark, marked, letter, power⟩ := takes_optionalExponent_iff.mpr
    ⟨float.exponent, rfl, rfl, rfl,
      fun _ => stops_spelling float.suffix (by decide)
        (stops_letters marksDecimal_iff (by decide) word),
      fun _ => stops_spelling float.suffix (by decide) (stops_group word)⟩
  have floating : (point.isSome || mark.isSome || (float.suffix.map fun letter =>
      letter.val == 'd' || letter.val == 'D').isSome) = true := by
    rw [pointed, marked]
    simpa [or_assoc] using float.floating
  rw [DecimalFloat.ending, List.append_assoc] at units places
  unfold decimal
  dsimp only
  simp only [DecimalFloat.text, DecimalFloat.ending, List.append_assoc, Takes.bind_iff,
    Takes.optional_iff]
  refine ⟨_, _, units, point, _, taken, _, _, places, mark, _, letter, _, _, power, _, _,
    takes_floatSuffix float.suffix word, .of_pos floating ((takes_ending word).bind ?_)⟩
  rw [getD_isDouble]
  exact .pure _ _

/-- Digits without a mark are read, and then taken in their radix. -/
theorem takes_decimalInteger_iff (group : Group 10) (suffix : Option LongSuffix)
    {rest later : List Char} {numeral : Numeral} (word : Stops isIdentifierPart rest)
    (noPoint : Stops (· == '.') (spelling suffix ++ rest)) :
    Takes decimal (group.text ++ (spelling suffix ++ rest)) numeral later ↔
      Takes (unmarked group.digits suffix.isSome) rest numeral later := by
  have after : ∀ {p : Char → Bool}, ['l', 'L'].any p = false → Stops p rest →
      Stops p (spelling suffix ++ rest) := stops_spelling suffix
  have units := takes_group group (after (by decide) (stops_group word))
  have noMark := Takes.takeIf_refuses
    (after (by decide) (stops_letters marksDecimal_iff (by decide) word))
  have noSuffix : Takes floatSuffix (spelling suffix ++ rest) none (spelling suffix ++ rest) :=
    takes_floatSuffix_iff.mpr ⟨none, rfl, rfl, fun _ =>
      after (by decide) (stops_letters floatSuffix_iff (by decide) word)⟩
  unfold decimal
  dsimp only
  rw [Takes.bind_iff_of_takes units, Takes.bind_iff_of_takes (.takeIf_refuses noPoint),
    if_neg (by simp), Takes.bind_iff_of_takes (.pure [] _), Takes.bind_iff_of_takes noMark,
    if_neg (by simp), Takes.bind_iff_of_takes (.pure 0 _), Takes.bind_iff_of_takes noSuffix,
    if_neg (by simp), Takes.bind_iff_of_takes (takes_longSuffix suffix word),
    Takes.bind_iff_of_takes (takes_ending word)]

theorem takes_hexadecimalFloat (float : HexadecimalFloat) {rest : List Char}
    (word : Stops isIdentifierPart rest) :
    Takes hexadecimal (float.significand.text ++ (float.exponent.text ++
      (spelling float.suffix ++ rest))) float.numeral rest := by
  have marked : ∀ {p : Char → Bool}, ['p', 'P'].any p = false →
      Stops p (float.exponent.text ++ (spelling float.suffix ++ rest)) := fun refuses =>
    Stops.cons_iff.mpr (Letter.refuses refuses float.exponent.mark)
  obtain ⟨point, afterUnits, afterPoint, pointed, units, taken, places, after⟩ :=
    takes_significand float.significand (marked (by decide)) fun _ => marked (by decide)
  have nonempty : (!(float.significand.units ++ float.significand.places).isEmpty) = true := by
    simpa using float.significand.digits_ne_nil
  have goesOn : (afterUnits.head?.any fun c => c == '.' || c == 'p' || c == 'P') = true := by
    rcases after with rfl | point
    · have marks : ['p', 'P'].all (fun c => c == '.' || c == 'p' || c == 'P') = true := rfl
      exact Letter.holds marks float.exponent.mark
    · rw [point]
      rfl
  have power := takes_exponent_iff.mpr ⟨float.exponent.power, rfl, rfl,
    stops_spelling float.suffix (by decide) (stops_group word)⟩
  unfold hexadecimal
  refine units.bind ((Takes.next _).bind (.of_pos goesOn (taken.bind ?_)))
  rw [Takes.optional_iff]
  refine ⟨_, _, places, (Takes.require nonempty _).bind ?_⟩
  refine (Takes.takeIf ((marksBinary_iff _).mpr float.exponent.mark.property) _).bind
    ((Takes.require rfl _).bind (power.bind ((takes_floatSuffix float.suffix word).bind
      ((takes_ending word).bind ?_))))
  rw [getD_isDouble]
  exact .pure _ _

theorem takes_hexadecimalInteger (group : Group 16) (suffix : Option LongSuffix) {rest : List Char}
    (word : Stops isIdentifierPart rest) (noPoint : Stops (· == '.') (spelling suffix ++ rest)) :
    Takes hexadecimal (group.text ++ (spelling suffix ++ rest))
      (.integer 16 group.digits suffix.isSome) rest := by
  have units := takes_group group
    (stops_spelling suffix (by decide) (stops_group word))
  have noMark : Stops (fun c => c == 'p' || c == 'P') (spelling suffix ++ rest) :=
    stops_spelling suffix (by decide) (stops_letters marksBinary_iff (by decide) word)
  have noFloat : Stops (fun c => c == '.' || c == 'p' || c == 'P') (spelling suffix ++ rest) := by
    cases after : spelling suffix ++ rest with
    | nil => rfl
    | cons c more =>
        rw [after, Stops.cons_iff] at noPoint noMark
        rw [Stops.cons_iff, Bool.or_assoc, noPoint, noMark, Bool.or_false]
  unfold hexadecimal
  refine units.bind ((Takes.next _).bind ?_)
  rw [if_neg (Bool.eq_false_iff.mp noFloat)]
  exact (Takes.require (by simpa using group.digits_ne_nil) _).bind
    ((takes_longSuffix suffix word).bind ((takes_ending word).bind (.pure _ _)))

theorem takes_binaryInteger (group : Group 2) (suffix : Option LongSuffix) {rest : List Char}
    (word : Stops isIdentifierPart rest) :
    Takes binary (group.text ++ (spelling suffix ++ rest))
      (.integer 2 group.digits suffix.isSome) rest :=
  (takes_group group (stops_spelling suffix (by decide) (stops_group word))).bind
    ((Takes.require (by simpa using group.digits_ne_nil) _).bind
      ((takes_longSuffix suffix word).bind ((takes_ending word).bind (.pure _ _))))

/-! ## Marks -/

theorem takes_cons_cons_iff {reader other : Reader Numeral} {c d : Char} {text rest : List Char}
    {numeral : Numeral}
    (reads : reader (c :: d :: text) = ⟨(other text).value, (other text).size + 2⟩) :
    Takes reader (c :: d :: text) numeral rest ↔ Takes other text numeral rest := by
  constructor
  · intro takes
    obtain ⟨front, whole, found⟩ := takes
    rw [reads] at found
    have size := congrArg Reading.size found
    have value := congrArg Reading.value found
    rcases front with _ | ⟨_, _ | ⟨_, left⟩⟩
    · cases size
    · cases size
    · rw [List.cons_append, List.cons_append] at whole
      refine ⟨left, (List.cons.inj (List.cons.inj whole).2).2, ?_⟩
      cases reading : other text with
      | mk found taken =>
          rw [reading] at size value
          dsimp only at size value
          rw [value, Nat.add_right_cancel size]
  · intro takes
    obtain ⟨front, rfl, found⟩ := takes
    exact ⟨c :: d :: front, rfl, by rw [reads, found]; rfl⟩

theorem takes_read_hexadecimal_iff (mark : Letter ['x', 'X']) {text rest : List Char}
    {numeral : Numeral} :
    Takes read ('0' :: mark.val :: text) numeral rest ↔ Takes hexadecimal text numeral rest := by
  apply takes_cons_cons_iff
  have marked : (mark.val == 'x' || mark.val == 'X') = true := by simpa using mark.property
  simp [read, marked]

theorem takes_read_binary_iff (mark : Letter ['b', 'B']) {text rest : List Char}
    {numeral : Numeral} :
    Takes read ('0' :: mark.val :: text) numeral rest ↔ Takes binary text numeral rest := by
  apply takes_cons_cons_iff
  have marked : (mark.val == 'b' || mark.val == 'B') = true := by simpa using mark.property
  have other : ['b', 'B'].any (fun c => c == 'x' || c == 'X') = false := rfl
  simp [read, marked, Letter.refuses other mark]

theorem marked_or_read_eq_decimal (text : List Char) :
    (∃ mark : Letter ['x', 'X'], ∃ rest, text = '0' :: mark.val :: rest) ∨
      (∃ mark : Letter ['b', 'B'], ∃ rest, text = '0' :: mark.val :: rest) ∨
        read text = decimal text := by
  unfold read
  split
  case h_1 mark rest =>
    by_cases hexadecimal : mark ∈ ['x', 'X']
    · exact .inl ⟨⟨mark, hexadecimal⟩, rest, rfl⟩
    by_cases binary : mark ∈ ['b', 'B']
    · exact .inr (.inl ⟨⟨mark, binary⟩, rest, rfl⟩)
    · refine .inr (.inr ?_)
      simp only [List.mem_cons, List.not_mem_nil, or_false] at hexadecimal binary
      rw [if_neg (by simpa using hexadecimal), if_neg (by simpa using binary)]
  case h_2 => exact .inr (.inr rfl)

theorem not_takes_decimal_marked {mark : Char} (marked : mark ∈ ['x', 'X', 'b', 'B'])
    {text rest : List Char} {numeral : Numeral} :
    ¬ Takes decimal ('0' :: mark :: text) numeral rest := by
  have reads : decimal ('0' :: mark :: text) = ⟨none, 1⟩ := by
    simp only [List.mem_cons, List.not_mem_nil, or_false] at marked
    rcases marked with rfl | rfl | rfl | rfl <;> rfl
  intro takes
  obtain ⟨_, _, found⟩ := takes
  cases reads.symm.trans found

/-! ## The grammar -/

/-- Every literal is read where it ends. -/
theorem takes_read (number : Number) {rest : List Char} (ends : number.Ends rest) :
    Takes read (number.text ++ rest) number.numeral rest := by
  have word : Stops isIdentifierPart rest := ends.word
  have unmarked : ∀ {text : List Char} {numeral : Numeral}, Takes decimal text numeral rest →
      Takes read text numeral rest := by
    intro text numeral takes
    rcases marked_or_read_eq_decimal text with ⟨mark, after, rfl⟩ | ⟨mark, after, rfl⟩ | same
    · exact absurd takes (not_takes_decimal_marked (List.mem_append_left _ mark.property))
    · exact absurd takes (not_takes_decimal_marked (List.mem_append_right ['x', 'X'] mark.property))
    · obtain ⟨front, whole, found⟩ := takes
      exact ⟨front, whole, same.trans found⟩
  cases number with
  | decimalFloat float => exact unmarked (takes_decimalFloat float word)
  | hexadecimalFloat float =>
      simp only [Number.text, HexadecimalFloat.text, List.cons_append, List.append_assoc]
      exact (takes_read_hexadecimal_iff float.mark).mpr (takes_hexadecimalFloat float word)
  | integer literal =>
      obtain ⟨digits, suffix⟩ := literal
      simp only [Number.text, Integer.text, List.append_assoc]
      cases digits with
      | decimal group leads =>
          exact unmarked ((takes_decimalInteger_iff group suffix word (stops_point rfl ends)).mpr
            (takes_unmarked_iff.mpr ⟨rfl, .inr ⟨leads, rfl⟩⟩))
      | octal group leads =>
          have decimal : Grouped 10 group.text := group.grouped.of_digits fun c member =>
            isDigitOf_mono (by decide) (List.all_eq_true.mp group.all_digits c member)
          exact unmarked ((takes_decimalInteger_iff ⟨group.text, decimal⟩ suffix word
            (stops_point rfl ends)).mpr
            (takes_unmarked_iff.mpr ⟨rfl, .inl ⟨leads, group.all_digits, rfl⟩⟩))
      | hexadecimal mark group =>
          exact (takes_read_hexadecimal_iff mark).mpr
            (takes_hexadecimalInteger group suffix word (stops_point rfl ends))
      | binary mark group =>
          exact (takes_read_binary_iff mark).mpr (takes_binaryInteger group suffix word)

/-- The grammar is unambiguous: literals of one spelling are one numeral. -/
theorem numeral_eq_of_text_eq {number other : Number} (same : number.text = other.text) :
    number.numeral = other.numeral := by
  have ends : ∀ number : Number, number.Ends [] := fun _ => ⟨rfl, nofun⟩
  have takes := takes_read other (ends other)
  rw [← same] at takes
  exact ((takes_read number (ends number)).unique takes).1

/-- A text that begins with a number is read as a literal of the grammar or not at all. -/
theorem takes_read_iff {c : Char} {more rest : List Char} {numeral : Numeral}
    (starts : StartsNumber c more) :
    Takes read (c :: more) numeral rest ↔
      ∃ number : Number, c :: more = number.text ++ rest ∧ number.Ends rest ∧
        number.numeral = numeral := by
  constructor
  · intro takes
    rcases marked_or_read_eq_decimal (c :: more) with ⟨mark, after, whole⟩ | ⟨mark, after, whole⟩ |
      same
    · rw [whole] at takes ⊢
      exact exists_number_of_takes_hexadecimal mark ((takes_read_hexadecimal_iff mark).mp takes)
    · rw [whole] at takes ⊢
      exact exists_number_of_takes_binary mark ((takes_read_binary_iff mark).mp takes)
    · obtain ⟨front, whole, found⟩ := takes
      exact exists_number_of_takes_decimal starts ⟨front, whole, same.symm.trans found⟩
  · intro literal
    obtain ⟨number, text, ends, rfl⟩ := literal
    rw [text]
    exact takes_read number ends

/-! ## Scanning -/

theorem kind_eq_of_value? (number : Number) {kind : Kind} {value : Literal}
    (found : number.numeral.value? = some (kind, value)) : kind = number.kind := by
  have floating : ∀ {digits base : Nat} {exponent : Int} {double : Bool},
      (Numeral.floating digits base exponent double).value? = some (kind, value) →
        kind = floatKind double := by
    intro digits base exponent double found
    cases double with
    | true | false =>
        obtain ⟨_, -, same⟩ := Option.map_eq_some_iff.mp found
        exact (Prod.mk.inj same).1.symm
  cases number with
  | decimalFloat _ => exact floating found
  | hexadecimalFloat _ => exact floating found
  | integer literal =>
      simp only [Number.numeral, Integer.numeral, value?] at found
      split at found
      case isTrue => cases found
      case isFalse =>
        simp only [Number.kind, Integer.kind]
        split at found
        · next long =>
          rw [if_pos long]
          exact (Prod.mk.inj (Option.some.inj found)).1.symm
        · next int =>
          rw [if_neg int]
          exact (Prod.mk.inj (Option.some.inj found)).1.symm

section Separated

variable {rest : List Char} (separated : Stops (fun c => isIdentifierPart c || c == '.') rest)

include separated

/-- Every literal ends before a character that neither goes on with a word nor is a point. -/
theorem ends_of_stops (number : Number) : number.Ends rest where
  word := separated.mono fun _ word => by simp [word]
  point _ point := by
    obtain ⟨rest, rfl⟩ := List.head?_eq_some_iff.mp point
    simp at separated

theorem tailSize_eq_zero : tailSize rest = 0 := by
  cases rest with
  | nil => rfl
  | cons c rest =>
      obtain ⟨word, point⟩ := Bool.or_eq_false_iff.mp (Stops.cons_iff.mp separated)
      simp [tailSize, word, point]

end Separated

def result (numeral : Numeral) : Except Cause (Kind × Literal) :=
  match numeral.value? with
  | some found => .ok found
  | none => .error .numberOutOfRange

/-- A literal that was read is scanned to what its numeral gives. -/
theorem scan_of_takes {number : Number} {rest : List Char}
    (takes : Takes read (number.text ++ rest) number.numeral rest) :
    (read (number.text ++ rest)).size = number.text.length ∧
      (scan (number.text ++ rest)).1 = number.numeral.result := by
  obtain ⟨front, whole, found⟩ := takes
  obtain rfl := List.append_cancel_right whole
  rw [scan, found, result]
  dsimp only
  cases number.numeral.value? with
  | some _ => exact ⟨rfl, rfl⟩
  | none => exact ⟨rfl, rfl⟩

/-- A literal is scanned as it is where nothing could go on with it. -/
theorem scan_of_stops (number : Number) {rest : List Char}
    (separated : Stops (fun c => isIdentifierPart c || c == '.') rest) :
    scan (number.text ++ rest) = (number.numeral.result, number.text.length) := by
  obtain ⟨front, whole, found⟩ := takes_read number (ends_of_stops separated number)
  obtain rfl := List.append_cancel_right whole
  rw [scan, found, result]
  dsimp only
  cases number.numeral.value? with
  | some _ => rfl
  | none => simp [tailSize_eq_zero separated]

theorem exists_takes_of_scan {text : List Char}
    (found : ∀ cause, (scan text).1 = .error cause → cause = .numberOutOfRange) :
    ∃ numeral rest, Takes read text numeral rest := by
  cases value : (read text).value with
  | some numeral => exact ⟨numeral, _, .of_regular regular_read value⟩
  | none => cases found .malformedNumber (by rw [scan, value])

end Numeral

/-- The results that scanning a literal may have: a value of its kind, or none in range. -/
def Grammar.Number.Gives (number : Number) : Except Cause (Kind × Literal) → Prop
  | .ok (kind, _) => kind = number.kind
  | .error cause => cause = .numberOutOfRange

theorem Grammar.Number.gives_result (number : Number) : number.Gives number.numeral.result := by
  unfold Numeral.result
  cases value : number.numeral.value? with
  | some result => exact Numeral.kind_eq_of_value? number value
  | none => rfl

open Numeral Lexeme

/-- Numbers are scanned by their grammar. Where a text that begins with a number has a value or is
out of range, a literal was taken, no identifier character follows, and the value is of its kind.
Each literal before the end of the text, or before a character that is neither an identifier
character nor a point, is taken as it is. -/
theorem number_scanned_iff_literal :
    (∀ c more, StartsNumber c more →
      ((∃ kind value, (scan (c :: more)).1 = .ok (kind, value)) ∨
        (scan (c :: more)).1 = .error .numberOutOfRange) →
      ∃ number : Number, ∃ rest, c :: more = number.text ++ rest ∧
        (read (c :: more)).size = number.text.length ∧ number.Gives (scan (c :: more)).1 ∧
        rest.head?.any isIdentifierPart = false) ∧
    (∀ (number : Number) (rest : List Char),
      rest.head?.any (fun c => isIdentifierPart c || c == '.') = false →
      (read (number.text ++ rest)).size = number.text.length ∧
        number.Gives (scan (number.text ++ rest)).1 ∧
        (scan (number.text ++ rest)).2 = number.text.length) := by
  constructor
  · intro c more starts found
    have inRange : ∀ cause, (scan (c :: more)).1 = .error cause → cause = .numberOutOfRange := by
      intro cause failed
      rcases found with ⟨kind, value, found⟩ | found
      · cases failed.symm.trans found
      · exact Except.error.inj (failed.symm.trans found)
    obtain ⟨numeral, rest, takes⟩ := exists_takes_of_scan inRange
    obtain ⟨number, text, ends, rfl⟩ := (takes_read_iff starts).mp takes
    rw [text] at takes ⊢
    obtain ⟨size, result⟩ := scan_of_takes takes
    exact ⟨number, rest, rfl, size, result ▸ number.gives_result, ends.word⟩
  · intro number rest separated
    have taken := takes_read number (ends_of_stops separated number)
    rw [scan_of_stops number separated]
    exact ⟨(scan_of_takes taken).1, number.gives_result, rfl⟩

/-- `0x1.8p1f`, whose digits go up to the point and whose last letter is no digit. -/
def Grammar.HexadecimalFloat.three : HexadecimalFloat where
  mark := ⟨'x', by decide⟩
  significand := .inner ⟨['1'], .single rfl⟩ ⟨['8'], .single rfl⟩
  exponent := ⟨⟨'p', by decide⟩, none, ['1'], .single rfl⟩
  suffix := some ⟨'f', by decide⟩

theorem number_scanned_iff_literal_three :
    (scan "1_0L+2".toList).1 = .ok (.longLiteral, .long 10#64) ∧
      (∃ number : Number, ∃ rest, "1_0L+2".toList = number.text ++ rest ∧
        (read "1_0L+2".toList).size = number.text.length ∧
        number.Gives (scan "1_0L+2".toList).1 ∧ rest.head?.any isIdentifierPart = false) ∧
      (scan "0x1.8p1f+2".toList).1 = .ok (.floatLiteral, .float 0x40400000#32) ∧
      (scan "0x1.8p1f+2".toList).2 = 8 := by
  have long := number_scanned_iff_literal.1 '1' "_0L+2".toList (.inl (by decide))
    (.inl ⟨.longLiteral, .long 10#64, rfl⟩)
  have three := number_scanned_iff_literal.2 (.hexadecimalFloat .three) ['+', '2'] (by decide)
  exact ⟨rfl, long, rfl, three.2.2⟩

end JavaLex
