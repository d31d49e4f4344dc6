import JavaLex.Proofs.Front.Lexeme

/-! # Lexemes end with their line

No lexeme but a comment or a string reaches past a line feed, and those two report it if the text
ends before they do. So whatever is read at the end of a text, it reads the same if a line feed and
more text follow, unless it has a fault that ends the scan.
-/

namespace JavaLex

open Charset

/-! ## Escapes -/

namespace Escape

theorem Spells.lineFeed_not_mem {raw : List Char} {c : Char} (spells : Spells raw c) :
    '\n' ∉ raw := by
  intro member
  rcases spells.mem member with same | same | digit
  · exact absurd same (by decide)
  · exact absurd same (by decide)
  · exact absurd digit (by decide)

theorem stopsAtLine_decode? : StopsAtLine decode? := by
  have starts : ∀ {text more spelled : List Char} {c : Char}, Spells ('\\' :: spelled) c →
      (spelled <+: text ++ '\n' :: more ↔ spelled <+: text) := fun spells =>
    prefix_append_cons_iff fun member => spells.lineFeed_not_mem (List.mem_cons_of_mem _ member)
  have begins : ∀ {text : List Char} {c : Char} {size : Nat}, decode? text = some (c, size) ↔
      ∃ spelled, spelled <+: text ∧ size = spelled.length ∧ Spells ('\\' :: spelled) c := by
    intro text c size
    rw [decode?_eq_some_iff]
    constructor
    · rintro ⟨spelled, rest, rfl, size, spells⟩
      exact ⟨spelled, List.prefix_append _ _, size, spells⟩
    · rintro ⟨spelled, ⟨rest, rfl⟩, size, spells⟩
      exact ⟨spelled, rest, rfl, size, spells⟩
  intro text more
  apply Option.ext
  rintro ⟨c, size⟩
  rw [begins, begins]
  constructor
  · rintro ⟨spelled, front, size, spells⟩
    exact ⟨spelled, (starts spells).mp front, size, spells⟩
  · rintro ⟨spelled, front, size, spells⟩
    exact ⟨spelled, (starts spells).mpr front, size, spells⟩

end Escape

/-- A line feed parts two texts that are translated by themselves: it belongs to no escape, and no
backslash stands right before what follows it. -/
theorem Cell.translateAfter_append_lineFeed (odd : Bool) (text more : List Char) :
    translateAfter odd (text ++ '\n' :: more) =
      translateAfter odd text ++ verbatim '\n' :: translate more := by
  have head : ∀ rest : List Char, ((rest ++ '\n' :: more).head? == some 'u') =
      (rest.head? == some 'u') :=
    fun rest => StopsAtLine.head? (p := (· == some 'u')) rfl rest more
  fun_induction translateAfter odd text with
  | case1 => simp [translateAfter, translate]
  | case2 odd c rest starts decoded size found ih =>
      obtain ⟨spelled, rest, rfl, rfl, -⟩ := Escape.decode?_eq_some_iff.mp found
      rw [List.cons_append, translateAfter, head, if_pos starts, Escape.stopsAtLine_decode?, found]
      simp only [List.append_assoc, List.take_left, List.drop_left] at ih ⊢
      rw [ih, List.cons_append]
  | case3 odd c rest starts missing ih =>
      rw [List.cons_append, translateAfter, head, if_pos starts, Escape.stopsAtLine_decode?,
        missing]
      dsimp only
      rw [ih, List.cons_append]
  | case4 odd c rest closed ih =>
      rw [List.cons_append, translateAfter, head, if_neg closed, ih, List.cons_append]

/-! ## Separators -/

/-- Separators that fill a line are passed with the line feed and the separators after it. -/
theorem blankSize_append_lineFeed {text : List Char} (more : List Char)
    (ends : text.getLast? ≠ some substitute) :
    blankSize (text ++ '\n' :: more) =
      if blankSize text < text.length then blankSize text
      else text.length + 1 + blankSize more := by
  induction text with
  | nil =>
      have feed : isBlank '\n' = true := rfl
      simp [blankSize, feed]
      omega
  | cons c text ih =>
      have last : (c == substitute && (text ++ '\n' :: more).isEmpty) =
          (c == substitute && text.isEmpty) := by
        cases text with
        | nil => simpa using ends
        | cons d text => rfl
      have later : text.getLast? ≠ some substitute := by
        cases text with
        | nil => simp
        | cons d text => simpa using ends
      rw [List.cons_append, blankSize, blankSize, last, ih later]
      split
      · rw [List.length_cons]
        split
        · rw [if_pos (by omega)]
        · rw [if_neg (by omega)]
          omega
      · rw [if_pos (by simp)]

/-! ## Literals -/

namespace Quoted

theorem stopsAtLine_escape : StopsAtLine escape := by
  intro text more
  cases text with
  | nil => rfl
  | cons c text =>
      have run : ∀ limit, ((c :: (text ++ '\n' :: more)).take limit).takeWhile (isDigitOf 8) =
          ((c :: text).take limit).takeWhile (isDigitOf 8) :=
        fun limit => StopsAtLine.take_takeWhile (by decide) limit (c :: text) more
      simp only [List.cons_append, escape, run]

theorem body_append_lineFeed {index : Nat} {text : List Char} (more : List Char)
    (ended : (body index text).stop ≠ .inputEnd) :
    body index (text ++ '\n' :: more) = body index text := by
  fun_induction body index text with
  | case1 => exact absurd rfl ended
  | case2 index c rest quote => rw [List.cons_append, body, if_pos quote]
  | case3 index c rest quote ends => rw [List.cons_append, body, if_neg quote, if_pos ends]
  | case4 index c rest quote goesOn backslash sequence tail decoded found ih =>
      have later : body (index + 1 + sequence.2) (rest.drop sequence.2 ++ '\n' :: more) = tail :=
        ih ended
      rw [List.cons_append, body, if_neg quote, if_neg goesOn, if_pos backslash,
        stopsAtLine_escape]
      dsimp only
      rw [found, List.drop_append_of_le_length (size_escape_le rest), later]
  | case5 index c rest quote goesOn backslash sequence tail illegal found ih =>
      have later : body (index + 1 + sequence.2) (rest.drop sequence.2 ++ '\n' :: more) = tail :=
        ih ended
      rw [List.cons_append, body, if_neg quote, if_neg goesOn, if_pos backslash,
        stopsAtLine_escape]
      dsimp only
      rw [found, List.drop_append_of_le_length (size_escape_le rest), later]
  | case6 index c rest quote goesOn plain tail ih =>
      have later : body (index + 1) (rest ++ '\n' :: more) = tail := ih ended
      rw [List.cons_append, body, if_neg quote, if_neg goesOn, if_neg plain, later]

theorem stopsAtLine_closingSize : StopsAtLine closingSize := by
  intro text more
  have run := StopsAtLine.takeWhile (p := fun c => c != '\'' && !isLineTerminator c)
    (by decide) text more
  have within : (text.takeWhile fun c => c != '\'' && !isLineTerminator c).length ≤ text.length :=
    (List.takeWhile_prefix _).length_le
  have closes : ∀ size ≤ text.length,
      ((text ++ '\n' :: more)[size]? == some '\'') = (text[size]? == some '\'') := by
    intro size bound
    have next := StopsAtLine.head? (p := (· == some '\'')) rfl (text.drop size) more
    rwa [← List.drop_append_of_le_length bound, List.head?_drop, List.head?_drop] at next
  unfold closingSize
  rw [run]
  dsimp only
  rw [closes _ within]

theorem stopsAtLine_character : StopsAtLine character := by
  intro text more
  cases text with
  | nil => rfl
  | cons c text =>
      rw [List.cons_append, character, character]
      dsimp only
      rw [stopsAtLine_escape]
      generalize unitEq : (if (c == '\\') = true then ((escape text).1, (escape text).2 + 1)
        else ((Except.ok c, 1) : Except Char Char × Nat)) = unit
      have within : unit.2 ≤ (c :: text).length := by
        have taken := size_escape_le text
        rw [← unitEq, List.length_cons]
        split
        · exact Nat.succ_le_succ taken
        · exact Nat.succ_le_succ (Nat.zero_le _)
      have after : (c :: (text ++ '\n' :: more)).drop unit.2 =
          (c :: text).drop unit.2 ++ '\n' :: more := by
        rw [← List.cons_append, List.drop_append_of_le_length within]
      have next := StopsAtLine.head? (p := (· == some '\'')) rfl ((c :: text).drop unit.2) more
      rw [after, stopsAtLine_closingSize, next]

end Quoted

namespace Numeral

theorem stopsAtLine_tailSize : StopsAtLine tailSize := by
  intro text more
  induction text with
  | nil => rfl
  | cons c text ih =>
      have next := StopsAtLine.head? (p := fun d => d.any Char.isDigit) rfl text more
      rw [List.cons_append, tailSize, tailSize, ih, next]

theorem stopsAtLine_scan : StopsAtLine scan := by
  intro text more
  have reads := regular_read.stopsAtLine text more
  have within := regular_read.size_le text
  unfold scan
  simp only [reads, List.drop_append_of_le_length within, stopsAtLine_tailSize _ _]

end Numeral

/-! ## Lexemes -/

namespace Lexeme

theorem stopsAtLine_malformedEscape : StopsAtLine malformedEscape := by
  intro text more
  have marks := StopsAtLine.takeWhile (p := (· == 'u')) (by decide) text more
  have within := (List.takeWhile_prefix (l := text) (· == 'u')).length_le
  have digits := StopsAtLine.take_takeWhile (p := isDigitOf 16) (by decide) 4
    (text.drop (text.takeWhile (· == 'u')).length) more
  rw [← List.drop_append_of_le_length within] at digits
  rw [malformedEscape, malformedEscape, marks, digits]

theorem closing?_append {text : List Char} {size : Nat} (closes : closing? text = some size)
    (more : List Char) : closing? (text ++ more) = some size := by
  induction text generalizing size with
  | nil => cases closes
  | cons c text ih =>
      rw [closing?] at closes
      rw [List.cons_append, closing?]
      split at closes
      · next ends =>
        obtain ⟨star, slash⟩ := Bool.and_eq_true_iff.mp ends
        obtain ⟨rest, rfl⟩ := List.head?_eq_some_iff.mp (eq_of_beq slash)
        rw [if_pos (by simpa using star)]
        exact closes
      · next goesOn =>
        obtain ⟨size, later, rfl⟩ := Option.map_eq_some_iff.mp closes
        obtain ⟨d, rest, rfl⟩ : ∃ d rest, text = d :: rest := by
          cases text with
          | nil => cases later
          | cons d rest => exact ⟨d, rest, rfl⟩
        rw [if_neg (by simpa using goesOn), ih later]
        rfl

theorem blockComment_append {text : List Char}
    (closed : ∀ fault ∈ (blockComment text).outcome.faults, fault.recoverable = true)
    (more : List Char) : blockComment (text ++ more) = blockComment text := by
  unfold blockComment at closed ⊢
  cases closes : closing? text with
  | none =>
      rw [closes] at closed
      exact absurd (closed _ List.mem_cons_self) (by decide)
  | some size =>
      have style : blockStyle (text ++ more) = blockStyle text := by
        match text with
        | [] => cases closes
        | [c] => simp [closing?] at closes
        | c :: d :: text =>
            by_cases star : c = '*'
            · by_cases slash : d = '/' <;> simp [blockStyle, star, slash]
            · simp [blockStyle, star]
      rw [closing?_append closes, style]

theorem string_append_lineFeed {text : List Char}
    (closed : ∀ fault ∈ (string text).outcome.faults, fault.recoverable = true)
    (more : List Char) : string (text ++ '\n' :: more) = string text := by
  have ended : (Quoted.body 1 text).stop ≠ .inputEnd := by
    intro cut
    rw [string, cut] at closed
    exact absurd (closed _ List.mem_cons_self) (by decide)
  rw [string, string, Quoted.body_append_lineFeed more ended]

theorem stopsAtLine_character : StopsAtLine character := by
  intro text more
  rw [character, character, Quoted.stopsAtLine_character]

theorem stopsAtLine_number : StopsAtLine number := by
  intro text more
  rw [number, number, Numeral.stopsAtLine_scan]

theorem stopsAtLine_lineComment : StopsAtLine lineComment := by
  intro text more
  rw [lineComment, lineComment, StopsAtLine.takeWhile (by decide)]

theorem stopsAtLine_word : StopsAtLine word := by
  intro text more
  rw [word, word, StopsAtLine.takeWhile (by decide)]

theorem stopsAtLine_symbol (c : Char) : StopsAtLine (symbol c) := by
  intro text more
  have found := Operator.stopsAtLine_longest? (c :: text) more
  rw [List.cons_append] at found
  rw [symbol, symbol, found]

theorem StartsNumber.append {c : Char} {rest : List Char} (start : StartsNumber c rest)
    (more : List Char) : StartsNumber c (rest ++ more) := by
  rcases start with digit | ⟨point, fraction⟩
  · exact .inl digit
  · obtain ⟨d, head, digit⟩ := (Option.any_eq_true _ _).mp fraction
    obtain ⟨rest, rfl⟩ := List.head?_eq_some_iff.mp head
    exact .inr ⟨point, digit⟩

/-- A lexeme at the end of a text is the same before a line feed, unless it ends the scan. -/
theorem read_append_lineFeed {c : Char} {rest : List Char}
    (recoverable : ∀ fault ∈ (read c rest).outcome.faults, fault.recoverable = true)
    (more : List Char) : read c (rest ++ '\n' :: more) = read c rest := by
  have reads := readAs_read c rest
  generalize read c rest = lexeme at reads recoverable
  cases reads with
  | lineComment text =>
      rw [← stopsAtLine_lineComment text more]
      exact (ReadAs.lineComment _).read_eq
  | blockComment text =>
      rw [← blockComment_append recoverable ('\n' :: more)]
      exact (ReadAs.blockComment _).read_eq
  | string text =>
      rw [← string_append_lineFeed recoverable more]
      exact (ReadAs.string _).read_eq
  | character text =>
      rw [← stopsAtLine_character rest more]
      exact (ReadAs.character _).read_eq
  | number start =>
      rw [← stopsAtLine_number (c :: rest) more]
      exact (ReadAs.number (StartsNumber.append start _)).read_eq
  | word _ start =>
      rw [← stopsAtLine_word rest more]
      exact (ReadAs.word _ start).read_eq
  | symbol start =>
      rw [← stopsAtLine_symbol c rest more]
      refine (ReadAs.symbol (start.of_head? fun d found => ?_)).read_eq
      cases rest with
      | nil =>
          obtain rfl : '\n' = d := Option.some.inj found
          exact .inr (by decide)
      | cons e rest => exact .inl found

end Lexeme

end JavaLex
