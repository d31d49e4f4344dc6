import JavaLex.Proofs.Front.Compound
import JavaLex.Proofs.Scan.WellFormed

/-! # Splitting scanned symbols

A token does not record whether it was written with escapes: its span tells, because an escape takes
more bytes than its character. A scanned compound symbol is therefore split exactly if all of it is
written as it is, and then both parts stand in the raw text as scanned tokens do.
-/

namespace JavaLex

/-! ## Where a token stands -/

/-- The cells that a token is made of, between those before and those after it, with its place. -/
structure Token.MadeOf (unit : SourceUnit) (token : Token) (before cells after : List Cell) :
    Prop where
  whole : Cell.translate unit.chars = before ++ cells ++ after
  text : token.text = String.ofList (cells.map Cell.char)
  span : token.span =
    ⟨byteSize (before.flatMap Cell.raw), byteSize ((before ++ cells).flatMap Cell.raw)⟩
  position : token.position = unit.position (byteSize (before.flatMap Cell.raw))

/-- The raw text has the text of the token in its span and gives the place of its start, and no
counter exceeds the size of the text by more than one. -/
structure Token.StandsIn (unit : SourceUnit) (token : Token) : Prop where
  slice : slice? token.span.start token.span.stop unit.chars = some token.text.toList
  position : token.position = unit.position token.span.start
  line_le : token.line ≤ unit.size + 1
  column_le : token.column ≤ unit.size + 1

theorem SourceUnit.offset_position_of_append (unit : SourceUnit) {done rest : List Char}
    (whole : unit.chars = done ++ rest) :
    (unit.position (byteSize done)).offset = byteSize done := by
  have within : byteSize done ≤ unit.size := by
    rw [SourceUnit.size, whole, byteSize_append]
    exact Nat.le_add_right _ _
  exact Nat.min_eq_left within

theorem Token.standsIn_plain (unit : SourceUnit) {done rest : List Char} {symbol : Operator}
    (whole : unit.chars = done ++ symbol.chars ++ rest) :
    (plain (.operator symbol) symbol.spelling ⟨byteSize done, byteSize (done ++ symbol.chars)⟩
      (unit.position (byteSize done))).StandsIn unit where
  slice := by
    have cut := slice?_append done symbol.chars rest
    rwa [← whole] at cut
  position := by
    rw [List.append_assoc] at whole
    have offset := unit.offset_position_of_append whole
    exact congrArg (Position.mk · _ _) offset.symm
  line_le := unit.line_position_le _
  column_le := unit.column_position_le _

namespace Scanner

variable {unit : SourceUnit} {scanner later : Scanner} {index : Nat} {token : Token}

theorem StandsAt.madeOf (stands : StandsAt unit index scanner) {c : Char} {rest : List Char}
    (chars : scanner.atLexeme.chars = c :: rest)
    (accepts : Accepts scanner scanner.atLexeme (scanner.atLexeme.lexeme c rest) (some token)
      later) : ∃ before cells after, token.MadeOf unit before cells after := by
  have fits := stands.fits chars accepts
  have place := accepts.position_eq
  rw [stands.atLexeme, unit.position_advance_cursor] at place
  generalize index + Charset.blankSize scanner.cursor.chars = first at fits place
  generalize (scanner.atLexeme.lexeme c rest).size = count at fits
  have front : (Cell.translate unit.chars).take (first + count) =
      (Cell.translate unit.chars).take first ++
        ((Cell.translate unit.chars).drop first).take count := List.take_add
  refine ⟨_, ((Cell.translate unit.chars).drop first).take count,
    (Cell.translate unit.chars).drop (first + count), ?whole, ?text, ?span, place⟩
  case whole => rw [← front, List.take_append_drop]
  case text =>
    rw [fits.text, List.extract_eq_take_drop, Nat.add_sub_cancel_left, List.map_take,
      List.map_drop]
  case span =>
    rw [fits.span, ← front]
    rfl

theorem madeOf_eof (unit : SourceUnit) :
    (Token.eof unit.endPosition).MadeOf unit (Cell.translate unit.chars) [] [] where
  whole := by simp
  text := rfl
  span := by
    rw [List.append_nil, Cell.raw_translate]
    exact congrArg (fun offset => Span.mk offset offset) unit.offset_endPosition
  position := by
    rw [Cell.raw_translate]
    rfl

theorem Gives.exists_madeOf (gives : Gives scanner token later)
    (stands : StandsWithin unit index scanner) :
    ∃ before cells after, token.MadeOf unit before cells after := by
  induction gives generalizing index with
  | exhausted =>
      rw [stands.source]
      exact ⟨_, _, _, madeOf_eof unit⟩
  | ended _ ended =>
      rw [stands.position_atLexeme ended]
      exact ⟨_, _, _, madeOf_eof unit⟩
  | token passes =>
      obtain ⟨-, ⟨c, rest, chars, rfl⟩, accepts⟩ := passes
      exact stands.madeOf chars accepts
  | skipped passes _ ih =>
      obtain ⟨first, -, -, -, goesOn⟩ := stands.passes passes
      exact ih goesOn

end Scanner

/-! ## Splitting -/

namespace Token.MadeOf

variable {unit : SourceUnit} {token : Token} {before cells after : List Cell} {symbol : Operator}

theorem wellSpelled (made : token.MadeOf unit before cells after) :
    ∀ cell ∈ cells, cell.WellSpelled := by
  intro cell member
  have listed : cell ∈ Cell.translate unit.chars := by
    rw [made.whole]
    exact List.mem_append_left _ (List.mem_append_right _ member)
  exact Cell.wellSpelled_of_mem_translate listed

theorem size_span (made : token.MadeOf unit before cells after) :
    token.span.size = byteSize (cells.flatMap Cell.raw) := by
  rw [made.span, Span.size, List.flatMap_append, byteSize_append, Nat.add_sub_cancel_left]

theorem chars_eq (made : token.MadeOf unit before cells after)
    (text : token.text = symbol.spelling) : cells.map Cell.char = symbol.chars := by
  rw [Operator.chars, ← text, made.text, String.toList_ofList]

/-- The span of a symbol has a byte for each character exactly if no character is an escape. -/
theorem size_span_eq_iff (made : token.MadeOf unit before cells after)
    (text : token.text = symbol.spelling) :
    token.span.size = symbol.size ↔ ∀ cell ∈ cells, ¬ Escape.Spells cell.raw cell.char := by
  rw [made.size_span, ← symbol.byteSize_chars, ← made.chars_eq text]
  exact Cell.byteSize_raw_eq_chars_iff made.wellSpelled

/-- Both parts of a symbol written as it is stand in the raw text. -/
theorem standsIn_parts (made : token.MadeOf unit before cells after)
    (text : token.text = symbol.spelling) {first second : Operator}
    (splits : symbol.SplitsInto first second)
    (written : ∀ cell ∈ cells, ¬ Escape.Spells cell.raw cell.char) :
    (plain (.operator first) first.spelling ⟨token.span.start, token.span.start + 1⟩
        token.position).StandsIn unit ∧
      (plain (.operator second) second.spelling ⟨token.span.start + 1, token.span.stop⟩
        ⟨token.span.start + 1, token.line, token.column + 1⟩).StandsIn unit := by
  have raw : cells.flatMap Cell.raw = first.chars ++ second.chars := by
    rw [Cell.flatMap_raw_of_plain made.wellSpelled written, made.chars_eq text,
      splits.chars_append]
  obtain ⟨done, doneEq⟩ : ∃ done, before.flatMap Cell.raw = done := ⟨_, rfl⟩
  have whole : unit.chars =
      done ++ first.chars ++ (second.chars ++ after.flatMap Cell.raw) := by
    rw [← Cell.raw_translate unit.chars, made.whole, List.flatMap_append, List.flatMap_append,
      raw, doneEq]
    simp only [List.append_assoc]
  have start : token.span.start = byteSize done := by rw [made.span, doneEq]
  have stop : token.span.stop = byteSize (done ++ first.chars ++ second.chars) := by
    rw [made.span, List.flatMap_append, raw, doneEq, List.append_assoc]
  have middle : byteSize done + 1 = byteSize (done ++ first.chars) := by
    rw [byteSize_append, first.byteSize_chars, splits.size_first]
  have place : token.position = unit.position (byteSize done) := by rw [made.position, doneEq]
  constructor
  · have stands := standsIn_plain unit whole
    rwa [← middle, ← place, ← start] at stands
  · -- the first part ends no line, so the place behind it is one column further
    have moved := unit.position_append whole fun c member =>
      Operator.isLineTerminator_of_mem_chars member
    have length : first.chars.length = 1 := splits.size_first
    rw [← List.append_assoc] at whole
    have stands := standsIn_plain unit whole
    rw [moved, ← place, ← middle, ← stop, length] at stands
    rwa [← start] at stands

end Token.MadeOf

/-- A scanned token is split exactly if it is a symbol whose first character and rest are symbols
and no character of it is written as an escape. The texts of the parts make up its text, their
spans its span, and both parts stand in the raw text. -/
theorem split?_scanned (unit : SourceUnit) (options : Options) (token : Token)
    (given : token ∈ (unit.tokenize options).tokens ∨
      ∃ count, token ∈ unit.firstTokens options count) :
    ∃ before cells after, token.MadeOf unit before cells after ∧
      (token.split?.isSome = true ↔
        ∃ symbol first second, token.kind = .operator symbol ∧ symbol.SplitsInto first second ∧
          ∀ cell ∈ cells, ¬ Escape.Spells cell.raw cell.char) ∧
      ∀ head tail, token.split? = some (head, tail) →
        head.text ++ tail.text = token.text ∧ head.span.start = token.span.start ∧
          head.span.stop = tail.span.start ∧ tail.span.stop = token.span.stop ∧
          head.StandsIn unit ∧ tail.StandsIn unit := by
  obtain ⟨count, member⟩ : ∃ count, token ∈ unit.firstTokens options count := by
    rcases given with scanned | called
    · obtain ⟨count, -, tokens, -⟩ := unit.exists_calls_tokenize options
      exact ⟨count, tokens ▸ scanned⟩
    · exact called
  obtain ⟨_, _, stands, gives⟩ := unit.exists_gives_of_mem options count member
  obtain ⟨before, cells, after, made⟩ := gives.exists_madeOf stands
  have fixed := (unit.wellFormed_firstTokens options count token member).fixedText
  have text : ∀ {symbol}, token.kind = .operator symbol → token.text = symbol.spelling :=
    fun kind => fixed _ (by rw [kind]; rfl)
  refine ⟨before, cells, after, made, ?splits, fun head tail found => ?parts⟩
  case splits =>
    rw [Token.isSome_split?_iff]
    constructor
    · rintro ⟨symbol, first, second, kind, splits, size⟩
      exact ⟨symbol, first, second, kind, splits, (made.size_span_eq_iff (text kind)).mp size⟩
    · rintro ⟨symbol, first, second, kind, splits, written⟩
      exact ⟨symbol, first, second, kind, splits, (made.size_span_eq_iff (text kind)).mpr written⟩
  case parts =>
    obtain ⟨symbol, first, second, kind, splits, size, rfl, rfl⟩ :=
      Token.split?_eq_some_iff.mp found
    have written := (made.size_span_eq_iff (text kind)).mp size
    obtain ⟨here, next⟩ := made.standsIn_parts (text kind) splits written
    refine ⟨?_, rfl, rfl, rfl, here, next⟩
    rw [text kind, ← String.toList_inj, String.toList_append]
    exact splits.chars_append

example : ((SourceUnit.tokenize ⟨"Types.java", "a>\\u003eb"⟩ .usual).tokens.map
    fun token => (token.text, token.split?.isSome)) =
      [("a", false), (">>", false), ("b", false), ("", false)] := by
  decide +kernel

/-- A shift between two identifiers is split into its two characters. -/
theorem split?_scanned_shift :
    ∃ token ∈ (SourceUnit.tokenize ⟨"Types.java", "a>>b"⟩ .usual).tokens,
      token.split?.isSome = true ∧
        ∀ head tail, token.split? = some (head, tail) → head.text ++ tail.text = ">>" :=
  ⟨⟨.operator .rightShift, ">>", ⟨1, 3⟩, 1, 2, none, none, none⟩, by decide +kernel, rfl,
    fun head tail found =>
      have ⟨_, _, _, _, _, parts⟩ := split?_scanned ⟨"Types.java", "a>>b"⟩ .usual
        ⟨.operator .rightShift, ">>", ⟨1, 3⟩, 1, 2, none, none, none⟩
        (.inl (by decide +kernel))
      (parts head tail found).1⟩

end JavaLex
