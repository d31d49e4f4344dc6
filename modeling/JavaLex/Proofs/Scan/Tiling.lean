import JavaLex.Proofs.Scan.Extent
import JavaLex.Proofs.Scan.Place

/-! # Tokens tile the text

With comments kept, every character of a translated text belongs to exactly one token or separates
tokens. A tile is a token with the characters it covers; a scan lays tiles side by side to the end
of the text, whatever is malformed in it.
-/

namespace JavaLex

open Charset

/-! ## Tiles -/

/-- The character at an index may stand outside of all tokens: a blank, or U+001A as the last
character. -/
def Separates (chars : List Char) (index : Nat) : Prop :=
  ∃ c, chars[index]? = some c ∧
    (c ∈ [' ', '\t', '\x0c', '\r', '\n'] ∨ (c = '\x1a' ∧ index + 1 = chars.length))

/-- A token with the indices of its first character and of the one after its last. -/
structure Tile where
  token : Token
  first : Nat
  stop : Nat

/-- The token has the characters between the indices, and the bytes of their cells. -/
structure Tile.Fits (cells : List Cell) (tile : Tile) : Prop where
  first_lt_stop : tile.first < tile.stop
  stop_le : tile.stop ≤ cells.length
  text : tile.token.text = String.ofList ((cells.map Cell.char).extract tile.first tile.stop)
  span : tile.token.span = ⟨Cell.rawOffset cells tile.first, Cell.rawOffset cells tile.stop⟩
  isEof : tile.token.isEof = false

/-- Tiles from an index to the end of the text, with separators between them only. -/
inductive Tiles (cells : List Cell) : Nat → List Tile → Prop where
  | done {start : Nat} :
      (∀ index, start ≤ index → index < cells.length → Separates (cells.map Cell.char) index) →
      Tiles cells start []
  | tile {start : Nat} {tile : Tile} {tiles : List Tile} : start ≤ tile.first →
      (∀ index, start ≤ index → index < tile.first → Separates (cells.map Cell.char) index) →
      tile.Fits cells → Tiles cells tile.stop tiles → Tiles cells start (tile :: tiles)

/-- The texts of tiles, with the characters of the text that are left out between them. -/
def weave (chars : List Char) (start : Nat) : List Tile → List Char
  | [] => chars.drop start
  | tile :: tiles =>
      chars.extract start tile.first ++ tile.token.text.toList ++ weave chars tile.stop tiles

private theorem extract_append_drop (chars : List Char) {low high : Nat} (le : low ≤ high) :
    chars.extract low high ++ chars.drop high = chars.drop low := by
  have cut := List.take_append_drop (high - low) (chars.drop low)
  rwa [List.drop_drop, Nat.add_sub_cancel' le] at cut

namespace Tiles

variable {cells : List Cell} {start : Nat} {tiles : List Tile}

theorem fits (tiled : Tiles cells start tiles) : ∀ tile ∈ tiles, tile.Fits cells := by
  induction tiled with
  | done => simp
  | tile _ _ fits _ ih =>
      intro tile member
      rcases List.mem_cons.mp member with rfl | later
      · exact fits
      · exact ih tile later

theorem start_le (tiled : Tiles cells start tiles) : ∀ tile ∈ tiles, start ≤ tile.first := by
  induction tiled with
  | done => simp
  | @tile start first _ begins _ fits _ ih =>
      intro tile member
      rcases List.mem_cons.mp member with rfl | later
      · exact begins
      · have := fits.first_lt_stop
        have := ih tile later
        omega

/-- Tiles do not overlap. -/
theorem pairwise (tiled : Tiles cells start tiles) :
    tiles.Pairwise fun first second => first.stop ≤ second.first := by
  induction tiled with
  | done => exact .nil
  | tile _ _ _ rest ih => exact .cons rest.start_le ih

theorem separates (tiled : Tiles cells start tiles) {index : Nat} (from_start : start ≤ index)
    (bound : index < cells.length)
    (outside : ∀ tile ∈ tiles, ¬ (tile.first ≤ index ∧ index < tile.stop)) :
    Separates (cells.map Cell.char) index := by
  induction tiled with
  | done gap => exact gap index from_start bound
  | @tile start first _ _ gap _ _ ih =>
      by_cases before : index < first.first
      · exact gap index from_start before
      · have past : first.stop ≤ index := by
          have := outside first (by simp)
          omega
        exact ih past fun tile member => outside tile (by simp [member])

/-- Nothing of the text is lost between the tiles. -/
theorem weave_eq (tiled : Tiles cells start tiles) :
    weave (cells.map Cell.char) start tiles = (cells.map Cell.char).drop start := by
  induction tiled with
  | done => rfl
  | @tile start first tiles begins _ fits _ ih =>
      have later := fits.first_lt_stop
      rw [weave, ih, fits.text, String.toList_ofList, List.append_assoc,
        extract_append_drop _ (Nat.le_of_lt later), extract_append_drop _ begins]

end Tiles

/-! ## Separators -/

theorem separates_of_lt_blankSize {text : List Char} {index : Nat} (lt : index < blankSize text) :
    Separates text index := by
  induction text generalizing index with
  | nil => simp [blankSize] at lt
  | cons c rest ih =>
      unfold blankSize at lt
      split at lt
      · next separator =>
        cases index with
        | zero =>
            refine ⟨c, rfl, ?_⟩
            simp only [isBlank, isLineTerminator, substitute, Bool.or_eq_true, Bool.and_eq_true,
              beq_iff_eq, List.isEmpty_iff] at separator
            rcases separator with blank | ⟨last, rfl⟩
            · left
              simp only [List.mem_cons, List.not_mem_nil, or_false]
              grind
            · exact .inr ⟨last, rfl⟩
        | succ index =>
            obtain ⟨d, found, separating⟩ := ih (Nat.lt_of_succ_lt_succ lt)
            refine ⟨d, by simpa using found, ?_⟩
            rcases separating with blank | ⟨last, ends⟩
            · exact .inl blank
            · exact .inr ⟨last, by simp [← ends]⟩
      · omega

theorem Separates.of_drop {chars : List Char} {start index : Nat}
    (separates : Separates (chars.drop start) index) : Separates chars (start + index) := by
  obtain ⟨c, found, separating⟩ := separates
  rw [List.getElem?_drop] at found
  refine ⟨c, found, ?_⟩
  rcases separating with blank | ⟨last, ends⟩
  · exact .inl blank
  · refine .inr ⟨last, ?_⟩
    rw [List.length_drop] at ends
    omega

/-! ## Scans -/

namespace Scanner

variable {unit : SourceUnit} {scanner later last : Scanner} {index : Nat} {tokens : List Token}

theorem StandsAt.separates (stands : StandsAt unit index scanner) {place : Nat}
    (after : index ≤ place) (before : place < index + Charset.blankSize scanner.cursor.chars) :
    Separates ((Cell.translate unit.chars).map Cell.char) place := by
  obtain ⟨more, rfl⟩ := Nat.exists_eq_add_of_le after
  have blank : more < Charset.blankSize scanner.cursor.chars := by omega
  rw [stands.chars] at blank
  exact (separates_of_lt_blankSize blank).of_drop

theorem StandsAt.stop_le (stands : StandsAt unit index scanner) {c : Char} {rest : List Char}
    (chars : scanner.atLexeme.chars = c :: rest) :
    index + Charset.blankSize scanner.cursor.chars + (scanner.atLexeme.lexeme c rest).size ≤
      (Cell.translate unit.chars).length := by
  have length := stands.length_eq chars
  have bound := (scanner.atLexeme.contained_lexeme c rest).size_le
  omega

/-- A lexeme that exhausts the scanner takes the rest of the text. -/
theorem StandsAt.stop_eq (stands : StandsAt unit index scanner) {c : Char} {rest : List Char}
    {result : Option Token} (going : scanner.exhausted = false)
    (chars : scanner.atLexeme.chars = c :: rest)
    (accepts : Accepts scanner scanner.atLexeme (scanner.atLexeme.lexeme c rest) result later)
    (exhausted : later.exhausted = true) :
    index + Charset.blankSize scanner.cursor.chars + (scanner.atLexeme.lexeme c rest).size =
      (Cell.translate unit.chars).length := by
  obtain ⟨fault, member, fatal⟩ := accepts.exists_fatal going exhausted
  rw [Cursor.size_lexeme_of_fatal member fatal, stands.length_eq chars]

theorem StandsAt.fits (stands : StandsAt unit index scanner) {c : Char} {rest : List Char}
    {token : Token} (chars : scanner.atLexeme.chars = c :: rest)
    (accepts : Accepts scanner scanner.atLexeme (scanner.atLexeme.lexeme c rest) (some token)
      later) :
    Tile.Fits (Cell.translate unit.chars)
      ⟨token, index + Charset.blankSize scanner.cursor.chars,
        index + Charset.blankSize scanner.cursor.chars +
          (scanner.atLexeme.lexeme c rest).size⟩ := by
  have positive := scanner.atLexeme.size_lexeme_pos c rest
  have proper := accepts.isEof_eq_false
  have stop := stands.stop_le chars
  generalize scanner.atLexeme.lexeme c rest = lexeme at accepts positive stop
  have text := accepts.text_eq
  have span := accepts.span_eq
  rw [Cursor.textOf, stands.chars_atLexeme] at text
  rw [Cursor.spanOf, stands.atLexeme, ← Cursor.advance_add, unit.offset_advance_cursor,
    unit.offset_advance_cursor] at span
  refine ⟨Nat.lt_add_of_pos_right positive, stop, ?_, span, proper⟩
  rw [text, List.extract_eq_take_drop, Nat.add_sub_cancel_left]

/-- With comments kept, the tokens of a run before the sentinel are the tokens of tiles up to the
end of the text, also when an error cuts the scan short. -/
theorem Run.tiles (run : Run scanner tokens last) (stands : StandsAt unit index scanner)
    (within : index ≤ (Cell.translate unit.chars).length)
    (kept : scanner.options.keepComments = true)
    (whole : scanner.exhausted = true → index = (Cell.translate unit.chars).length) :
    ∃ (tiles : List Tile) (place : Position),
      tokens = tiles.map Tile.token ++ [Token.eof place] ∧ place.offset = unit.size ∧
        Tiles (Cell.translate unit.chars) index tiles := by
  induction run generalizing index with
  | @exhausted scanner exhausted =>
      refine ⟨[], scanner.source.endPosition, rfl, ?_, .done fun other after before => ?_⟩
      · rw [stands.source]
        exact Nat.min_self _
      · have := whole exhausted
        omega
  | @ended scanner _ ended =>
      have past := stands.length_le ended
      refine ⟨[], scanner.atLexeme.position, rfl, ?_, .done fun other after before => ?_⟩
      · rw [stands.atLexeme, unit.offset_advance_cursor, ← Cell.rawOffset_min,
          Nat.min_eq_right past, SourceUnit.rawOffset_length]
      · exact stands.separates after (by omega)
  | skipped _ _ accepts =>
      cases accepts with
      | skipped _ _ dropped => exact absurd (kept.symm.trans dropped) (by decide)
  | @token scanner later last c rest token tokens ready chars accepts _ ih =>
      have fits := stands.fits chars accepts
      have first := fits.first_lt_stop
      have goesOn := ih (stands.accepts accepts) (stands.stop_le chars)
        (by rw [accepts.options_eq, kept]) (stands.stop_eq ready chars accepts)
      obtain ⟨tiles, place, rfl, ends, tiled⟩ := goesOn
      refine ⟨_ :: tiles, place, rfl, ends, .tile (Nat.le_add_right _ _) ?_ fits tiled⟩
      intro other after before
      exact stands.separates after before

end Scanner

/-! ## The tokens of a unit -/

/-- With comments kept, the tokens of a unit before the sentinel tile its translated text: each
has the characters and the bytes of its stretch, no two overlap, and only separators stand outside
of them. The texts of the tokens and the gaps between them make up the translated text again. -/
theorem tokens_tile (unit : SourceUnit) (allowUnderscore : Bool) :
    ∃ (tiles : List Tile) (sentinel : Token),
      (unit.tokenize ⟨true, allowUnderscore⟩).tokens = tiles.map Tile.token ++ [sentinel] ∧
        sentinel.isEof = true ∧ sentinel.span = ⟨unit.size, unit.size⟩ ∧
        (∀ tile ∈ tiles, tile.Fits (Cell.translate unit.chars)) ∧
        tiles.Pairwise (fun first second => first.stop ≤ second.first) ∧
        (∀ index < (Cell.translate unit.chars).length,
          (∀ tile ∈ tiles, ¬ (tile.first ≤ index ∧ index < tile.stop)) →
            Separates ((Cell.translate unit.chars).map Cell.char) index) ∧
        weave ((Cell.translate unit.chars).map Cell.char) 0 tiles =
          (Cell.translate unit.chars).map Cell.char := by
  obtain ⟨last, run, -, -⟩ := unit.run_tokenize ⟨true, allowUnderscore⟩
  obtain ⟨tiles, place, tokens, ends, tiled⟩ :=
    run.tiles (Scanner.standsAt_start _ unit) (Nat.zero_le _) rfl
      (fun exhausted => by cases exhausted)
  refine ⟨tiles, .eof place, tokens, rfl, ?_, tiled.fits, tiled.pairwise, ?_, ?_⟩
  · rw [← ends]
    rfl
  · exact fun index bound outside => tiled.separates (Nat.zero_le _) bound outside
  · exact tiled.weave_eq

end JavaLex
