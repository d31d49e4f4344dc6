import JavaLex.Proofs.Scan.Tiling
import JavaLex.Shell.Highlight

/-! # Highlighted lines

A line in colour is the line with control sequences between its characters. The places to cut it
come from the scan of the translated text, and all of them are boundaries of the raw line in
ascending order, whatever is malformed in it; without the control sequences the line is back.
-/

namespace JavaLex

/-! ## Cuts of a line -/

/-- A line from the given offset on, cut at the spans of its tokens: the gaps as they are, the
tokens painted. There is none if a cut is out of order, out of range or within a character. -/
def paintSlices? (line : List Char) (offset : Nat) : List Token → Option String
  | [] => do
      let rest ← slice? offset (byteSize line) line
      return String.ofList rest
  | token :: tokens => do
      let gap ← slice? offset token.span.start line
      let raw ← slice? token.span.start token.span.stop line
      let rest ← paintSlices? line token.span.stop tokens
      return String.ofList gap ++ paint token.kind.category (String.ofList raw) ++ rest

/-- A line in colour, cut at the spans of its tokens unless it is a command. -/
def highlightSlices? (options : Options) (line : List Char) : Option String :=
  if (Command.parse? line).isSome then
    some (Style.magenta.wrap (String.ofList line))
  else
    let unit := (SourceUnit.ofChars line).tokenize { options with keepComments := true }
    paintSlices? line 0 (unit.tokens.filter (!·.isEof))

namespace Cell

variable {first second : Nat}

theorem dropBytes_rawOffset (text : List Char) (le : first ≤ second) :
    dropBytes (rawOffset (translate text) second - rawOffset (translate text) first)
        (dropBytes (rawOffset (translate text) first) text) =
      dropBytes (rawOffset (translate text) second) text := by
  have rest : ∀ index, dropBytes (rawOffset (translate text) index) text =
      ((translate text).drop index).flatMap raw := by
    intro index
    have cut := dropBytes_append (((translate text).take index).flatMap raw)
      (((translate text).drop index).flatMap raw)
    rwa [append_raw_drop] at cut
  obtain ⟨more, rfl⟩ := Nat.exists_eq_add_of_le le
  have size : rawOffset (translate text) (first + more) - rawOffset (translate text) first =
      byteSize ((((translate text).drop first).take more).flatMap raw) := by
    rw [rawOffset, rawOffset, List.take_add, List.flatMap_append, byteSize_append,
      Nat.add_sub_cancel_left]
  have cut := dropBytes_append ((((translate text).drop first).take more).flatMap raw)
    ((((translate text).drop first).drop more).flatMap raw)
  rw [← List.flatMap_append, List.take_append_drop] at cut
  rw [rest, rest, size, cut, List.drop_drop]

end Cell

/-- All cuts at tiles succeed, and give the line that is painted from left to right. -/
theorem Tiles.paintSlices?_eq {line : List Char} {start : Nat} {tiles : List Tile}
    (tiled : Tiles (Cell.translate line) start tiles)
    (within : start ≤ (Cell.translate line).length) :
    paintSlices? line (Cell.rawOffset (Cell.translate line) start) (tiles.map Tile.token) =
      some (paintTokens (Cell.rawOffset (Cell.translate line) start)
        (dropBytes (Cell.rawOffset (Cell.translate line) start) line) (tiles.map Tile.token)) := by
  induction tiled with
  | @done start _ =>
      have stop := Cell.rawOffset_of_length_le (Nat.le_refl (Cell.translate line).length)
      rw [Cell.raw_translate] at stop
      have rest := Cell.slice?_rawOffset line within
      have ends := Cell.dropBytes_rawOffset line within
      rw [stop] at rest ends
      have nothing : dropBytes (byteSize line) line = [] := by
        simpa using dropBytes_append line []
      rw [nothing] at ends
      have whole := takeBytes_append_dropBytes
        (byteSize line - Cell.rawOffset (Cell.translate line) start)
        (dropBytes (Cell.rawOffset (Cell.translate line) start) line)
      rw [ends, List.append_nil] at whole
      simp only [List.map_nil, paintSlices?, rest, Option.bind_eq_bind, Option.bind_some,
        paintTokens, between, whole]
      rfl
  | @tile start tile tiles begins _ fits _ ih =>
      have later := Nat.le_of_lt fits.first_lt_stop
      have gap := Cell.slice?_rawOffset line begins
      have raw := Cell.slice?_rawOffset line later
      have goesOn := ih fits.stop_le
      simp only [List.map_cons, paintSlices?, paintTokens, fits.span, Span.size, gap, raw, goesOn,
        Option.bind_eq_bind, Option.bind_some, Cell.dropBytes_rawOffset line begins,
        Cell.dropBytes_rawOffset line later]
      rfl

theorem highlightSlices?_eq (options : Options) (line : List Char) :
    highlightSlices? options line = some (highlight options line) := by
  unfold highlightSlices? highlight
  split
  · rfl
  · have chars : (SourceUnit.ofChars line).chars = line := String.toList_ofList
    obtain ⟨last, run, -, -⟩ :=
      (SourceUnit.ofChars line).run_tokenize { options with keepComments := true }
    obtain ⟨tiles, place, tokens, -, tiled⟩ := run.tiles (Scanner.standsAt_start _ _)
      (Nat.zero_le _) rfl (fun exhausted => by cases exhausted)
    have words : (tiles.map Tile.token ++ [Token.eof place]).filter (!·.isEof) =
        tiles.map Tile.token := by
      rw [List.filter_append, List.filter_eq_self.mpr]
      · exact List.append_nil _
      · intro token member
        obtain ⟨tile, fits, rfl⟩ := List.mem_map.mp member
        simp [(tiled.fits tile fits).isEof]
    rw [chars] at tiled
    have painted := tiled.paintSlices?_eq (Nat.zero_le _)
    rw [Cell.rawOffset_zero, dropBytes] at painted
    dsimp only
    rw [tokens, words, painted]

/-! ## Control sequences -/

def isParameter (c : Char) : Bool :=
  c.isDigit || c == ';'

/-- Removes the control sequences that set a colour or an effect: U+001B and a bracket, numbers
between semicolons, and the letter `m`. -/
def withoutSequences : List Char → List Char
  | [] => []
  | c :: rest =>
      if c == '\x1b' && rest.head? == some '[' &&
          (rest.tail.dropWhile isParameter).head? == some 'm' then
        withoutSequences (rest.tail.dropWhile isParameter).tail
      else
        c :: withoutSequences rest
termination_by text => text.length
decreasing_by
  · have shorter := (List.dropWhile_suffix isParameter (l := rest.tail)).length_le
    simp only [List.length_tail, List.length_cons] at shorter ⊢
    omega
  · exact Nat.lt_succ_self _

theorem withoutSequences_append {text : List Char} (plain : '\x1b' ∉ text) (rest : List Char) :
    withoutSequences (text ++ rest) = text ++ withoutSequences rest := by
  induction text with
  | nil => rfl
  | cons c text ih =>
      obtain ⟨other, later⟩ := not_or.mp (mt List.mem_cons.mpr plain)
      have apart : (c == '\x1b') = false := beq_false_of_ne fun same => other same.symm
      rw [List.cons_append, withoutSequences, apart, Bool.false_and, Bool.false_and,
        if_neg (by decide), ih later, List.cons_append]

/-- Control sequences, one after the other. -/
inductive Sequences : List Char → Prop where
  | nil : Sequences []
  | cons {parameters rest : List Char} : (∀ c ∈ parameters, isParameter c = true) →
      Sequences rest → Sequences ('\x1b' :: '[' :: (parameters ++ 'm' :: rest))

theorem Sequences.withoutSequences_append {sequences : List Char} (only : Sequences sequences)
    (rest : List Char) : withoutSequences (sequences ++ rest) = withoutSequences rest := by
  induction only with
  | nil => rfl
  | @cons parameters more numbers _ ih =>
      have stop : (parameters ++ 'm' :: (more ++ rest)).dropWhile isParameter =
          'm' :: (more ++ rest) := by
        rw [List.dropWhile_append_of_pos numbers]
        rfl
      rw [List.cons_append, List.cons_append, List.append_assoc, List.cons_append,
        withoutSequences, List.tail_cons, stop]
      exact ih

/-- The wrapper puts control sequences around a text, and nothing else. -/
def WrapsOnly (wrapper : String → String) : Prop :=
  ∀ text, ∃ opening closing, Sequences opening ∧ Sequences closing ∧
    (wrapper text).toList = opening ++ text.toList ++ closing

theorem Style.sequences_sequence (code : Nat) : Sequences (sequence code).toList := by
  have digits : ∀ c ∈ (toString code).toList, isParameter c = true := by
    intro c member
    have digit : c.isDigit = true :=
      Nat.isDigit_of_mem_toDigits (b := 10) (n := code) (by decide) (by decide)
        (by simpa using member)
    simp [isParameter, digit]
  have whole : (sequence code).toList = '\x1b' :: '[' :: ((toString code).toList ++ ['m']) := by
    simp [sequence, String.toList_append]
  rw [whole]
  exact .cons digits .nil

theorem Style.wrapsOnly_wrap (style : Style) : WrapsOnly style.wrap := by
  intro text
  refine ⟨_, _, sequences_sequence style.opening, sequences_sequence style.closing, ?_⟩
  rw [wrap, String.toList_append, String.toList_append]

/-- Without its control sequences the output reads as the text, whatever comes after it. -/
def Displays (output : String) (text : List Char) : Prop :=
  ∀ rest, withoutSequences (output.toList ++ rest) = text ++ withoutSequences rest

namespace Displays

variable {output more : String} {text next : List Char}

theorem ofList (plain : '\x1b' ∉ text) : Displays (String.ofList text) text := by
  intro rest
  rw [String.toList_ofList, withoutSequences_append plain]

theorem append (first : Displays output text) (second : Displays more next) :
    Displays (output ++ more) (text ++ next) := by
  intro rest
  rw [String.toList_append, List.append_assoc, first, second, List.append_assoc]

/-- Whatever only adds control sequences to an output leaves what it shows. -/
theorem wrapped (shown : Displays output text) {wrapper : String → String}
    (wraps : WrapsOnly wrapper) : Displays (wrapper output) text := by
  intro rest
  obtain ⟨opening, closing, opens, closes, same⟩ := wraps output
  rw [same, List.append_assoc, List.append_assoc, opens.withoutSequences_append, shown,
    closes.withoutSequences_append]

theorem wrap (shown : Displays output text) (style : Style) : Displays (style.wrap output) text :=
  shown.wrapped style.wrapsOnly_wrap

theorem styled (shown : Displays output text) (styles : List Style) :
    Displays (JavaLex.styled styles output) text := by
  unfold JavaLex.styled
  induction styles generalizing output with
  | nil => exact shown
  | cons style styles ih => exact ih (shown.wrap style)

theorem paintTokens (plain : '\x1b' ∉ text) (offset : Nat) (tokens : List Token) :
    Displays (JavaLex.paintTokens offset text tokens) text := by
  induction tokens generalizing offset text with
  | nil => exact .ofList plain
  | cons token tokens ih =>
      unfold JavaLex.paintTokens
      extract_lets gap rest
      have first := takeBytes_append_dropBytes gap text
      have second := takeBytes_append_dropBytes token.span.size rest
      have none : ∀ part, part ⊆ text → '\x1b' ∉ part := fun part within => mt (@within _) plain
      rw [← first] at none
      have inner : rest ⊆ takeBytes gap text ++ rest := List.subset_append_right _ _
      have before : Displays _ (takeBytes gap text) :=
        .ofList (none _ (List.subset_append_left _ _))
      have painted : Displays _ (takeBytes token.span.size rest) :=
        (ofList (none _ fun c member => inner (by
          rw [← second]
          exact List.mem_append_left _ member))).styled token.kind.category.styles
      have after := ih (none _ fun c member => inner (by
        rw [← second]
        exact List.mem_append_right _ member)) token.span.stop
      have whole := (before.append painted).append after
      rw [List.append_assoc, second, first] at whole
      exact whole

theorem highlight (options : Options) (plain : '\x1b' ∉ text) :
    Displays (JavaLex.highlight options text) text := by
  unfold JavaLex.highlight
  split
  · exact (ofList plain).wrap .magenta
  · exact .paintTokens plain 0 _

theorem eq (shown : Displays output text) : withoutSequences output.toList = text := by
  have alone := shown []
  rwa [withoutSequences, List.append_nil, List.append_nil] at alone

end Displays

/-- A line in colour is the line cut at the spans of its tokens, with the tokens painted and the
gaps between them as they are, or the whole line in one colour if it is a command; no cut fails.
Without the control sequences it is the line. -/
theorem highlight_keeps_line (options : Options) (line : List Char) :
    highlightSlices? options line = some (highlight options line) ∧
      ('\x1b' ∉ line → withoutSequences (highlight options line).toList = line) :=
  ⟨highlightSlices?_eq options line, fun plain => (Displays.highlight options plain).eq⟩

/-- A letter of two bytes, a malformed escape and a comment without end. -/
theorem highlight_keeps_line_comment :
    '\x1b' ∉ "int é=\\u00g; /* 5m".toList ∧
      withoutSequences (highlight .usual "int é=\\u00g; /* 5m".toList).toList =
        "int é=\\u00g; /* 5m".toList := by
  have plain : '\x1b' ∉ "int é=\\u00g; /* 5m".toList := by decide
  exact ⟨plain, (highlight_keeps_line .usual _).2 plain⟩

end JavaLex
