import JavaLex.Proofs.Front.Lexeme
import JavaLex.Proofs.Scan.Run

/-! # Scanning the texts of tokens again

The texts of the tokens of a scan without errors, put together with blanks between them, scan to
the same tokens. A run is first taken apart into pieces, each a text that stands alone, and then
any run over those pieces gives the contents that the pieces determine.
-/

namespace JavaLex

open Charset

/-! ## Contents -/

/-- A token without its place. -/
structure Content where
  kind : Kind
  text : String
  value : Option Literal
  name : Option Nat
deriving DecidableEq, Repr

def Token.content (token : Token) : Content :=
  ⟨token.kind, token.text, token.value, token.name⟩

/-- The token that a text with an outcome gives, with the names known after it. -/
def Outcome.content (allowUnderscore : Bool) (names : NameTable) (text : String) :
    Outcome → Content × NameTable
  | .token kind value => (⟨kind, text, value, none⟩, names)
  | _ =>
      let (kind, value) := Reserved.classify allowUnderscore text
      if kind = .identifier then
        (⟨.identifier, text, none, some (names.intern text).1⟩, (names.intern text).2)
      else
        (⟨kind, text, value, none⟩, names)

namespace Scanner

variable {scanner later last : Scanner} {here : Cursor} {lexeme : Lexeme} {token : Token}

/-- A token without faults has the content that its text and outcome determine. -/
theorem Accepts.content (accepts : Accepts scanner here lexeme (some token) later)
    (dropped : scanner.options.keepComments = false) (clean : here.faults lexeme = []) :
    lexeme.outcome.isToken = true ∧
      lexeme.outcome.content scanner.options.allowUnderscore scanner.names (here.textOf lexeme) =
        (token.content, later.names) := by
  cases accepts with
  | faulty errors =>
      rw [Cursor.errorsOf, clean] at errors
      cases errors
  | token _ outcome =>
      rw [outcome]
      exact ⟨rfl, rfl⟩
  | name _ outcome identifier =>
      rw [outcome]
      refine ⟨rfl, ?_⟩
      simp only [Outcome.content, identifier, if_true]
      rfl
  | reserved _ outcome other classified =>
      rw [outcome]
      refine ⟨rfl, ?_⟩
      simp only [Outcome.content, classified, if_neg other]
      rfl
  | comment _ _ kept => exact absurd (dropped.symm.trans kept) (by decide)

theorem Accepts.isToken_eq_false (accepts : Accepts scanner here lexeme none later) :
    lexeme.outcome.isToken = false := by
  cases accepts with
  | skipped _ outcome => rw [outcome]; rfl

end Scanner

/-! ## Pieces -/

/-- A text that is a token wherever it stands apart. -/
structure Piece where
  first : Char
  more : List Char
  outcome : Outcome
  isToken : outcome.isToken = true
  start : isBlank first = false ∧ first ≠ substitute
  inert : Inert (first :: more)
  reads : ∀ after, Apart after → Lexeme.read first (more ++ after) = ⟨outcome, more.length + 1⟩

namespace Piece

def chars (piece : Piece) : List Char :=
  piece.first :: piece.more

def text (piece : Piece) : String :=
  String.ofList piece.chars

/-- The contents of pieces in a row, with the names known after them. -/
def contents (allowUnderscore : Bool) (names : NameTable) : List Piece → List Content × NameTable
  | [] => ([], names)
  | piece :: pieces =>
      let (content, names) := piece.outcome.content allowUnderscore names piece.text
      let (contents, names) := contents allowUnderscore names pieces
      (content :: contents, names)

theorem contents_cons {allowUnderscore : Bool} {names known last : NameTable} {piece : Piece}
    {pieces : List Piece} {first : Content} {later : List Content}
    (content : piece.outcome.content allowUnderscore names piece.text = (first, known))
    (rest : contents allowUnderscore known pieces = (later, last)) :
    contents allowUnderscore names (piece :: pieces) = (first :: later, last) := by
  simp only [contents, content, rest]

def trail (pieces : List Piece) : List Char :=
  pieces.flatMap fun piece => ' ' :: piece.chars

def joined : List Piece → List Char
  | [] => []
  | piece :: pieces => piece.chars ++ trail pieces

theorem faults_outcome (piece : Piece) : piece.outcome.faults = [] := by
  have isToken := piece.isToken
  cases outcome : piece.outcome with
  | token | word | comment => rfl
  | faulty => rw [outcome] at isToken; cases isToken

theorem apart_trail (pieces : List Piece) : Apart (trail pieces) := by
  cases pieces with
  | nil => exact .inl rfl
  | cons piece pieces => exact .inr rfl

theorem blankSize_joined (pieces : List Piece) : blankSize (joined pieces) = 0 := by
  cases pieces with
  | nil => rfl
  | cons piece pieces =>
      obtain ⟨blank, other⟩ := piece.start
      simp [joined, chars, blankSize, blank, other]

theorem drop_blankSize_trail (pieces : List Piece) :
    (trail pieces).drop (blankSize (trail pieces)) = joined pieces := by
  cases pieces with
  | nil => rfl
  | cons piece pieces =>
      have whole : trail (piece :: pieces) = ' ' :: joined (piece :: pieces) := rfl
      have next : blankSize (' ' :: joined (piece :: pieces)) = 1 := by
        rw [blankSize, if_pos (by rfl), blankSize_joined]
      rw [whole, next]
      rfl

theorem inert_trail (pieces : List Piece) : Inert (trail pieces) := by
  induction pieces with
  | nil => exact .nil
  | cons piece pieces ih => exact .plain (by decide) (piece.inert.append ih)

theorem inert_joined (pieces : List Piece) : Inert (joined pieces) := by
  cases pieces with
  | nil => exact .nil
  | cons piece pieces => exact piece.inert.append (inert_trail pieces)

theorem text_content (allowUnderscore : Bool) (names : NameTable) (text : String)
    (outcome : Outcome) : (outcome.content allowUnderscore names text).1.text = text := by
  unfold Outcome.content
  split
  · rfl
  · dsimp only
    split <;> rfl

theorem text_contents (allowUnderscore : Bool) (names : NameTable) (pieces : List Piece) :
    (contents allowUnderscore names pieces).1.map Content.text = pieces.map text := by
  induction pieces generalizing names with
  | nil => rfl
  | cons piece pieces ih =>
      rw [contents, List.map_cons, List.map_cons, ih, text_content]

/-- The joined texts of pieces are their texts with blanks between them. -/
theorem toList_intercalate (pieces : List Piece) :
    (" ".intercalate (pieces.map text)).toList = joined pieces := by
  cases pieces with
  | nil => rfl
  | cons piece pieces =>
      induction pieces generalizing piece with
      | nil => simp [text, joined, trail]
      | cons next pieces ih =>
          have later := ih next
          rw [List.map_cons] at later
          rw [List.map_cons, List.map_cons, String.intercalate_cons_cons, String.toList_append,
            later]
          simp [text, joined, trail]

end Piece

/-! ## Taking a run apart -/

namespace Scanner

variable {scanner later last : Scanner} {tokens : List Token}

theorem Run.errors_eq_nil (run : Run scanner tokens last) (clean : last.errors = []) :
    scanner.errors = [] := by
  have errors := run.errors_prefix
  rwa [clean, List.prefix_nil] at errors

theorem Accepts.piece {here : Cursor} {c : Char} {rest : List Char} {token : Token}
    (chars : here.chars = c :: rest)
    (accepts : Accepts scanner here (here.lexeme c rest) (some token) later)
    (dropped : scanner.options.keepComments = false)
    (clean : here.faults (here.lexeme c rest) = []) :
    ∃ piece : Piece,
      piece.outcome.content scanner.options.allowUnderscore scanner.names piece.text =
        (token.content, later.names) := by
  obtain ⟨isToken, content⟩ := accepts.content dropped clean
  have unmarked : here.atMalformed = false := by
    apply Bool.eq_false_iff.mpr
    intro marked
    have none := (Cursor.faults_eq_nil_iff.mp clean).1
    exact Cursor.malformedWithin_ne_nil marked (here.size_lexeme_pos c rest) none
  have plain : here.lexeme c rest = Lexeme.read c rest := by
    simp [Cursor.lexeme, unmarked]
  rw [plain] at isToken content
  obtain ⟨taken, alone⟩ := Lexeme.standsAlone_read isToken
  have text : here.textOf (Lexeme.read c rest) = String.ofList (c :: rest.take taken) := by
    rw [Cursor.textOf, chars, alone.size, List.take_succ_cons]
  have reads : ∀ after, Apart after → Lexeme.read c (rest.take taken ++ after) =
      ⟨(Lexeme.read c rest).outcome, (rest.take taken).length + 1⟩ := by
    intro after apart
    rw [alone.reads after apart, List.length_take_of_le alone.within, ← alone.size]
  rw [text] at content
  exact ⟨⟨c, rest.take taken, (Lexeme.read c rest).outcome, isToken, alone.start, alone.inert,
    reads⟩, content⟩

/-- A run without errors gives the contents of some pieces, and the sentinel. -/
theorem Run.pieces (run : Run scanner tokens last) (dropped : scanner.options.keepComments = false)
    (clean : last.errors = []) :
    ∃ (pieces : List Piece) (words : List Token) (place : Position),
      tokens = words ++ [.eof place] ∧ (∀ word ∈ words, word.isEof = false) ∧
        Piece.contents scanner.options.allowUnderscore scanner.names pieces =
          (words.map Token.content, last.names) := by
  induction run with
  | exhausted => exact ⟨[], [], _, rfl, by simp, rfl⟩
  | ended => exact ⟨[], [], _, rfl, by simp, rfl⟩
  | skipped _ _ accepts _ ih =>
      rw [accepts.options_eq, accepts.names_eq] at ih
      exact ih dropped clean
  | @token scanner later last c rest token tokens _ chars accepts run ih =>
      have before := run.errors_eq_nil clean
      rw [accepts.errors_eq] at before
      have faultless := List.map_eq_nil_iff.mp (List.append_eq_nil_iff.mp before).2
      obtain ⟨piece, content⟩ := accepts.piece chars dropped faultless
      rw [accepts.options_eq] at ih
      obtain ⟨pieces, words, place, rfl, proper, contents⟩ := ih dropped clean
      refine ⟨piece :: pieces, token :: words, place, rfl, ?_, ?_⟩
      · exact List.forall_mem_cons.mpr ⟨accepts.isEof_eq_false, proper⟩
      exact Piece.contents_cons content contents

/-! ## Putting it together again -/

/-- A scanner that has met no error and has only plain cells before it. -/
structure Fresh (scanner : Scanner) : Prop where
  going : scanner.exhausted = false
  dropped : scanner.options.keepComments = false
  errors : scanner.errors = []
  plain : ∀ cell ∈ scanner.cursor.cells, cell.malformed = false

/-- At the first of some pieces a scanner reads it and stands before the others. -/
theorem Fresh.accepts (fresh : Fresh scanner) {piece : Piece} {after : List Char}
    (apart : Apart after) {result : Option Token}
    (chars : scanner.atLexeme.chars = piece.chars ++ after)
    (accepts : Accepts scanner scanner.atLexeme
      (scanner.atLexeme.lexeme piece.first (piece.more ++ after)) result later) :
    ∃ token, result = some token ∧
      piece.outcome.content scanner.options.allowUnderscore scanner.names piece.text =
        (token.content, later.names) ∧
      Fresh later ∧ later.options = scanner.options ∧ later.cursor.chars = after := by
  have plain : ∀ cell ∈ scanner.atLexeme.cells, cell.malformed = false := by
    intro cell member
    rw [atLexeme, Cursor.cells_advance] at member
    exact fresh.plain cell (List.mem_of_mem_drop member)
  rw [Cursor.lexeme_of_plain plain, piece.reads after apart] at accepts
  have clean : scanner.atLexeme.faults ⟨piece.outcome, piece.more.length + 1⟩ = [] :=
    Cursor.faults_eq_nil_of_plain plain piece.faults_outcome
  have text : scanner.atLexeme.textOf ⟨piece.outcome, piece.more.length + 1⟩ = piece.text := by
    rw [Cursor.textOf, chars]
    exact congrArg String.ofList (List.take_left' rfl)
  cases result with
  | none => exact absurd (piece.isToken.symm.trans accepts.isToken_eq_false) (by decide)
  | some token =>
      obtain ⟨-, content⟩ := accepts.content fresh.dropped clean
      rw [text] at content
      refine ⟨token, rfl, content, ⟨?_, ?_, ?_, ?_⟩, accepts.options_eq, ?_⟩
      · apply Bool.eq_false_iff.mpr
        intro exhausted
        obtain ⟨fault, member, -⟩ := accepts.exists_fatal fresh.going exhausted
        rw [clean] at member
        cases member
      · rw [accepts.options_eq, fresh.dropped]
      · rw [accepts.errors_eq, fresh.errors, Cursor.errorsOf, clean]
        rfl
      · intro cell member
        rw [accepts.cursor_eq, Cursor.cells_advance] at member
        exact plain cell (List.mem_of_mem_drop member)
      · rw [accepts.cursor_eq, Cursor.chars_advance, chars]
        exact List.drop_left' rfl

theorem Run.contents_eq {pieces : List Piece} (run : Run scanner tokens last)
    (fresh : Fresh scanner) (chars : scanner.atLexeme.chars = Piece.joined pieces) :
    last.errors = [] ∧ ∃ (words : List Token) (place : Position),
      tokens = words ++ [.eof place] ∧
        Piece.contents scanner.options.allowUnderscore scanner.names pieces =
          (words.map Token.content, last.names) := by
  induction pieces generalizing scanner tokens with
  | nil =>
      cases run with
      | exhausted exhausted => exact absurd (fresh.going.symm.trans exhausted) (by decide)
      | ended => exact ⟨fresh.errors, [], _, rfl, rfl⟩
      | skipped _ starts => cases chars.symm.trans starts
      | token _ starts => cases chars.symm.trans starts
  | cons piece pieces ih =>
      have apart := Piece.apart_trail pieces
      cases run with
      | exhausted exhausted => exact absurd (fresh.going.symm.trans exhausted) (by decide)
      | ended _ ends => cases chars.symm.trans ends
      | skipped _ starts accepts =>
          -- a piece is no comment, so nothing is skipped
          obtain ⟨rfl, rfl⟩ := List.cons.inj (chars.symm.trans starts)
          obtain ⟨token, none, -⟩ := fresh.accepts apart chars accepts
          cases none
      | @token _ later _ _ _ token tokens _ starts accepts run =>
          obtain ⟨rfl, rfl⟩ := List.cons.inj (chars.symm.trans starts)
          obtain ⟨_, same, content, fresh, options, left⟩ := fresh.accepts apart chars accepts
          obtain rfl := Option.some.inj same
          have next : later.atLexeme.chars = Piece.joined pieces := by
            rw [atLexeme, Cursor.chars_advance, left, Piece.drop_blankSize_trail]
          obtain ⟨errors, words, place, rfl, contents⟩ := ih run fresh next
          refine ⟨errors, token :: words, place, rfl, ?_⟩
          rw [options] at contents
          exact Piece.contents_cons content contents

end Scanner

/-! ## The round trip -/

def ScannedUnit.joinedTexts (unit : ScannedUnit) : String :=
  " ".intercalate (unit.tokens.dropLast.map Token.text)

def SourceUnit.rescan (unit : SourceUnit) (options : Options) : ScannedUnit :=
  (SourceUnit.mk unit.name (unit.tokenize options).joinedTexts).tokenize options

theorem Scanner.fresh_start (name : String) (allowUnderscore : Bool) (pieces : List Piece) :
    Fresh (.start ⟨false, allowUnderscore⟩ ⟨name, " ".intercalate (pieces.map Piece.text)⟩) ∧
      (start ⟨false, allowUnderscore⟩
        ⟨name, " ".intercalate (pieces.map Piece.text)⟩).atLexeme.chars = Piece.joined pieces := by
  have inert := Piece.inert_joined pieces
  rw [← Piece.toList_intercalate] at inert
  refine ⟨⟨rfl, rfl, rfl, fun _ => inert.malformed_of_mem_translate⟩, ?_⟩
  have chars := inert.chars_translate
  rw [Piece.toList_intercalate] at chars
  rw [atLexeme, Cursor.chars_advance, start, Cursor.chars_ofCells, SourceUnit.chars,
    Piece.toList_intercalate, chars, Piece.blankSize_joined]
  rfl

/-- If a unit has no lexical error, the texts of its tokens scan without error to the same tokens
up to their places, and to the same names. -/
theorem rescan_eq (unit : SourceUnit) (allowUnderscore : Bool)
    (clean : (unit.tokenize ⟨false, allowUnderscore⟩).errors = []) :
    (unit.rescan ⟨false, allowUnderscore⟩).errors = [] ∧
      (unit.rescan ⟨false, allowUnderscore⟩).names =
        (unit.tokenize ⟨false, allowUnderscore⟩).names ∧
      ∃ (words again : List Token) (sentinel ending : Token),
        (unit.tokenize ⟨false, allowUnderscore⟩).tokens = words ++ [sentinel] ∧
          (unit.rescan ⟨false, allowUnderscore⟩).tokens = again ++ [ending] ∧
          again.map Token.content = words.map Token.content ∧
          (∀ word ∈ words, word.isEof = false) ∧ sentinel.isEof = true ∧ ending.isEof = true := by
  obtain ⟨last, run, errors, names⟩ := unit.run_tokenize ⟨false, allowUnderscore⟩
  rw [errors] at clean
  obtain ⟨pieces, words, place, tokens, proper, contents⟩ := run.pieces rfl clean
  have texts : words.map Token.text = pieces.map Piece.text := by
    have same := Piece.text_contents allowUnderscore .empty pieces
    rw [show Piece.contents allowUnderscore .empty pieces = _ from contents, List.map_map] at same
    exact same
  have joined : (unit.tokenize ⟨false, allowUnderscore⟩).joinedTexts =
      " ".intercalate (pieces.map Piece.text) := by
    rw [ScannedUnit.joinedTexts, tokens, List.dropLast_concat, texts]
  obtain ⟨fresh, chars⟩ := Scanner.fresh_start unit.name allowUnderscore pieces
  obtain ⟨final, rerun, reported, known⟩ := SourceUnit.run_tokenize
    ⟨unit.name, " ".intercalate (pieces.map Piece.text)⟩ ⟨false, allowUnderscore⟩
  obtain ⟨none, again, ending, retokens, same⟩ := rerun.contents_eq fresh chars
  obtain ⟨equal, table⟩ := Prod.mk.inj (same.symm.trans contents)
  unfold SourceUnit.rescan
  rw [joined]
  refine ⟨reported.trans none, ?_, words, again, _, _, tokens, retokens, equal, proper, rfl, rfl⟩
  rw [known, names, table]

/-- A unit with a comment, an escape and a backslash in a literal. -/
theorem rescan_eq_sum :
    (SourceUnit.tokenize ⟨"Sum.java", "a=b/**/+\\u0030x1f;'\\\\'"⟩ ⟨false, false⟩).errors = [] ∧
      (SourceUnit.tokenize ⟨"Sum.java", "a=b/**/+\\u0030x1f;'\\\\'"⟩ ⟨false, false⟩).joinedTexts =
        "a = b + 0x1f ; '\\\\'" ∧
      (SourceUnit.rescan ⟨"Sum.java", "a=b/**/+\\u0030x1f;'\\\\'"⟩ ⟨false, false⟩).errors = [] ∧
      (SourceUnit.rescan ⟨"Sum.java", "a=b/**/+\\u0030x1f;'\\\\'"⟩ ⟨false, false⟩).names =
        ⟨["a", "b"]⟩ := by
  have clean : (SourceUnit.tokenize ⟨"Sum.java", "a=b/**/+\\u0030x1f;'\\\\'"⟩
      ⟨false, false⟩).errors = [] := by
    decide +kernel
  obtain ⟨errors, names, -⟩ := rescan_eq _ false clean
  exact ⟨clean, by decide +kernel, errors, names.trans (by decide +kernel)⟩

end JavaLex
