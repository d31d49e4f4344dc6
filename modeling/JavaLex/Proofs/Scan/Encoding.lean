import JavaLex.Proofs.Front.Quoted
import JavaLex.Proofs.Scan.Calls

/-! # Strings written as literals

Any string can be written as a string literal: four characters are written with a backslash, and
every other one as it is. Two decoders read the literal back, the one of unicode escapes and that
of escape sequences. The first finds nothing, because the backslashes of the literal come in pairs
with a character that is no `u`.
-/

namespace JavaLex

open Charset

namespace Quoted

/-! ## Encoding -/

/-- What stands after a backslash for a character that a string literal cannot hold as it is. -/
def escapeMark? : Char → Option Char
  | '\\' => some '\\'
  | '"' => some '"'
  | '\n' => some 'n'
  | '\r' => some 'r'
  | _ => none

def encodeChar (c : Char) : List Char :=
  match escapeMark? c with
  | some mark => ['\\', mark]
  | none => [c]

def encode (text : List Char) : List Char :=
  text.flatMap encodeChar

def literal (s : String) : String :=
  String.ofList ('"' :: (encode s.toList ++ ['"']))

theorem simpleEscape?_of_escapeMark? {c mark : Char} (marked : escapeMark? c = some mark) :
    simpleEscape? mark = some c := by
  unfold escapeMark? at marked
  split at marked <;> cases marked <;> rfl

theorem plain_of_escapeMark? {c : Char} (unmarked : escapeMark? c = none) :
    c ≠ '"' ∧ isLineTerminator c = false ∧ c ≠ '\\' := by
  unfold escapeMark? at unmarked
  split at unmarked <;> simp_all [isLineTerminator]

/-! ## Decoding -/

theorem body_of_simpleEscape? {mark c : Char} (found : simpleEscape? mark = some c) (index : Nat)
    (rest : List Char) :
    body index ('\\' :: mark :: rest) =
      { body (index + 2) rest with
        value := c :: (body (index + 2) rest).value
        size := (body (index + 2) rest).size + 2 } := by
  rw [body, escape_simple found]
  simp [isLineTerminator]

theorem body_of_plain {c : Char} (quote : c ≠ '"') (goesOn : isLineTerminator c = false)
    (backslash : c ≠ '\\') (index : Nat) (rest : List Char) :
    body index (c :: rest) =
      { body (index + 1) rest with
        value := c :: (body (index + 1) rest).value
        size := (body (index + 1) rest).size + 1 } := by
  rw [body]
  simp [quote, goesOn, backslash]

/-- The body of a literal is read back as the text, up to the closing quote. -/
theorem body_encode (index : Nat) (text after : List Char) :
    body index (encode text ++ '"' :: after) =
      ⟨text, [], .quote, (encode text).length + 1⟩ := by
  induction text generalizing index with
  | nil => simp [encode, body]
  | cons c text ih =>
      rw [encode, List.flatMap_cons, List.append_assoc, ← encode]
      cases marked : escapeMark? c with
      | some mark =>
          have written : encodeChar c = ['\\', mark] := by rw [encodeChar, marked]
          rw [written, List.cons_append, List.cons_append, List.nil_append,
            body_of_simpleEscape? (simpleEscape?_of_escapeMark? marked), ih]
          simp
      | none =>
          have written : encodeChar c = [c] := by rw [encodeChar, marked]
          obtain ⟨quote, goesOn, backslash⟩ := plain_of_escapeMark? marked
          rw [written, List.singleton_append, body_of_plain quote goesOn backslash, ih]
          simp

theorem inert_encode (text : List Char) : Inert (encode text) := by
  induction text with
  | nil => exact .nil
  | cons c text ih =>
      rw [encode, List.flatMap_cons, ← encode]
      cases marked : escapeMark? c with
      | some mark =>
          obtain ⟨-, -, other⟩ := simpleEscape?_ne_some (simpleEscape?_of_escapeMark? marked)
          rw [encodeChar, marked]
          exact .pair other ih
      | none =>
          obtain ⟨-, -, backslash⟩ := plain_of_escapeMark? marked
          rw [encodeChar, marked]
          exact .plain backslash ih

end Quoted

/-! ## Scanning -/

theorem Lexeme.read_literal (text : List Char) :
    read '"' (Quoted.encode text ++ ['"']) =
      ⟨.token .stringLiteral (some (.string (String.ofList text))),
        (Quoted.encode text).length + 2⟩ := by
  rw [(ReadAs.string _).read_eq, string, Quoted.body_encode]
  rfl

/-- A scanner that stands behind the last cell gives the sentinel of its unit. -/
theorem Scanner.StandsAt.run_of_length {unit : SourceUnit} {scanner : Scanner}
    (stands : StandsAt unit (Cell.translate unit.chars).length scanner)
    (going : scanner.exhausted = false) :
    Run scanner [.eof unit.endPosition]
      { scanner with cursor := scanner.atLexeme, exhausted := true } := by
  have chars : scanner.atLexeme.chars = [] := by
    rw [stands.chars_atLexeme, List.drop_eq_nil_iff, List.length_map]
    omega
  have within : StandsWithin unit (Cell.translate unit.chars).length scanner :=
    ⟨stands, Nat.le_refl _, fun exhausted => absurd (going.symm.trans exhausted) (by decide)⟩
  rw [← within.position_atLexeme chars]
  exact .ended going chars

/-- A text without escapes that reads as one lexeme scans to one token. -/
theorem tokenize_of_read {unit : SourceUnit} {c : Char} {rest : List Char} {kind : Kind}
    {value : Option Literal} (options : Options) (inert : Inert unit.chars)
    (text : unit.chars = c :: rest) (start : Charset.blankSize unit.chars = 0)
    (reads : Lexeme.read c rest = ⟨.token kind value, rest.length + 1⟩) :
    (unit.tokenize options).tokens =
        [⟨kind, unit.text, ⟨0, unit.size⟩, 1, 1, value, none, none⟩, .eof unit.endPosition] ∧
      (unit.tokenize options).errors = [] := by
  have stands := Scanner.standsAt_start options unit
  have chars : (Scanner.start options unit).cursor.chars = unit.chars := by
    rw [stands.chars, inert.chars_translate]
    rfl
  have here : (Scanner.start options unit).atLexeme = unit.cursor := by
    rw [stands.atLexeme, chars, start]
    rfl
  have plain : ∀ cell ∈ unit.cursor.cells, cell.malformed = false := fun _ =>
    inert.malformed_of_mem_translate
  have lexeme := (Cursor.lexeme_of_plain plain c rest).trans reads
  have cells : (Cell.translate unit.chars).length = rest.length + 1 := by
    rw [inert.translate, text, List.length_map, List.length_cons]
  have unread : unit.cursor.chars = c :: rest := by
    rw [← text, ← inert.chars_translate]
    rfl
  have textOf : unit.cursor.textOf ⟨.token kind value, rest.length + 1⟩ = unit.text := by
    rw [Cursor.textOf, unread, ← List.length_cons, List.take_length, ← text, SourceUnit.chars,
      String.ofList_toList]
  have spanOf : unit.cursor.spanOf ⟨.token kind value, rest.length + 1⟩ = ⟨0, unit.size⟩ := by
    rw [Cursor.spanOf, unit.offset_advance_cursor, ← cells, unit.rawOffset_length]
    rfl
  have accepts : Scanner.Accepts (.start options unit) (Scanner.start options unit).atLexeme
      ((Scanner.start options unit).atLexeme.lexeme c rest) _ _ :=
    .token (by rw [here]; exact Cursor.faults_eq_nil_of_plain plain (by rw [lexeme]; rfl))
      (by rw [here, lexeme])
  have moved := stands.accepts accepts
  rw [show 0 + Charset.blankSize (Scanner.start options unit).cursor.chars +
      ((Scanner.start options unit).atLexeme.lexeme c rest).size =
        (Cell.translate unit.chars).length by rw [chars, start, here, lexeme, cells]; simp] at moved
  have run := Scanner.Run.token rfl (by rw [here, unread]) accepts (moved.run_of_length rfl)
  rw [run.tokenize_eq, here, lexeme, textOf, spanOf]
  exact ⟨rfl, rfl⟩

/-- A unit with the literal for a string gives one token, which has the string as its value and
the whole unit as its text. -/
theorem tokenize_literal (name s : String) (options : Options) :
    ((SourceUnit.mk name (Quoted.literal s)).tokenize options).tokens =
        [⟨.stringLiteral, Quoted.literal s, ⟨0, (SourceUnit.mk name (Quoted.literal s)).size⟩, 1, 1,
            some (.string s), none, none⟩,
          .eof (SourceUnit.mk name (Quoted.literal s)).endPosition] ∧
      ((SourceUnit.mk name (Quoted.literal s)).tokenize options).errors = [] := by
  have text : (SourceUnit.mk name (Quoted.literal s)).chars =
      '"' :: (Quoted.encode s.toList ++ ['"']) := by
    rw [SourceUnit.chars, Quoted.literal, String.toList_ofList]
  have inert : Inert (SourceUnit.mk name (Quoted.literal s)).chars := by
    rw [text]
    exact .plain (by decide) ((Quoted.inert_encode s.toList).append (.plain (by decide) .nil))
  have reads := Lexeme.read_literal s.toList
  rw [String.ofList_toList] at reads
  exact tokenize_of_read options inert text (by rw [text]; rfl) (by simpa using reads)

end JavaLex
