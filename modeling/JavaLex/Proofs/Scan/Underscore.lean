import JavaLex.Proofs.Scan.Interning
import Mathlib.Data.List.Forall2

/-! # The lone underscore

Two scans of a unit, one of which allows the underscore as an identifier, pass the same lexemes.
The table of reserved words is consulted for words only and has one entry more in the other scan,
so the two differ in the tokens of lone underscores and in the name that these have.
-/

namespace JavaLex

/-- Two tokens agree but for a lone underscore, which is reserved as the first of them and an
identifier as the second, and but for the indices of names. -/
structure Token.AgreesButUnderscore (reserved allowed : Token) : Prop where
  text : reserved.text = allowed.text
  span : reserved.span = allowed.span
  line : reserved.line = allowed.line
  column : reserved.column = allowed.column
  value : reserved.value = allowed.value
  error : reserved.error = allowed.error
  underscore : reserved.text = "_" → reserved.kind ≠ .error →
    reserved.kind = .keyword .underscore ∧ reserved.name = none ∧
      allowed.kind = .identifier ∧ allowed.name.isSome = true
  other : reserved.text ≠ "_" ∨ reserved.kind = .error →
    reserved.kind = allowed.kind ∧ reserved.name.isSome = allowed.name.isSome

theorem Token.AgreesButUnderscore.refl {token : Token}
    (other : token.text = "_" → token.kind = .error) : token.AgreesButUnderscore token where
  text := rfl
  span := rfl
  line := rfl
  column := rfl
  value := rfl
  error := rfl
  underscore alone sound := absurd (other alone) sound
  other _ := ⟨rfl, rfl⟩

theorem Token.AgreesButUnderscore.eof (place : Position) :
    (Token.eof place).AgreesButUnderscore (Token.eof place) :=
  .refl fun alone => absurd alone (by change "" ≠ "_"; decide)

/-! ## Words -/

namespace Reserved

theorem classify_of_ne {text : String} (other : text ≠ "_") :
    classify true text = classify false text := by
  have missing : ("_" == text) = false := beq_false_of_ne other.symm
  have same : lookup? true text = lookup? false text := by
    simp only [lookup?, table, List.find?_append, List.append_assoc, Bool.false_eq_true, ↓reduceIte,
      List.find?_cons, Keyword.spelling, missing, List.find?_nil, Option.none_or]
  rw [classify, classify, same]

theorem classify_underscore :
    classify false "_" = (.keyword .underscore, none) ∧
      classify true "_" = (.identifier, none) := by
  decide

end Reserved

namespace Cursor

/-- A lexeme without faults that reads as a lone underscore is a word. -/
theorem outcome_of_underscore {here : Cursor} {c : Char} {rest : List Char}
    (chars : here.chars = c :: rest) (clean : here.faults (here.lexeme c rest) = [])
    (alone : here.textOf (here.lexeme c rest) = "_") :
    (here.lexeme c rest).outcome = .word := by
  have plain : here.lexeme c rest = Lexeme.read c rest := by
    by_cases marked : here.atMalformed = true
    · have escapes := (faults_eq_nil_iff.mp clean).1
      exact absurd escapes (malformedWithin_ne_nil marked (here.size_lexeme_pos c rest))
    · rw [lexeme, if_neg marked]
  have positive := Lexeme.size_read_pos c rest
  have first := congrArg (fun text => text.toList.head?) alone
  simp only [plain, textOf, chars, String.toList_ofList, List.head?_take, List.head?_cons,
    if_neg (Nat.ne_of_gt positive)] at first
  obtain rfl : c = '_' := by simpa using first
  have word : Lexeme.ReadAs '_' rest (Lexeme.word rest) := .word rest (by decide)
  rw [plain, word.read_eq]
  rfl

end Cursor

/-! ## Two scanners -/

namespace Scanner

/-- The second scanner stands where the first one does and allows the underscore. -/
structure Allows (first second : Scanner) : Prop where
  source : first.source = second.source
  cursor : first.cursor = second.cursor
  errors : first.errors = second.errors
  exhausted : first.exhausted = second.exhausted
  keepComments : first.options.keepComments = second.options.keepComments
  reserved : first.options.allowUnderscore = false
  allowed : second.options.allowUnderscore = true

namespace Allows

variable {first second later last : Scanner} {here : Cursor} {c : Char} {rest : List Char}
  {result : Option Token} {tokens : List Token}

/-- A lexeme does the same to both scanners, but for a lone underscore. -/
theorem accepts (allows : Allows first second) (chars : here.chars = c :: rest)
    (accepts : Accepts first here (here.lexeme c rest) result later) :
    ∃ result' later', Accepts second here (here.lexeme c rest) result' later' ∧
      Option.Rel Token.AgreesButUnderscore result result' ∧ Allows later later' := by
  obtain ⟨source, -, errors, exhausted, keepComments, reserved, allowed⟩ := allows
  have goesOn : Allows { first with cursor := here.advance (here.lexeme c rest).size }
      { second with cursor := here.advance (here.lexeme c rest).size } :=
    ⟨source, rfl, errors, exhausted, keepComments, reserved, allowed⟩
  cases accepts with
  | faulty found =>
      refine ⟨_, _, .faulty found, .some (.refl fun _ => rfl), source, rfl, ?_, rfl, keepComments,
        reserved, allowed⟩
      rw [errors]
  | token clean outcome =>
      refine ⟨_, _, .token clean outcome, .some (.refl fun alone => ?_), goesOn⟩
      have word := Cursor.outcome_of_underscore chars clean alone
      cases outcome.symm.trans word
  | name clean outcome identifier =>
      have other : here.textOf (here.lexeme c rest) ≠ "_" := by
        intro alone
        rw [reserved, alone, Reserved.classify_underscore.1] at identifier
        cases identifier
      rw [reserved, ← Reserved.classify_of_ne other, ← allowed] at identifier
      refine ⟨_, _, .name clean outcome identifier, .some ?_, source, rfl, errors, exhausted,
        keepComments, reserved, allowed⟩
      exact ⟨rfl, rfl, rfl, rfl, rfl, rfl, fun alone => absurd alone other, fun _ => ⟨rfl, rfl⟩⟩
  | @reserved kind value clean outcome named classified =>
      by_cases alone : here.textOf (here.lexeme c rest) = "_"
      · have identifier : (Reserved.classify second.options.allowUnderscore
            (here.textOf (here.lexeme c rest))).1 = .identifier := by
          rw [allowed, alone, Reserved.classify_underscore.2]
        rw [reserved, alone, Reserved.classify_underscore.1] at classified
        obtain ⟨rfl, rfl⟩ := Prod.mk.inj classified
        refine ⟨_, _, .name clean outcome identifier, .some ?_, source, rfl, errors, exhausted,
          keepComments, reserved, allowed⟩
        refine ⟨rfl, rfl, rfl, rfl, rfl, rfl, fun _ _ => ⟨rfl, rfl, rfl, rfl⟩, fun other => ?_⟩
        rcases other with longer | faulty
        · exact absurd alone longer
        · cases faulty
      · rw [reserved, ← Reserved.classify_of_ne alone, ← allowed] at classified
        exact ⟨_, _, .reserved clean outcome named classified,
          .some (.refl fun same => absurd same alone), goesOn⟩
  | comment clean outcome kept =>
      refine ⟨_, _, .comment clean outcome (keepComments ▸ kept), .some (.refl fun alone => ?_),
        goesOn⟩
      have word := Cursor.outcome_of_underscore chars clean alone
      cases outcome.symm.trans word
  | skipped clean outcome dropped =>
      exact ⟨_, _, .skipped clean outcome (keepComments ▸ dropped), .none, goesOn⟩

theorem atLexeme (allows : Allows first second) : first.atLexeme = second.atLexeme := by
  rw [Scanner.atLexeme, Scanner.atLexeme, allows.cursor]

theorem passes {lexeme : Lexeme} (allows : Allows first second)
    (passes : Passes first lexeme result later) :
    ∃ result' later', Passes second lexeme result' later' ∧
      Option.Rel Token.AgreesButUnderscore result result' ∧ Allows later later' := by
  obtain ⟨going, ⟨c, rest, chars, rfl⟩, accepts⟩ := passes
  rw [allows.exhausted] at going
  rw [allows.atLexeme] at chars accepts ⊢
  obtain ⟨result', later', accepts', agrees, after⟩ := allows.accepts chars accepts
  exact ⟨result', later', ⟨going, ⟨c, rest, chars, rfl⟩, accepts'⟩, agrees, after⟩

/-- By the lexemes of the run: both scanners stand at the same one after each. -/
theorem run (allows : Allows first second) (run : Run first tokens last) :
    ∃ tokens' last', Run second tokens' last' ∧
      List.Forall₂ Token.AgreesButUnderscore tokens tokens' ∧ Allows last last' := by
  induction run generalizing second with
  | exhausted exhausted =>
      refine ⟨_, _, .exhausted (allows.exhausted ▸ exhausted), .cons ?_ .nil, allows⟩
      rw [allows.source]
      exact .eof _
  | ended going ended =>
      have here := allows.atLexeme
      rw [here] at ended ⊢
      exact ⟨_, _, .ended (allows.exhausted ▸ going) ended, .cons (.eof _) .nil, allows.source, rfl,
        allows.errors, rfl, allows.keepComments, allows.reserved, allows.allowed⟩
  | skipped going chars accepts _ ih =>
      obtain ⟨result, later, passes, agrees, after⟩ :=
        allows.passes ⟨going, ⟨_, _, chars, rfl⟩, accepts⟩
      obtain ⟨tokens', last', run, tokens, ends⟩ := ih after
      cases agrees with
      | none => exact ⟨tokens', last', passes.run_skipped run, tokens, ends⟩
  | token going chars accepts _ ih =>
      obtain ⟨result, later, passes, agrees, after⟩ :=
        allows.passes ⟨going, ⟨_, _, chars, rfl⟩, accepts⟩
      obtain ⟨tokens', last', run, tokens, ends⟩ := ih after
      cases agrees with
      | some agrees => exact ⟨_, last', passes.run_token run, .cons agrees tokens, ends⟩

end Allows

end Scanner

/-! ## Names -/

theorem NameTable.filter_internAll (p : String → Bool) (names : NameTable) (texts : List String) :
    (names.internAll texts).spellings.filter p =
      (NameTable.internAll ⟨names.spellings.filter p⟩ (texts.filter p)).spellings := by
  induction texts generalizing names with
  | nil => rfl
  | cons text texts ih =>
      rw [internAll_cons, ih]
      by_cases known : text ∈ names.spellings
      · rw [intern_of_mem known]
        by_cases kept : p text = true
        · have also : text ∈ names.spellings.filter p := List.mem_filter.mpr ⟨known, kept⟩
          rw [List.filter_cons_of_pos kept, internAll_cons, intern_of_mem also]
        · rw [List.filter_cons_of_neg kept]
      · rw [intern_of_not_mem known, List.filter_append]
        by_cases kept : p text = true
        · have also : text ∉ names.spellings.filter p := fun member =>
            known (List.mem_filter.mp member).1
          rw [List.filter_cons_of_pos kept, List.filter_cons_of_pos kept, internAll_cons,
            intern_of_not_mem also]
          rfl
        · rw [List.filter_cons_of_neg kept, List.filter_cons_of_neg kept, List.filter_nil,
            List.append_nil]

/-- The identifiers of the first scan are those of the second that are no lone underscore. -/
theorem identifierTexts_eq_filter {tokens others : List Token}
    (agree : List.Forall₂ Token.AgreesButUnderscore tokens others) :
    identifierTexts tokens = (identifierTexts others).filter (· != "_") := by
  induction agree with
  | nil => rfl
  | @cons reserved allowed tokens others agrees _ ih =>
      by_cases alone : reserved.text = "_" ∧ reserved.kind ≠ .error
      · obtain ⟨kind, -, identifier, -⟩ := agrees.underscore alone.1 alone.2
        rw [identifierTexts_of_other (by rw [kind]; decide),
          identifierTexts_of_identifier identifier,
          List.filter_cons_of_neg (by rw [← agrees.text, alone.1]; decide), ih]
      · obtain ⟨kind, -⟩ := agrees.other (by simpa [imp_iff_not_or] using alone)
        by_cases identifier : reserved.kind = .identifier
        · have longer : reserved.text ≠ "_" := fun same => alone ⟨same, by rw [identifier]; decide⟩
          rw [identifierTexts_of_identifier identifier,
            identifierTexts_of_identifier (kind ▸ identifier), agrees.text,
            List.filter_cons_of_pos (by simpa [agrees.text] using longer), ih]
        · rw [identifierTexts_of_other identifier, identifierTexts_of_other (kind ▸ identifier), ih]

/-- Allowing the underscore turns the lone underscores of a unit into identifiers and adds their
name; the other tokens, the errors and the other names stay as they are, in the same order. -/
theorem tokenize_allowUnderscore (unit : SourceUnit) (keepComments : Bool) :
    List.Forall₂ Token.AgreesButUnderscore (unit.tokenize ⟨keepComments, false⟩).tokens
        (unit.tokenize ⟨keepComments, true⟩).tokens ∧
      (unit.tokenize ⟨keepComments, false⟩).errors = (unit.tokenize ⟨keepComments, true⟩).errors ∧
      (unit.tokenize ⟨keepComments, true⟩).names.spellings.filter (· != "_") =
        (unit.tokenize ⟨keepComments, false⟩).names.spellings := by
  obtain ⟨last, run, errors, -⟩ := unit.run_tokenize ⟨keepComments, false⟩
  have start : Scanner.Allows (.start ⟨keepComments, false⟩ unit)
      (.start ⟨keepComments, true⟩ unit) := ⟨rfl, rfl, rfl, rfl, rfl, rfl, rfl⟩
  obtain ⟨tokens, last', other, agree, ends⟩ := start.run run
  have scanned := other.tokenize_eq
  have agree' : List.Forall₂ Token.AgreesButUnderscore
      (unit.tokenize ⟨keepComments, false⟩).tokens (unit.tokenize ⟨keepComments, true⟩).tokens := by
    rw [scanned]
    exact agree
  refine ⟨agree', ?_, ?_⟩
  · rw [errors, ends.errors, scanned]
  · rw [unit.names_tokenize, unit.names_tokenize, NameTable.filter_internAll,
      identifierTexts_eq_filter agree']
    rfl

/-- The first underscore is written as an escape, the second one is part of an error, and the last
begins a longer name. -/
example :
    (SourceUnit.tokenize ⟨"Lone.java", "\\u005f 1_ b _c"⟩ ⟨false, false⟩).names.spellings =
        ["b", "_c"] ∧
      (SourceUnit.tokenize ⟨"Lone.java", "\\u005f 1_ b _c"⟩ ⟨false, true⟩).names.spellings =
        ["_", "b", "_c"] := by
  decide +kernel

end JavaLex
