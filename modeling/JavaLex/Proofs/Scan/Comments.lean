import JavaLex.Proofs.Scan.Run

/-! # Comments as tokens

A scan that keeps comments and one that skips them pass the same lexemes. A comment that is kept
interns no name and reports no error, so the two scans differ in the tokens of comments only.
-/

namespace JavaLex

def Kind.isComment : Kind → Bool
  | .comment _ => true
  | _ => false

def withoutComments (tokens : List Token) : List Token :=
  tokens.filter fun token => !token.kind.isComment

theorem Kind.isComment_eq_false {kind : Kind}
    (other : kind.isKeyword = true ∨ kind.isLiteral = true ∨ kind.isOperator = true) :
    kind.isComment = false := by
  cases kind with
  | comment => rcases other with keyword | literal | operator <;> contradiction
  | _ => rfl

namespace Scanner

variable {scanner later last : Scanner} {here : Cursor} {c : Char} {rest : List Char}
  {result : Option Token} {tokens : List Token}

def skipping (scanner : Scanner) : Scanner :=
  { scanner with options := { scanner.options with keepComments := false } }

/-- A lexeme does to a scanner that skips comments what it does to one that keeps them, but for
the token of a comment. -/
theorem Accepts.skipping (accepts : Accepts scanner here (here.lexeme c rest) result later) :
    Accepts scanner.skipping here (here.lexeme c rest)
      (result.filter fun token => !token.kind.isComment) later.skipping := by
  cases accepts with
  | faulty errors => exact .faulty errors
  | token clean outcome =>
      have other := Kind.isComment_eq_false (.inr (here.isLiteral_or_isOperator outcome))
      rw [Option.filter_some_pos (by simpa [Token.plain] using other)]
      exact .token clean outcome
  | name clean outcome identifier => exact .name clean outcome identifier
  | @reserved kind value clean outcome other classified =>
      have word := Reserved.kind_classify scanner.options.allowUnderscore
        (here.textOf (here.lexeme c rest))
      rw [classified] at word
      have plain := Kind.isComment_eq_false ((word.resolve_left other).imp_right .inl)
      rw [Option.filter_some_pos (by simpa [Token.plain] using plain)]
      exact .reserved clean outcome other classified
  | comment clean outcome => exact .skipped clean outcome rfl
  | skipped clean outcome => exact .skipped clean outcome rfl

/-- By the lexemes of the run: both scanners stand at the same one after each. -/
theorem Run.skipping (run : Run scanner tokens last) :
    Run scanner.skipping (withoutComments tokens) last.skipping := by
  induction run with
  | exhausted exhausted => exact .exhausted exhausted
  | ended going ended => exact .ended going ended
  | skipped going chars accepts _ ih => exact .skipped going chars accepts.skipping ih
  | @token _ _ _ _ _ token _ going chars accepts _ ih =>
      have skips := accepts.skipping
      by_cases comment : token.kind.isComment = true
      · rw [Option.filter_some_neg (by simpa using comment)] at skips
        rw [withoutComments, List.filter_cons_of_neg (by simpa using comment)]
        exact .skipped going chars skips ih
      · rw [Option.filter_some_pos (by simpa using comment)] at skips
        rw [withoutComments, List.filter_cons_of_pos (by simpa using comment)]
        exact .token going chars skips ih

end Scanner

/-- Keeping comments adds their tokens to a scan and changes nothing else: the other tokens, the
errors and the names are those of the scan that skips comments. -/
theorem tokenize_keepComments (unit : SourceUnit) (allowUnderscore : Bool) :
    withoutComments (unit.tokenize ⟨true, allowUnderscore⟩).tokens =
        (unit.tokenize ⟨false, allowUnderscore⟩).tokens ∧
      (unit.tokenize ⟨true, allowUnderscore⟩).errors =
        (unit.tokenize ⟨false, allowUnderscore⟩).errors ∧
      (unit.tokenize ⟨true, allowUnderscore⟩).names =
        (unit.tokenize ⟨false, allowUnderscore⟩).names := by
  obtain ⟨last, run, errors, names⟩ := unit.run_tokenize ⟨true, allowUnderscore⟩
  have skips : Scanner.Run (.start ⟨false, allowUnderscore⟩ unit) _ _ := run.skipping
  rw [skips.tokenize_eq]
  exact ⟨rfl, errors, names⟩

/-- The comment between the names is kept apart; the one with a malformed escape is no comment. -/
example :
    (withoutComments (SourceUnit.tokenize ⟨"Note.java", "a/** b */c//\\u"⟩
        ⟨true, false⟩).tokens).map Token.kind = [.identifier, .identifier, .error, .eof] := by
  decide +kernel

end JavaLex
