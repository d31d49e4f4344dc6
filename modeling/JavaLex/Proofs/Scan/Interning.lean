import JavaLex.Proofs.Scan.Names
import JavaLex.Proofs.Scan.Run

/-! # Names of a scan

Interning gives each spelling one index for ever, in order of first appearance. A scan interns the
texts of its identifiers in the order of the tokens, and nothing else.
-/

namespace JavaLex

/-! ## Lexemes -/

def Token.identifier? (token : Token) : Option String :=
  if token.kind = .identifier then some token.text else none

def identifierTexts (tokens : List Token) : List String :=
  tokens.filterMap Token.identifier?

theorem identifierTexts_of_identifier {token : Token} (identifier : token.kind = .identifier)
    (tokens : List Token) :
    identifierTexts (token :: tokens) = token.text :: identifierTexts tokens := by
  have named : token.identifier? = some token.text := if_pos identifier
  exact List.filterMap_cons_some named

theorem identifierTexts_of_other {token : Token} (other : token.kind ≠ .identifier)
    (tokens : List Token) : identifierTexts (token :: tokens) = identifierTexts tokens := by
  have nameless : token.identifier? = none := if_neg other
  exact List.filterMap_cons_none nameless

namespace Scanner

variable {scanner later last : Scanner} {here : Cursor} {c : Char} {rest : List Char}
  {token : Token} {result : Option Token} {tokens : List Token}

/-- An identifier is interned by its text, and no other token has a name. -/
theorem Accepts.named (accepts : Accepts scanner here (here.lexeme c rest) (some token) later) :
    (token.kind = .identifier ∧ token.name = some (scanner.names.intern token.text).1 ∧
        later.names = (scanner.names.intern token.text).2) ∨
      (token.kind ≠ .identifier ∧ token.name = none ∧ later.names = scanner.names) := by
  cases accepts with
  | faulty => exact .inr ⟨(fun same => by cases same), rfl, rfl⟩
  | token _ outcome =>
      refine .inr ⟨?_, rfl, rfl⟩
      rintro rfl
      rcases here.isLiteral_or_isOperator outcome with literal | operator
      · cases literal
      · cases operator
  | name => exact .inl ⟨rfl, rfl, rfl⟩
  | reserved _ _ other => exact .inr ⟨other, rfl, rfl⟩
  | comment => exact .inr ⟨(fun same => by cases same), rfl, rfl⟩

/-- The name of a token is its text, in every table that knows the names so far. -/
theorem Accepts.name_eq (accepts : Accepts scanner here (here.lexeme c rest) (some token) later)
    {names : NameTable} (grows : later.names.spellings <+: names.spellings) :
    token.name.map names.spelling? =
      if token.kind = .identifier then some (some token.text) else none := by
  rcases accepts.named with ⟨identifier, name, names⟩ | ⟨other, name, -⟩
  · rw [names] at grows
    rw [name, if_pos identifier, Option.map_some,
      NameTable.spelling?_of_prefix grows (scanner.names.spelling?_intern _)]
  · rw [name, if_neg other, Option.map_none]

/-! ## Runs -/

theorem Run.names_eq (run : Run scanner tokens last) :
    last.names = scanner.names.internAll (identifierTexts tokens) := by
  induction run with
  | exhausted => rfl
  | ended => rfl
  | skipped _ _ accepts _ ih => rw [ih, accepts.names_eq]
  | token _ _ accepts _ ih =>
      rcases accepts.named with ⟨identifier, -, names⟩ | ⟨other, -, names⟩
      · rw [ih, names, identifierTexts_of_identifier identifier, NameTable.internAll_cons]
      · rw [ih, names, identifierTexts_of_other other]

theorem Run.spellings_prefix (run : Run scanner tokens last) :
    scanner.names.spellings <+: last.names.spellings := by
  rw [run.names_eq]
  exact NameTable.spellings_prefix_internAll _ _

theorem Run.name_eq (run : Run scanner tokens last) {names : NameTable}
    (grows : last.names.spellings <+: names.spellings) :
    ∀ token ∈ tokens, token.name.map names.spelling? =
      if token.kind = .identifier then some (some token.text) else none := by
  induction run with
  | exhausted => exact fun token member => by obtain rfl := List.mem_singleton.mp member; rfl
  | ended => exact fun token member => by obtain rfl := List.mem_singleton.mp member; rfl
  | skipped _ _ _ _ ih => exact ih grows
  | token _ _ accepts run ih =>
      intro other member
      rcases List.mem_cons.mp member with rfl | later
      · exact accepts.name_eq (run.spellings_prefix.trans grows)
      · exact ih grows other later

end Scanner

/-! ## Units -/

namespace SourceUnit

variable (unit : SourceUnit) (options : Options)

theorem names_tokenize :
    (unit.tokenize options).names =
      NameTable.empty.internAll (identifierTexts (unit.tokenize options).tokens) := by
  obtain ⟨last, run, -, names⟩ := unit.run_tokenize options
  rw [names, run.names_eq]
  rfl

theorem exists_name_tokenize {token : Token} (member : token ∈ (unit.tokenize options).tokens)
    (identifier : token.kind = .identifier) :
    ∃ index, token.name = some index ∧
      (unit.tokenize options).names.spelling? index = some token.text := by
  obtain ⟨last, run, -, names⟩ := unit.run_tokenize options
  have resolved := run.name_eq (List.prefix_refl _) token member
  rw [if_pos identifier, ← names] at resolved
  exact Option.map_eq_some_iff.mp resolved

end SourceUnit

theorem NameTable.nodup_internAll_empty (calls : List String) :
    (empty.internAll calls).spellings.Nodup :=
  nodup_internAll List.nodup_nil calls

theorem NameTable.spellings_internAll_empty (calls : List String) :
    (empty.internAll calls).spellings = calls.eraseDups := by
  rw [spellings_internAll]
  simp [empty]

/-- After any calls, the symbols of a table are numbered in order of first appearance, and a symbol
that is issued never changes its meaning. As long as there are words for all spellings, map and
array are inverse to each other, and the symbols in use are the words below the size. The names of
a unit are the texts of its identifiers, interned in order, and a symbol table holds the same after
the same calls; two identifiers share a name exactly if they share their text. -/
theorem interning_exact :
    (∀ calls : List String,
      let table := SymbolTable.empty.internAll calls
      (calls.eraseDups.length ≤ UInt32.size →
        (∀ spelling symbol,
          table.get? spelling = some symbol ↔ table.resolve? symbol = some spelling) ∧
        ∀ symbol, (∃ spelling, table.resolve? symbol = some spelling) ↔
          symbol.toNat < table.size) ∧
      table.entries = calls.eraseDups.zipIdx.map (fun (spelling, index) =>
        (index.toUInt32, spelling)) ∧
      (∀ spelling, (table.intern spelling).2.get? spelling = some (table.intern spelling).1) ∧
      ∀ later spelling symbol,
        (table.get? spelling = some symbol →
          (table.internAll later).get? spelling = some symbol) ∧
        (table.resolve? symbol = some spelling →
          (table.internAll later).resolve? symbol = some spelling)) ∧
    ∀ (unit : SourceUnit) (options : Options),
      let scanned := unit.tokenize options
      scanned.names = NameTable.empty.internAll (identifierTexts scanned.tokens) ∧
      (SymbolTable.empty.internAll (identifierTexts scanned.tokens)).Holds scanned.names ∧
      scanned.names.spellings = (identifierTexts scanned.tokens).eraseDups ∧
      (∀ token ∈ scanned.tokens, token.kind = .identifier →
        ∃ index, token.name = some index ∧ scanned.names.spelling? index = some token.text) ∧
      ∀ first ∈ scanned.tokens, ∀ second ∈ scanned.tokens,
        first.kind = .identifier → second.kind = .identifier →
          (first.name = second.name ↔ first.text = second.text) := by
  refine ⟨fun calls => ?tables, fun unit options => ?units⟩
  case tables =>
    have holds := SymbolTable.holds_empty.internAll calls
    have distinct := NameTable.nodup_internAll_empty calls
    have listed := NameTable.spellings_internAll_empty calls
    refine ⟨fun room => ⟨?inverse, fun symbol => ?used⟩, ?entries, SymbolTable.get?_intern _,
      fun later spelling symbol => SymbolTable.internAll_of_some later⟩
    case inverse =>
      apply holds.get?_eq_some_iff distinct
      rwa [NameTable.size, listed]
    case used =>
      simp only [holds.resolve?_eq, holds.size_eq]
      exact NameTable.exists_spelling?_iff
    case entries => rw [holds.entries_eq, listed]
  case units =>
    have names := unit.names_tokenize options
    refine ⟨names, ?holds, ?listed, fun token => unit.exists_name_tokenize options, ?shared⟩
    case holds =>
      rw [names]
      exact SymbolTable.holds_empty.internAll _
    case listed => rw [names, NameTable.spellings_internAll_empty]
    case shared =>
      intro first firstMember second secondMember firstKind secondKind
      obtain ⟨index, firstName, firstText⟩ :=
        unit.exists_name_tokenize options firstMember firstKind
      obtain ⟨other, secondName, secondText⟩ :=
        unit.exists_name_tokenize options secondMember secondKind
      rw [firstName, secondName, Option.some.injEq]
      constructor
      · rintro rfl
        exact Option.some.inj (firstText.symm.trans secondText)
      · intro same
        have distinct := NameTable.nodup_internAll_empty
          (identifierTexts (unit.tokenize options).tokens)
        rw [← names] at distinct
        rw [← NameTable.index?_eq_some_iff distinct] at firstText secondText
        rw [same, secondText] at firstText
        exact (Option.some.inj firstText).symm

/-- The second identifier is written with an escape; the last one is the same name. -/
theorem interning_exact_escape :
    (SourceUnit.tokenize ⟨"Names.java", "b \\u0061 int b a"⟩ .usual).names.spellings = ["b", "a"] ∧
      (∃ first ∈ (SourceUnit.tokenize ⟨"Names.java", "b \\u0061 int b a"⟩ .usual).tokens,
        ∃ second ∈ (SourceUnit.tokenize ⟨"Names.java", "b \\u0061 int b a"⟩ .usual).tokens,
          first.span = ⟨2, 8⟩ ∧ second.span = ⟨15, 16⟩ ∧ first.name = second.name) ∧
      ∃ symbol, (SymbolTable.empty.internAll ["b", "a", "b", "a"]).get? "a" = some symbol ∧
        (SymbolTable.empty.internAll ["b", "a", "b", "a"]).resolve? symbol = some "a" := by
  obtain ⟨tables, units⟩ := interning_exact
  obtain ⟨-, -, spellings, -, shared⟩ := units ⟨"Names.java", "b \\u0061 int b a"⟩ .usual
  refine ⟨spellings.trans (by decide +kernel),
    ⟨⟨.identifier, "a", ⟨2, 8⟩, 1, 3, none, none, some 1⟩, by decide +kernel,
      ⟨.identifier, "a", ⟨15, 16⟩, 1, 16, none, none, some 1⟩, by decide +kernel, rfl, rfl, ?_⟩, ?_⟩
  · exact (shared _ (by decide +kernel) _ (by decide +kernel) rfl rfl).mpr rfl
  · obtain ⟨-, -, found, -⟩ := tables ["b", "a", "b"]
    have here := found "a"
    exact ⟨_, here, (((tables ["b", "a", "b", "a"]).1 (by decide)).1 _ _).mp here⟩

end JavaLex
