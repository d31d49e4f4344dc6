import JavaLex.Proofs.Report.Spelling
import JavaLex.Report.Listing

/-! # Listings line by line

A line of a listing shows the line, the column, the kind and the text of a token, and all four can
be read back from it, whatever its columns are filled up with. As no line holds the end of another
one, a listing has one line for each token and tells all of them.
-/

namespace JavaLex

open Charset

/-! ## Names of kinds -/

namespace Kind

theorem mem_all (kind : Kind) : kind ∈ all := by
  unfold all
  cases kind with
  | keyword word => simp [Keyword.mem_all word]
  | operator symbol => simp [Operator.mem_all symbol]
  | comment style => cases style <;> simp
  | _ => simp

/-- Names tell the kinds apart. -/
theorem ofName?_name (kind : Kind) : ofName? kind.name = some kind := by
  have each : (all.all fun kind => ofName? kind.name == some kind) = true := by decide +kernel
  exact eq_of_beq (List.all_eq_true.mp each kind (mem_all kind))

theorem name_injective {kind other : Kind} (same : kind.name = other.name) : kind = other := by
  have found := ofName?_name kind
  rw [same, ofName?_name] at found
  exact (Option.some.inj found).symm

theorem separator_not_mem_name (kind : Kind) :
    ' ' ∉ kind.name.toList ∧ '\n' ∉ kind.name.toList := by
  have each : (all.all fun kind =>
      !kind.name.toList.contains ' ' && !kind.name.toList.contains '\n') = true := by
    decide +kernel
  simpa using List.all_eq_true.mp each kind (mem_all kind)

end Kind

/-! ## Columns -/

theorem toDigits_injective {m n : Nat} (same : Nat.toDigits 10 m = Nat.toDigits 10 n) : m = n :=
  calc
    m = Nat.ofDigitChars 10 (Nat.toDigits 10 m) 0 := Nat.ofDigitChars_ten_toDigits.symm
    _ = Nat.ofDigitChars 10 (Nat.toDigits 10 n) 0 := by rw [same]
    _ = n := Nat.ofDigitChars_ten_toDigits

theorem not_mem_toDigits {n : Nat} {c : Char} (other : c.isDigit = false) :
    c ∉ Nat.toDigits 10 n := by
  intro member
  rw [Nat.isDigit_of_mem_toDigits (by decide) (by decide) member] at other
  cases other

theorem Position.toList_label (place : Position) :
    place.label.toList = Nat.toDigits 10 place.line ++ ':' :: Nat.toDigits 10 place.column := by
  have whole : place.label = toString place.line ++ ":" ++ toString place.column := rfl
  rw [whole, String.toList_append, String.toList_append, List.append_assoc]
  simp

theorem toList_padLeft (width : Nat) (text : String) :
    (padLeft width text).toList = List.replicate (width - text.length) ' ' ++ text.toList := by
  rw [padLeft, String.toList_append, String.toList_ofList]

theorem toList_padRight (width : Nat) (text : String) :
    (padRight width text).toList = text.toList ++ List.replicate (width - text.length) ' ' := by
  rw [padRight, String.toList_append, String.toList_ofList]

theorem dropWhile_padLeft (width : Nat) {text : String} (blank : ' ' ∉ text.toList)
    (filled : text.toList ≠ []) (rest : List Char) :
    ((padLeft width text).toList ++ rest).dropWhile (· == ' ') = text.toList ++ rest := by
  obtain ⟨c, others, spelled⟩ := List.exists_cons_of_ne_nil filled
  have other : (c == ' ') = false := by
    rw [beq_eq_false_iff_ne]
    rintro rfl
    exact blank (spelled ▸ List.mem_cons_self)
  rw [toList_padLeft, List.append_assoc, spelled,
    List.dropWhile_append_of_pos fun d member => beq_iff_eq.mpr (List.eq_of_mem_replicate member),
    List.cons_append, List.dropWhile_cons_of_neg (by simp [other])]

/-- A column filled up on the left ends at the first blank behind its text. -/
theorem padLeft_append_inj {width : Nat} {first second : String} {rest more : List Char}
    (front : ' ' ∉ first.toList) (back : ' ' ∉ second.toList) (filled : first.toList ≠ [])
    (full : second.toList ≠ [])
    (same : (padLeft width first).toList ++ ' ' :: rest =
      (padLeft width second).toList ++ ' ' :: more) : first = second ∧ rest = more := by
  have dropped := congrArg (List.dropWhile (· == ' ')) same
  rw [dropWhile_padLeft width front filled, dropWhile_padLeft width back full] at dropped
  obtain ⟨text, later⟩ := append_mark_inj front back dropped
  exact ⟨String.toList_inj.mp text, later⟩

/-- One of the blanks behind a column filled up on the right can be put right behind its text. -/
theorem padRight_append_blank (width : Nat) (text : String) (rest : List Char) :
    (padRight width text).toList ++ ' ' :: rest =
      text.toList ++ ' ' :: (List.replicate (width - text.length) ' ' ++ rest) := by
  rw [toList_padRight, List.append_assoc, List.append_cons (List.replicate _ ' '),
    ← List.replicate_succ', List.replicate_succ, List.cons_append]

/-- A column filled up on the right ends where its width says, once its text is known. -/
theorem padRight_append_inj {width : Nat} {first second : String} {rest more : List Char}
    (front : ' ' ∉ first.toList) (back : ' ' ∉ second.toList)
    (same : (padRight width first).toList ++ ' ' :: rest =
      (padRight width second).toList ++ ' ' :: more) : first = second ∧ rest = more := by
  rw [padRight_append_blank, padRight_append_blank] at same
  obtain ⟨text, later⟩ := append_mark_inj front back same
  obtain rfl := String.toList_inj.mp text
  exact ⟨rfl, List.append_cancel_left later⟩

/-! ## Lines -/

@[ext]
structure ListingRow where
  line : Nat
  column : Nat
  kind : Kind
  text : String

namespace ListingRow

def label (row : ListingRow) : String :=
  Position.label ⟨0, row.line, row.column⟩

def columns (row : ListingRow) : List Char :=
  (padLeft 8 row.label).toList ++ ' ' :: ' ' ::
    ((padRight 24 row.kind.name).toList ++ ' ' :: listing row.text.toList)

variable {row other : ListingRow}

theorem separator_not_mem_label (row : ListingRow) {c : Char} (digit : c.isDigit = false)
    (colon : c ≠ ':') : c ∉ row.label.toList := by
  rw [label, Position.toList_label, List.mem_append, List.mem_cons, not_or, not_or]
  exact ⟨not_mem_toDigits digit, colon, not_mem_toDigits digit⟩

theorem newline_not_mem_columns (row : ListingRow) : '\n' ∉ row.columns := by
  have place := row.separator_not_mem_label (c := '\n') (by decide) (by decide)
  have kind := row.kind.separator_not_mem_name.2
  have text := (shownText_listing row.text.toList).newline_not_mem
  simp [columns, toList_padLeft, toList_padRight, place, kind, text]

theorem label_injective (same : row.label = other.label) :
    row.line = other.line ∧ row.column = other.column := by
  have spelled := congrArg String.toList same
  rw [label, label, Position.toList_label, Position.toList_label] at spelled
  have colon : Char.isDigit ':' = false := by decide
  obtain ⟨line, column⟩ := append_mark_inj (not_mem_toDigits colon) (not_mem_toDigits colon) spelled
  exact ⟨toDigits_injective line, toDigits_injective column⟩

theorem label_ne_nil (row : ListingRow) : row.label.toList ≠ [] := by
  rw [label, Position.toList_label]
  simp

theorem columns_injective (same : row.columns = other.columns) : row = other := by
  have blank : Char.isDigit ' ' = false := by decide
  obtain ⟨place, later⟩ := padLeft_append_inj
    (row.separator_not_mem_label blank (by decide))
    (other.separator_not_mem_label blank (by decide)) row.label_ne_nil other.label_ne_nil same
  obtain ⟨kind, text⟩ := padRight_append_inj row.kind.separator_not_mem_name.1
    other.kind.separator_not_mem_name.1 (List.cons.inj later).2
  obtain ⟨line, column⟩ := label_injective place
  have spelled := shownText_listing row.text.toList
  rw [text] at spelled
  have chars := spelled.unique (shownText_listing other.text.toList)
  exact ListingRow.ext line column (Kind.name_injective kind) (String.toList_inj.mp chars)

theorem eq_of_flatMap_columns {rows others : List ListingRow}
    (same : rows.flatMap (fun row => row.columns ++ ['\n']) =
      others.flatMap fun row => row.columns ++ ['\n']) : rows = others := by
  induction rows generalizing others with
  | nil =>
      cases others with
      | nil => rfl
      | cons other others => simp at same
  | cons row rows ih =>
      cases others with
      | nil => simp at same
      | cons other others =>
          rw [List.flatMap_cons, List.flatMap_cons, List.append_assoc, List.append_assoc] at same
          obtain ⟨here, later⟩ :=
            append_mark_inj row.newline_not_mem_columns other.newline_not_mem_columns same
          rw [columns_injective here, ih later]

theorem count_newline (rows : List ListingRow) :
    (rows.flatMap fun row => row.columns ++ ['\n']).count '\n' = rows.length := by
  induction rows with
  | nil => rfl
  | cons row rows ih =>
      have inner := List.count_eq_zero_of_not_mem row.newline_not_mem_columns
      rw [List.flatMap_cons, List.count_append, List.count_append, ih, inner, List.length_cons,
        List.count_singleton_self, Nat.zero_add, Nat.add_comm]

end ListingRow

/-! ## Listings -/

def Token.row (token : Token) : ListingRow :=
  ⟨token.line, token.column, token.kind, token.text⟩

def listingRows (tokens : List Token) : List ListingRow :=
  (tokens.filter (!·.isEof)).map Token.row

theorem Token.toList_plainLine (token : Token) :
    token.plainLine.toList = token.row.columns ++ ['\n'] := by
  have label : token.position.label = token.row.label := rfl
  simp [plainLine, listingLine, ListingRow.columns, label, listed, row]

theorem toList_listTokens (tokens : List Token) :
    (listTokens false tokens).toList =
      (listingRows tokens).flatMap fun row => row.columns ++ ['\n'] := by
  rw [listTokens, String.toList_join, listingRows, List.flatMap_map, List.flatMap_map]
  exact congrArg (List.flatMap · _) (funext Token.toList_plainLine)

/-- A listing without colours has one line for each token but the sentinel, and no line holds the
end of another one, whatever the texts are. Two listings are the same only if they show the same
lines, columns, kinds and texts in the same order. The closing line of a unit names the number of
lines. -/
theorem listing_unambiguous (tokens : List Token) :
    listTokens false tokens =
        String.join ((tokens.filter (!·.isEof)).map Token.plainLine) ∧
      (∀ token : Token, ∃ columns, token.plainLine.toList = columns ++ ['\n'] ∧ '\n' ∉ columns) ∧
      (listTokens false tokens).toList.count '\n' = (tokens.filter (!·.isEof)).length ∧
      (∀ others, listTokens false tokens = listTokens false others ↔
        listingRows tokens = listingRows others) ∧
      ∀ unit : ScannedUnit, unit.summary =
        Style.brightCyan.wrap "==>" ++ " " ++ styled [.white, .bold] unit.source.name ++ ": " ++
          toString ((listTokens false unit.tokens).toList.count '\n') ++ " tokens, " ++
          (if unit.hasErrors then Style.red.wrap (toString unit.errors.length ++ " error(s)")
            else Style.green.wrap "ok") ++ "\n" := by
  have newlines : ∀ tokens : List Token,
      (listTokens false tokens).toList.count '\n' = (tokens.filter (!·.isEof)).length := by
    intro tokens
    rw [toList_listTokens, ListingRow.count_newline, listingRows, List.length_map]
  refine ⟨rfl, fun token => ⟨_, token.toList_plainLine, token.row.newline_not_mem_columns⟩,
    newlines tokens, fun others => ⟨fun same => ?rows, fun same => ?output⟩, fun unit => ?summary⟩
  case rows =>
    have lines := congrArg String.toList same
    rw [toList_listTokens, toList_listTokens] at lines
    exact ListingRow.eq_of_flatMap_columns lines
  case output =>
    rw [← String.toList_inj, toList_listTokens, toList_listTokens, same]
  case summary =>
    rw [newlines unit.tokens]
    rfl

end JavaLex
