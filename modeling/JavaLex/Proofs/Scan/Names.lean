import JavaLex.SymbolTable

/-! # Tables of names

A table of names is the list of its spellings, and interning appends to it. A symbol table, which
keeps a map and an array, holds such a list: the array is the list, and the map finds in it what a
search would find. As long as the words have room, the map and the array are then inverse to each
other.
-/

namespace JavaLex

/-! ## Lists of spellings -/

namespace NameTable

def internAll (names : NameTable) (spellings : List String) : NameTable :=
  spellings.foldl (fun names spelling => (names.intern spelling).2) names

theorem internAll_cons (names : NameTable) (spelling : String) (spellings : List String) :
    names.internAll (spelling :: spellings) = (names.intern spelling).2.internAll spellings := rfl

theorem intern_of_mem {names : NameTable} {spelling : String}
    (known : spelling ∈ names.spellings) : (names.intern spelling).2 = names := by
  unfold intern index?
  cases found : names.spellings.idxOf? spelling with
  | some index => rfl
  | none => exact absurd known (List.idxOf?_eq_none_iff.mp found)

theorem intern_of_not_mem {names : NameTable} {spelling : String}
    (new : spelling ∉ names.spellings) :
    names.intern spelling = (names.size, ⟨names.spellings ++ [spelling]⟩) := by
  unfold intern index?
  rw [List.idxOf?_eq_none_iff.mpr new]

/-- Interning keeps the spellings that are known. -/
theorem spellings_intern (names : NameTable) (spelling : String) :
    names.spellings <+: (names.intern spelling).2.spellings := by
  by_cases known : spelling ∈ names.spellings
  · exact ⟨[], by rw [intern_of_mem known, List.append_nil]⟩
  · rw [intern_of_not_mem known]
    exact List.prefix_append _ _

theorem spellings_prefix_internAll (names : NameTable) (spellings : List String) :
    names.spellings <+: (names.internAll spellings).spellings := by
  induction spellings generalizing names with
  | nil => exact List.prefix_refl _
  | cons spelling spellings ih => exact (names.spellings_intern spelling).trans (ih _)

theorem spelling?_of_prefix {names more : NameTable} (grows : names.spellings <+: more.spellings)
    {index : Nat} {spelling : String} (found : names.spelling? index = some spelling) :
    more.spelling? index = some spelling := by
  obtain ⟨rest, whole⟩ := grows
  obtain ⟨bound, -⟩ := List.getElem?_eq_some_iff.mp found
  rw [spelling?, ← whole, List.getElem?_append_left bound]
  exact found

/-- No spelling has two indices. -/
theorem nodup_intern {names : NameTable} (distinct : names.spellings.Nodup) (spelling : String) :
    (names.intern spelling).2.spellings.Nodup := by
  by_cases known : spelling ∈ names.spellings
  · rwa [intern_of_mem known]
  · rw [intern_of_not_mem known]
    refine List.nodup_append.mpr ⟨distinct, List.pairwise_singleton _ _, ?_⟩
    rintro old member new single rfl
    exact known (List.mem_singleton.mp single ▸ member)

theorem nodup_internAll {names : NameTable} (distinct : names.spellings.Nodup)
    (spellings : List String) : (names.internAll spellings).spellings.Nodup := by
  induction spellings generalizing names with
  | nil => exact distinct
  | cons spelling spellings ih => exact ih (nodup_intern distinct spelling)

theorem index?_eq_some_iff {names : NameTable} (distinct : names.spellings.Nodup)
    {spelling : String} {index : Nat} :
    names.index? spelling = some index ↔ names.spelling? index = some spelling := by
  rw [index?, spelling?, List.idxOf?_eq_some_iff, List.getElem?_eq_some_iff]
  constructor
  · rintro ⟨bound, found, -⟩
    exact ⟨bound, found⟩
  · rintro ⟨bound, found⟩
    refine ⟨bound, found, fun earlier lt same => ?_⟩
    have both : names.spellings[earlier]? = names.spellings[index]? := by
      rw [List.getElem?_eq_getElem (Nat.lt_trans lt bound), List.getElem?_eq_getElem bound, same,
        found]
    exact Nat.ne_of_lt lt ((List.getElem?_inj (Nat.lt_trans lt bound) distinct).mp both)

theorem exists_spelling?_iff {names : NameTable} {index : Nat} :
    (∃ spelling, names.spelling? index = some spelling) ↔ index < names.size := by
  simp only [spelling?, List.getElem?_eq_some_iff]
  constructor
  · rintro ⟨spelling, bound, -⟩
    exact bound
  · intro bound
    exact ⟨_, bound, rfl⟩

private theorem removeAll_append_singleton (list known : List String) (spelling : String) :
    list.removeAll (known ++ [spelling]) = (list.removeAll known).filter (!· == spelling) := by
  rw [List.removeAll, List.removeAll, List.filter_filter]
  refine List.filter_congr fun other _ => ?_
  rw [Bool.eq_iff_iff]
  simp [and_comm]

/-- The spellings that are new to a table are added in order of first appearance. -/
theorem spellings_internAll (names : NameTable) (spellings : List String) :
    (names.internAll spellings).spellings =
      names.spellings ++ (spellings.removeAll names.spellings).eraseDups := by
  induction spellings generalizing names with
  | nil => simp [internAll]
  | cons spelling spellings ih =>
      rw [internAll_cons, ih]
      by_cases known : spelling ∈ names.spellings
      · rw [intern_of_mem known, List.cons_removeAll, if_neg (by simpa using known)]
      · rw [intern_of_not_mem known, List.cons_removeAll, if_pos (by simpa using known),
          List.eraseDups_cons, ← removeAll_append_singleton]
        exact List.append_assoc _ _ _

theorem index?_append_singleton (names : NameTable) {spelling : String}
    (new : spelling ∉ names.spellings) (other : String) :
    index? ⟨names.spellings ++ [spelling]⟩ other =
      if spelling = other then some names.size else names.index? other := by
  have last : List.findIdx? (· == other) [spelling] = if spelling = other then some 0 else none := by
    by_cases same : spelling = other <;> simp [same]
  unfold index? List.idxOf?
  rw [List.findIdx?_append, last]
  by_cases same : spelling = other
  · have missing := List.idxOf?_eq_none_iff.mpr (same ▸ new)
    unfold List.idxOf? at missing
    rw [missing, if_pos same, if_pos same, Option.map_some, Nat.zero_add]
    rfl
  · rw [if_neg same, if_neg same, Option.map_none, Option.or_none]

theorem index?_lt {names : NameTable} {spelling : String} {index : Nat}
    (found : names.index? spelling = some index) : index < names.size :=
  (List.findIdx?_eq_some_iff_getElem.mp found).choose

end NameTable

/-! ## Maps and arrays -/

namespace SymbolTable

def internAll (table : SymbolTable) (spellings : List String) : SymbolTable :=
  spellings.foldl (fun table spelling => (table.intern spelling).2) table

/-- The array is the list of names, and the map finds the words of their indices. -/
structure Holds (table : SymbolTable) (names : NameTable) : Prop where
  spellings : table.spellings.toList = names.spellings
  symbols : ∀ spelling, table.get? spelling = (names.index? spelling).map Nat.toUInt32

theorem holds_empty : empty.Holds .empty where
  spellings := rfl
  symbols _ := Std.HashMap.getElem?_empty

namespace Holds

variable {table : SymbolTable} {names : NameTable} {spelling : String} {symbol : UInt32}

theorem size_eq (holds : table.Holds names) : table.size = names.size := by
  rw [size, ← Array.length_toList, holds.spellings, NameTable.size]

/-- Interning in both gives the same symbol, and the table still holds the names. -/
theorem intern (holds : table.Holds names) (spelling : String) :
    (table.intern spelling).1 = (names.intern spelling).1.toUInt32 ∧
      (table.intern spelling).2.Holds (names.intern spelling).2 := by
  have here := holds.symbols spelling
  cases found : names.index? spelling with
  | some index =>
      rw [found] at here
      rw [intern_of_some here, NameTable.intern, found]
      exact ⟨rfl, holds⟩
  | none =>
      have new : spelling ∉ names.spellings := List.idxOf?_eq_none_iff.mp found
      rw [found] at here
      rw [intern_of_none here, NameTable.intern_of_not_mem new, holds.size_eq]
      refine ⟨rfl, ?_, fun other => ?_⟩
      · show (table.spellings.push spelling).toList = names.spellings ++ [spelling]
        rw [Array.toList_push, holds.spellings]
      · show (table.symbols.insert spelling names.size.toUInt32)[other]? = _
        rw [Std.HashMap.getElem?_insert, names.index?_append_singleton new]
        by_cases same : spelling = other
        · rw [if_pos (beq_iff_eq.mpr same), if_pos same, Option.map_some]
        · rw [if_neg (by simpa using same), if_neg same]
          exact holds.symbols other

theorem internAll (holds : table.Holds names) (spellings : List String) :
    (table.internAll spellings).Holds (names.internAll spellings) := by
  induction spellings generalizing table names with
  | nil => exact holds
  | cons spelling spellings ih => exact ih (holds.intern spelling).2

theorem resolve?_eq (holds : table.Holds names) (symbol : UInt32) :
    table.resolve? symbol = names.spelling? symbol.toNat := by
  rw [resolve?, NameTable.spelling?, ← holds.spellings, Array.getElem?_toList]

theorem entries_eq (holds : table.Holds names) :
    table.entries = names.spellings.zipIdx.map fun (spelling, index) =>
      (index.toUInt32, spelling) := by
  rw [entries, holds.spellings]

theorem get?_eq_some_iff (holds : table.Holds names) (distinct : names.spellings.Nodup)
    (room : names.size ≤ UInt32.size) (spelling : String) (symbol : UInt32) :
    table.get? spelling = some symbol ↔ table.resolve? symbol = some spelling := by
  rw [holds.resolve?_eq, ← NameTable.index?_eq_some_iff distinct, holds.symbols,
    Option.map_eq_some_iff]
  constructor
  · rintro ⟨index, found, rfl⟩
    have small : index < UInt32.size := Nat.lt_of_lt_of_le (NameTable.index?_lt found) room
    rw [found, Nat.toUInt32, UInt32.toNat_ofNat_of_lt' small]
  · intro found
    exact ⟨symbol.toNat, found, UInt32.ofNat_toNat⟩

end Holds

variable {table : SymbolTable} {spelling : String} {symbol : UInt32}

theorem get?_intern (table : SymbolTable) (spelling : String) :
    (table.intern spelling).2.get? spelling = some (table.intern spelling).1 := by
  cases found : table.get? spelling with
  | some symbol =>
      rw [intern_of_some found]
      exact found
  | none =>
      rw [intern_of_none found]
      exact Std.HashMap.getElem?_insert_self

theorem get?_intern_of_some (known : table.get? spelling = some symbol) (other : String) :
    (table.intern other).2.get? spelling = some symbol := by
  cases found : table.get? other with
  | some symbol =>
      rw [intern_of_some found]
      exact known
  | none =>
      have apart : other ≠ spelling := by
        rintro rfl
        rw [found] at known
        cases known
      rw [intern_of_none found]
      show (table.symbols.insert other table.size.toUInt32)[spelling]? = some symbol
      rw [Std.HashMap.getElem?_insert, if_neg (by simpa using apart)]
      exact known

theorem resolve?_intern_of_some (known : table.resolve? symbol = some spelling) (other : String) :
    (table.intern other).2.resolve? symbol = some spelling := by
  cases found : table.get? other with
  | some symbol =>
      rw [intern_of_some found]
      exact known
  | none =>
      have bound := (Array.getElem?_eq_some_iff.mp known).choose
      rw [intern_of_none found]
      show (table.spellings.push other)[symbol.toNat]? = some spelling
      rw [Array.getElem?_push_lt bound, ← Array.getElem?_eq_getElem bound]
      exact known

/-- No call changes the meaning of a symbol, in either direction. -/
theorem internAll_of_some (later : List String) :
    (table.get? spelling = some symbol →
        (table.internAll later).get? spelling = some symbol) ∧
      (table.resolve? symbol = some spelling →
        (table.internAll later).resolve? symbol = some spelling) := by
  induction later generalizing table with
  | nil => exact ⟨id, id⟩
  | cons other later ih =>
      constructor
      · intro known
        exact ih.1 (get?_intern_of_some known other)
      · intro known
        exact ih.2 (resolve?_intern_of_some known other)

end SymbolTable

end JavaLex
