/-! # Interned names

Each distinct spelling has one index, counted from zero in order of first appearance.
-/

namespace JavaLex

/-- Distinct spellings in order of first appearance. -/
structure NameTable where
  spellings : List String
deriving DecidableEq, Repr, Inhabited

namespace NameTable

def empty : NameTable := ⟨[]⟩

def size (names : NameTable) : Nat :=
  names.spellings.length

def index? (names : NameTable) (spelling : String) : Option Nat :=
  names.spellings.idxOf? spelling

def spelling? (names : NameTable) (index : Nat) : Option String :=
  names.spellings[index]?

/-- The index of a spelling, which is added at the end if it is new. -/
def intern (names : NameTable) (spelling : String) : Nat × NameTable :=
  match names.index? spelling with
  | some index => (index, names)
  | none => (names.size, ⟨names.spellings ++ [spelling]⟩)

/-- Interning a spelling makes it resolve to the index that is returned. -/
theorem spelling?_intern (names : NameTable) (spelling : String) :
    (names.intern spelling).2.spelling? (names.intern spelling).1 = some spelling := by
  unfold intern index?
  cases h : names.spellings.idxOf? spelling with
  | none => simp [spelling?, size]
  | some index =>
      obtain ⟨bound, found, _⟩ := List.findIdx?_eq_some_iff_getElem.mp h
      simp only [spelling?, List.getElem?_eq_getElem bound]
      simpa using found

end NameTable

end JavaLex
