/-! # Sets of code points

A character class of a standard is a list of inclusive code point ranges. `covers_iff` reads
membership off the list.
-/

namespace JavaLex.Charset

/-- A set of code points, listed as inclusive ranges. -/
abbrev Ranges := List (Nat × Nat)

def Ranges.covers (table : Ranges) (code : Nat) : Bool :=
  table.any fun (low, high) => low ≤ code && code ≤ high

theorem Ranges.covers_iff {table : Ranges} {code : Nat} :
    table.covers code = true ↔ ∃ range ∈ table, range.1 ≤ code ∧ code ≤ range.2 := by
  simp [Ranges.covers]

end JavaLex.Charset
