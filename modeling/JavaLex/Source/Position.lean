/-! # Places in a source text -/

namespace JavaLex

/-- A place in a source text: a byte offset with its line and column, both counted from one.
Columns count characters. -/
structure Position where
  offset : Nat
  line : Nat
  column : Nat
deriving DecidableEq, Repr, Inhabited

def Position.start : Position := ⟨0, 1, 1⟩

/-- The place as diagnostics write it, `line:column`. -/
def Position.label (p : Position) : String :=
  s!"{p.line}:{p.column}"

/-- A stretch of bytes, from `start` up to but not including `stop`. -/
structure Span where
  start : Nat
  stop : Nat
deriving DecidableEq, Repr, Inhabited

def Span.size (span : Span) : Nat :=
  span.stop - span.start

def Span.isEmpty (span : Span) : Bool :=
  span.start == span.stop

end JavaLex
