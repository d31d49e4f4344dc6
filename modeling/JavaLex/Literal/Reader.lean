/-! # Readers

A reader looks at a text and says how many characters from its front it takes and what they mean.
A reader that finds its part malformed also says how far it came, so that recovery can go on from
there.
-/

namespace JavaLex

/-- What a reader found, if its part is well formed, and how many characters it took. -/
structure Reading (α : Type) where
  value : Option α
  size : Nat
deriving Repr, Inhabited

/-- A part of a literal, read from the front of a text. -/
def Reader (α : Type) : Type := List Char → Reading α

namespace Reader

protected def pure (a : α) : Reader α := fun _ => ⟨some a, 0⟩

protected def bind (reader : Reader α) (next : α → Reader β) : Reader β := fun text =>
  match reader text with
  | ⟨none, size⟩ => ⟨none, size⟩
  | ⟨some a, size⟩ =>
      let rest := next a (text.drop size)
      ⟨rest.value, size + rest.size⟩

instance : Monad Reader where
  pure := Reader.pure
  bind := Reader.bind

/-- The text is malformed from here on. -/
def fail : Reader α := fun _ => ⟨none, 0⟩

def require (condition : Bool) : Reader Unit :=
  if condition then Reader.pure () else fail

/-- The next character, which stays in place. -/
def next? : Reader (Option Char) := fun text => ⟨some text.head?, 0⟩

def takeIf (condition : Char → Bool) : Reader (Option Char) := fun text =>
  match text with
  | c :: _ => if condition c then ⟨some (some c), 1⟩ else ⟨some none, 0⟩
  | [] => ⟨some none, 0⟩

/-- After a part that is well formed, the next reader has what is left of the text. -/
theorem bind_of_some {reader : Reader α} {next : α → Reader β} {text : List Char} {a : α}
    {size : Nat} (h : reader text = ⟨some a, size⟩) :
    (reader >>= next) text =
      ⟨(next a (text.drop size)).value, size + (next a (text.drop size)).size⟩ := by
  change Reader.bind reader next text = _
  simp [Reader.bind, h]

/-- A reader that goes on after another takes at least what that one took. -/
theorem size_le_size_bind (reader : Reader α) (next : α → Reader β) (text : List Char) :
    (reader text).size ≤ ((reader >>= next) text).size := by
  change _ ≤ (Reader.bind reader next text).size
  unfold Reader.bind
  split <;> simp_all

end Reader

end JavaLex
