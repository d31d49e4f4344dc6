import JavaLex.Source.Mark
import JavaLex.Token.Operator

/-! # Operators at a cursor

The search for an operator reads ahead, one character after the other, and marks the place after
each operator that the characters so far spell. In the end the cursor goes back to the mark: to the
end of the longest operator, or to where it was if there is none.
-/

namespace JavaLex.MarkedCursor

/-- Reads on for some characters, after those in `read` with the longest operator among them, and
goes back to the mark. -/
def munch (read : List Char) (longest : Option Operator) (marked : MarkedCursor) :
    Nat → Option Operator × MarkedCursor
  | 0 => (longest, marked.move .reset)
  | count + 1 =>
      match marked.cursor.chars with
      | [] => (longest, marked.move .reset)
      | c :: _ =>
          let next := marked.move .advance
          match Operator.ofChars? (read ++ [c]) with
          | some found => munch (read ++ [c]) (some found) (next.move .mark) count
          | none => munch (read ++ [c]) longest next count

/-- Moves past the longest operator at the cursor, if there is one. -/
def scanOperator (marked : MarkedCursor) : Option Operator × MarkedCursor :=
  munch [] none (marked.move .mark) Operator.maxSize

end JavaLex.MarkedCursor
