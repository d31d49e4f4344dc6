import JavaLex.Scanner

/-! # Token streams

A stream is a cursor over the tokens of a scan, with any amount of lookahead. The sentinel repeats
for ever; looking ahead stops at it, so the buffer never holds more than the tokens of the unit.
-/

namespace JavaLex

structure TokenStream where
  /-- The scan, ahead of the current token by the lookahead. -/
  scanner : Scanner
  current : Token
  previous : Option Token
  lookahead : List Token

namespace TokenStream

def ofScanner (scanner : Scanner) : TokenStream :=
  let (token, scanner) := scanner.next
  ⟨scanner, token, none, []⟩

def last (stream : TokenStream) : Token :=
  stream.lookahead.getLast?.getD stream.current

/-- Reads tokens into the lookahead, as many as given or up to the sentinel. -/
def fill (stream : TokenStream) : Nat → TokenStream
  | 0 => stream
  | count + 1 =>
      if stream.last.isEof then
        stream
      else
        let (token, scanner) := stream.scanner.next
        fill { stream with scanner := scanner, lookahead := stream.lookahead ++ [token] } count

/-- The token some places after the current one, or the sentinel if there are fewer. -/
def peek (stream : TokenStream) (distance : Nat) : Token × TokenStream :=
  let stream := stream.fill (distance - stream.lookahead.length)
  ((stream.current :: stream.lookahead)[distance]?.getD stream.last, stream)

def advance (stream : TokenStream) : TokenStream :=
  match stream.lookahead with
  | token :: lookahead =>
      { stream with current := token, previous := some stream.current, lookahead := lookahead }
  | [] =>
      let (token, scanner) := stream.scanner.next
      { stream with scanner := scanner, current := token, previous := some stream.current }

/-- Splits the current operator: its first character becomes the previous token and the rest the
current one. Nothing changes if it cannot be split. -/
def split (stream : TokenStream) : Option Token × TokenStream :=
  match stream.current.split? with
  | some (head, tail) => (some head, { stream with current := tail, previous := some head })
  | none => (none, stream)

end TokenStream

end JavaLex
