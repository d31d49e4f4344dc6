import JavaLex.Proofs.Front.Compound
import JavaLex.Proofs.Scan.Calls
import JavaLex.Stream

/-! # Streams as token lists

A stream reads ahead of its current token by as much as was asked for. Whatever is asked in
whatever order, it answers like a plain list of the tokens not yet passed, whose sentinel repeats
for ever.
-/

namespace JavaLex

/-! ## Token lists -/

theorem Token.isEof_of_split? {token head tail : Token}
    (splits : token.split? = some (head, tail)) : token.isEof = false ∧ tail.isEof = false := by
  obtain ⟨symbol, _, _, kind, -, -, -, rfl⟩ := split?_eq_some_iff.mp splits
  exact ⟨by rw [isEof, kind]; rfl, rfl⟩

/-- The tokens that are not yet passed, the last of them the sentinel, and the token before
them. -/
structure TokenList where
  words : List Token
  sentinel : Token
  previous : Option Token
  proper : ∀ word ∈ words, word.isEof = false
  ends : sentinel.isEof = true

namespace TokenList

def tokens (list : TokenList) : List Token :=
  list.words ++ [list.sentinel]

@[simp] theorem length_tokens (list : TokenList) :
    list.tokens.length = list.words.length + 1 := by
  simp [tokens]

def peek (list : TokenList) (distance : Nat) : Token :=
  list.tokens.get ⟨min distance list.words.length, by rw [length_tokens]; omega⟩

def advance (list : TokenList) : TokenList :=
  match words : list.words with
  | [] => { list with previous := some list.sentinel }
  | word :: rest =>
      { list with
        words := rest
        previous := some word
        proper := fun other member => list.proper other (by rw [words]; exact .tail word member) }

/-- Puts the second half of the first token in its place and passes the first half. Nothing
changes if the token cannot be split. -/
def split (list : TokenList) : Option Token × TokenList :=
  match words : list.words with
  | [] => (none, list)
  | word :: rest =>
      match splits : word.split? with
      | some (head, tail) =>
          (some head,
            { list with
              words := tail :: rest
              previous := some head
              proper := List.forall_mem_cons.mpr
                ⟨(Token.isEof_of_split? splits).2,
                  fun other member => list.proper other (by rw [words]; exact .tail word member)⟩ })
      | none => (none, list)

/-! ### What the operations do -/

variable {list : TokenList} {token head tail : Token} {rest : List Token}

theorem getElem?_peek (list : TokenList) (distance : Nat) :
    list.tokens[min distance list.words.length]? = some (list.peek distance) :=
  List.getElem?_eq_getElem _

theorem sentinel_advance (list : TokenList) : list.advance.sentinel = list.sentinel := by
  unfold advance
  split <;> rfl

theorem tokens_advance_of_singleton (tokens : list.tokens = [token]) :
    list.advance.tokens = [token] := by
  have none : list.words = [] := by
    have length := congrArg List.length tokens
    rw [length_tokens, List.length_singleton] at length
    exact List.length_eq_zero_iff.mp (by omega)
  unfold advance
  split
  · exact tokens
  · next words => cases none.symm.trans words

theorem tokens_advance_of_cons (tokens : list.tokens = head :: tail :: rest) :
    list.advance.tokens = tail :: rest := by
  unfold advance
  split
  · next words =>
    rw [TokenList.tokens, words] at tokens
    cases tokens
  · next words =>
    rw [TokenList.tokens, words] at tokens
    exact (List.cons.inj tokens).2

theorem previous_advance (tokens : list.tokens = token :: rest) :
    list.advance.previous = some token := by
  unfold advance
  split
  · next words =>
    rw [TokenList.tokens, words] at tokens
    exact congrArg some (List.cons.inj tokens).1
  · next words =>
    rw [TokenList.tokens, words] at tokens
    exact congrArg some (List.cons.inj tokens).1

theorem split_of_none (tokens : list.tokens = token :: rest) (whole : token.split? = none) :
    list.split = (none, list) := by
  unfold split
  split
  · rfl
  · next words =>
    rw [TokenList.tokens, words] at tokens
    obtain ⟨rfl, -⟩ := List.cons.inj tokens
    split
    · next splits => cases whole.symm.trans splits
    · rfl

theorem split_of_some (tokens : list.tokens = token :: rest)
    (splits : token.split? = some (head, tail)) :
    list.split.1 = some head ∧ list.split.2.tokens = tail :: rest ∧
      list.split.2.previous = some head ∧ list.split.2.sentinel = list.sentinel := by
  unfold split
  split
  · next words =>
    rw [TokenList.tokens, words] at tokens
    obtain ⟨rfl, -⟩ := List.cons.inj tokens
    exact absurd ((Token.isEof_of_split? splits).1.symm.trans list.ends) (by decide)
  · next words =>
    rw [TokenList.tokens, words] at tokens
    obtain ⟨rfl, rfl⟩ := List.cons.inj tokens
    split
    · next same =>
      cases splits.symm.trans same
      exact ⟨rfl, rfl, rfl, rfl⟩
    · next none => cases splits.symm.trans none

end TokenList

/-! ## Requests -/

inductive Request where
  | token
  | peek (distance : Nat)
  | next
  | previous
  | split
deriving DecidableEq, Repr

def TokenStream.answer (stream : TokenStream) : Request → Option Token × TokenStream
  | .token => (some stream.current, stream)
  | .peek distance => (some (stream.peek distance).1, (stream.peek distance).2)
  | .next => (some stream.advance.current, stream.advance)
  | .previous => (stream.previous, stream)
  | .split => stream.split

/-- The answer of a token list. Only `next` and `split` change the list. -/
def TokenList.answer (list : TokenList) : Request → Option Token × TokenList
  | .token => (some (list.peek 0), list)
  | .peek distance => (some (list.peek distance), list)
  | .next => (some (list.advance.peek 0), list.advance)
  | .previous => (list.previous, list)
  | .split => list.split

def Request.answers {State : Type} (answer : State → Request → Option Token × State)
    (state : State) : List Request → List (Option Token) × State
  | [] => ([], state)
  | request :: requests =>
      let (first, state) := answer state request
      let (later, state) := answers answer state requests
      (first :: later, state)

/-! ## Reading ahead -/

namespace Scanner

variable {scanner later : Scanner} {token : Token}

theorem Gives.source_eq (gives : Gives scanner token later) : later.source = scanner.source := by
  induction gives with
  | exhausted => rfl
  | ended => rfl
  | token passes => exact passes.accepts.source_eq
  | skipped passes _ ih => exact ih.trans passes.accepts.source_eq

theorem Gives.exhausted_of_isEof (gives : Gives scanner token later) (eof : token.isEof = true) :
    later.exhausted = true := by
  induction gives with
  | exhausted exhausted => exact exhausted
  | ended => rfl
  | token passes => exact absurd (passes.isEof_eq_false.symm.trans eof) (by decide)
  | skipped _ _ ih => exact ih eof

/-- The tokens left are the next one and, unless it is the sentinel, those after it. -/
theorem remaining_eq_cons (scanner : Scanner) :
    scanner.remaining.1 =
      scanner.next.1 :: if scanner.next.1.isEof then [] else scanner.next.2.remaining.1 := by
  by_cases ended : scanner.next.1.isEof = true
  · rw [if_pos ended, remaining_of_isEof ended]
  · rw [if_neg ended, remaining_of_proper (by simpa using ended)]

end Scanner

namespace TokenStream

variable {stream : TokenStream} {list : TokenList}

def read (stream : TokenStream) : TokenStream :=
  { stream with
    scanner := stream.scanner.next.2
    lookahead := stream.lookahead ++ [stream.scanner.next.1] }

def unread (stream : TokenStream) : List Token :=
  if stream.last.isEof then [] else stream.scanner.remaining.1

theorem fill_of_isEof (ended : stream.last.isEof = true) (count : Nat) :
    stream.fill count = stream := by
  cases count with
  | zero => rfl
  | succ count => rw [fill, if_pos ended]

theorem fill_succ (goesOn : stream.last.isEof = false) (count : Nat) :
    stream.fill (count + 1) = stream.read.fill count := by
  rw [fill, if_neg (by simp [goesOn])]
  rfl

theorem last_read (stream : TokenStream) : stream.read.last = stream.scanner.next.1 := by
  simp [last, read]

theorem getLast?_eq_last (stream : TokenStream) :
    (stream.current :: stream.lookahead).getLast? = some stream.last := by
  rw [List.getLast?_cons]
  rfl

theorem unread_eq_cons (goesOn : stream.last.isEof = false) :
    stream.unread = stream.scanner.next.1 :: stream.read.unread := by
  rw [unread, unread, last_read, if_neg (by simp [goesOn]), Scanner.remaining_eq_cons]
  rfl

/-- Filling stops short only at the sentinel. -/
theorem fill_reaches (stream : TokenStream) (count : Nat) :
    (stream.fill count).last.isEof = true ∨
      stream.lookahead.length + count ≤ (stream.fill count).lookahead.length := by
  induction count generalizing stream with
  | zero => exact .inr (Nat.le_refl _)
  | succ count ih =>
      by_cases ended : stream.last.isEof = true
      · exact .inl (by rwa [fill_of_isEof ended])
      · rw [fill_succ (by simpa using ended)]
        have length : stream.read.lookahead.length = stream.lookahead.length + 1 := by
          simp [read]
        have reaches := ih stream.read
        rw [length] at reaches
        exact reaches.imp_right fun le => by omega

/-! ## Following a list -/

/-- The stream is at the first token of the list: its current token, its lookahead and what the
scanner has left make up the list. -/
structure Follows (stream : TokenStream) (list : TokenList) : Prop where
  previous : stream.previous = list.previous
  tokens : list.tokens = stream.current :: stream.lookahead ++ stream.unread
  sentinel : list.sentinel = .eof stream.scanner.source.endPosition
  ended : stream.last.isEof = true → stream.scanner.exhausted = true

namespace Follows

theorem read (follows : Follows stream list) (goesOn : stream.last.isEof = false) :
    Follows stream.read list where
  previous := follows.previous
  tokens := by
    rw [follows.tokens, unread_eq_cons goesOn]
    simp [TokenStream.read]
  sentinel := follows.sentinel.trans (by rw [TokenStream.read, stream.scanner.gives_next.source_eq])
  ended eof := by
    rw [last_read] at eof
    exact stream.scanner.gives_next.exhausted_of_isEof eof

theorem fill (follows : Follows stream list) (count : Nat) : Follows (stream.fill count) list := by
  induction count generalizing stream with
  | zero => exact follows
  | succ count ih =>
      by_cases ended : stream.last.isEof = true
      · rwa [fill_of_isEof ended]
      · have goesOn : stream.last.isEof = false := by simpa using ended
        rw [fill_succ goesOn]
        exact ih (follows.read goesOn)

theorem tokens_of_isEof (follows : Follows stream list) (ended : stream.last.isEof = true) :
    list.tokens = stream.current :: stream.lookahead ∧ stream.last = list.sentinel := by
  have tokens := follows.tokens
  rw [unread, if_pos ended, List.append_nil] at tokens
  refine ⟨tokens, ?_⟩
  have last := stream.getLast?_eq_last
  rw [← tokens, TokenList.tokens, List.getLast?_concat] at last
  exact (Option.some.inj last).symm

/-- A token within reach is found where the list has it. -/
theorem peek_eq (follows : Follows stream list) {distance : Nat}
    (reached : stream.last.isEof = true ∨ distance ≤ stream.lookahead.length) :
    (stream.current :: stream.lookahead)[distance]?.getD stream.last = list.peek distance := by
  have found := list.getElem?_peek distance
  have count := congrArg List.length follows.tokens
  rw [list.length_tokens, List.length_append, List.length_cons] at count
  by_cases within : distance ≤ stream.lookahead.length
  · rw [Nat.min_eq_left (by omega), follows.tokens,
      List.getElem?_append_left (by simp; omega)] at found
    rw [found]
    rfl
  · obtain ⟨tokens, last⟩ := follows.tokens_of_isEof (reached.resolve_right within)
    have ends : list.tokens[list.words.length]? = some list.sentinel := List.getElem?_concat_length
    have length := congrArg List.length tokens
    rw [list.length_tokens, List.length_cons] at length
    rw [Nat.min_eq_right (by omega), ends] at found
    rw [List.getElem?_eq_none (by simp; omega), last]
    exact Option.some.inj found

theorem peek (follows : Follows stream list) (distance : Nat) :
    (stream.peek distance).1 = list.peek distance ∧ Follows (stream.peek distance).2 list := by
  have reaches := stream.fill_reaches (distance - stream.lookahead.length)
  have filled := follows.fill (distance - stream.lookahead.length)
  exact ⟨filled.peek_eq (reaches.imp_right fun le => by omega), filled⟩

theorem current_eq (follows : Follows stream list) : stream.current = list.peek 0 :=
  follows.peek_eq (.inr (Nat.zero_le _))

/-! ## Moving on -/

theorem of_scanner_eq (follows : Follows stream list) {other : TokenStream} {rest : TokenList}
    (scanner : other.scanner = stream.scanner) (last : other.last.isEof = stream.last.isEof)
    (previous : other.previous = rest.previous)
    (tokens : rest.tokens = other.current :: other.lookahead ++ stream.unread)
    (sentinel : rest.sentinel = list.sentinel) : Follows other rest where
  previous := previous
  tokens := by rw [tokens, unread, unread, scanner, last]
  sentinel := by rw [sentinel, follows.sentinel, scanner]
  ended := by
    rw [last, scanner]
    exact follows.ended

theorem advance_of_cons (follows : Follows stream list) {token : Token} {rest : List Token}
    (ahead : stream.lookahead = token :: rest) : Follows stream.advance list.advance := by
  have moved : stream.advance =
      { stream with current := token, previous := some stream.current, lookahead := rest } := by
    rw [advance, ahead]
  have last : stream.advance.last = stream.last := by
    simp [moved, TokenStream.last, ahead, List.getLast?_cons]
  have tokens := follows.tokens
  rw [ahead] at tokens
  refine follows.of_scanner_eq (by rw [moved]) (congrArg Token.isEof last) ?_ ?_
    list.sentinel_advance
  · rw [list.previous_advance tokens, moved]
  · rw [list.tokens_advance_of_cons tokens, moved]
    rfl

theorem advance_of_isEof (follows : Follows stream list) (ahead : stream.lookahead = [])
    (ended : stream.last.isEof = true) : Follows stream.advance list.advance := by
  obtain ⟨tokens, last⟩ := follows.tokens_of_isEof ended
  rw [ahead] at tokens
  have current : stream.current = .eof stream.scanner.source.endPosition := by
    rw [← follows.sentinel, ← last, TokenStream.last, ahead]
    rfl
  have moved : stream.advance = { stream with previous := some stream.current } := by
    rw [TokenStream.advance, ahead, Scanner.next_of_exhausted (follows.ended ended), ← current]
  refine follows.of_scanner_eq (by rw [moved]) (by rw [moved]; rfl) ?_ ?_ list.sentinel_advance
  · rw [list.previous_advance tokens, moved]
  · rw [list.tokens_advance_of_singleton tokens, moved, ahead, unread, if_pos ended]
    rfl

theorem advance (follows : Follows stream list) : Follows stream.advance list.advance := by
  cases ahead : stream.lookahead with
  | cons token rest => exact follows.advance_of_cons ahead
  | nil =>
      by_cases ended : stream.last.isEof = true
      · exact follows.advance_of_isEof ahead ended
      · -- a token that is read is put into the empty lookahead and taken out again
        have moved : stream.advance = stream.read.advance := by
          simp [TokenStream.advance, TokenStream.read, ahead]
        have filled := follows.read (by simpa using ended)
        rw [moved]
        exact filled.advance_of_cons (by rw [TokenStream.read, ahead]; rfl)

theorem split (follows : Follows stream list) :
    stream.split.1 = list.split.1 ∧ Follows stream.split.2 list.split.2 := by
  have tokens := follows.tokens
  cases splits : stream.current.split? with
  | none =>
      rw [TokenStream.split, splits, list.split_of_none tokens splits]
      exact ⟨rfl, follows⟩
  | some halves =>
      obtain ⟨head, tail⟩ := halves
      obtain ⟨answer, replaced, previous, sentinel⟩ := list.split_of_some tokens splits
      have moved : stream.split =
          (some head, { stream with current := tail, previous := some head }) := by
        rw [TokenStream.split, splits]
      obtain ⟨whole, half⟩ := Token.isEof_of_split? splits
      have last : stream.split.2.last.isEof = stream.last.isEof := by
        rw [moved, TokenStream.last, TokenStream.last]
        cases stream.lookahead.getLast? with
        | none => exact half.trans whole.symm
        | some token => rfl
      refine ⟨by rw [answer, moved], follows.of_scanner_eq (by rw [moved]) last ?_ ?_ sentinel⟩
      · rw [previous, moved]
      · rw [replaced, moved]
        rfl

/-- The current token and the lookahead are the first tokens of the list, so that the lookahead
has no sentinel but at its end. -/
theorem front (follows : Follows stream list) :
    stream.current :: stream.lookahead <+: list.tokens ∧
      ∀ token ∈ stream.lookahead.dropLast, token.isEof = false := by
  have front : stream.current :: stream.lookahead <+: list.tokens :=
    ⟨stream.unread, follows.tokens.symm⟩
  refine ⟨front, fun token member => list.proper token ?_⟩
  rcases List.prefix_concat_iff.mp front with whole | proper
  · have words := congrArg List.dropLast whole
    rw [List.dropLast_concat, List.dropLast_cons_of_ne_nil (by rintro none; simp [none] at member)]
      at words
    rw [← words]
    exact .tail _ member
  · exact proper.subset (.tail _ ((List.dropLast_subset _) member))

/-- Stream and list give the same answer to any request, and one still follows the other. -/
theorem answer (follows : Follows stream list) (request : Request) :
    (stream.answer request).1 = (list.answer request).1 ∧
      Follows (stream.answer request).2 (list.answer request).2 := by
  cases request with
  | token => exact ⟨congrArg some follows.current_eq, follows⟩
  | peek distance =>
      obtain ⟨same, filled⟩ := follows.peek distance
      exact ⟨congrArg some same, filled⟩
  | next => exact ⟨congrArg some follows.advance.current_eq, follows.advance⟩
  | previous => exact ⟨follows.previous, follows⟩
  | split => exact follows.split

theorem answers (follows : Follows stream list) (requests : List Request) :
    (Request.answers TokenStream.answer stream requests).1 =
        (Request.answers TokenList.answer list requests).1 ∧
      Follows (Request.answers TokenStream.answer stream requests).2
        (Request.answers TokenList.answer list requests).2 := by
  induction requests generalizing stream list with
  | nil => exact ⟨rfl, follows⟩
  | cons request requests ih =>
      obtain ⟨same, next⟩ := follows.answer request
      obtain ⟨later, last⟩ := ih next
      exact ⟨List.cons_eq_cons.mpr ⟨same, later⟩, last⟩

end Follows

end TokenStream

/-! ## The stream of a unit -/

namespace SourceUnit

variable (unit : SourceUnit) (options : Options)

def stream : TokenStream :=
  .ofScanner (.start options unit)

def tokenList : TokenList where
  words := (unit.tokenize options).tokens.dropLast
  sentinel := .eof unit.endPosition
  previous := none
  proper := by
    obtain ⟨words, proper, tokens⟩ := unit.exists_words_tokenize options
    rwa [tokens, List.dropLast_concat]
  ends := rfl

theorem tokens_tokenList : (unit.tokenList options).tokens = (unit.tokenize options).tokens := by
  obtain ⟨words, -, tokens⟩ := unit.exists_words_tokenize options
  have kept : (unit.tokenList options).words = (unit.tokenize options).tokens.dropLast := rfl
  rw [TokenList.tokens, kept, tokens, List.dropLast_concat]
  rfl

theorem follows_stream : (unit.stream options).Follows (unit.tokenList options) where
  previous := rfl
  tokens := by
    rw [tokens_tokenList]
    exact (Scanner.start options unit).remaining_eq_cons
  sentinel := by
    have source := (Scanner.start options unit).gives_next.source_eq
    exact congrArg (fun source => Token.eof (SourceUnit.endPosition source)) source.symm
  ended := (Scanner.start options unit).gives_next.exhausted_of_isEof

end SourceUnit

/-- Whatever is asked of the stream of a unit, its answers are those of the list of the tokens of
the unit. After any requests, the current token and the lookahead are the first tokens left, and
in the lookahead a sentinel can only be the last. -/
theorem stream_refines (unit : SourceUnit) (options : Options) (requests : List Request) :
    (unit.tokenList options).tokens = (unit.tokenize options).tokens ∧
      (unit.tokenList options).previous = none ∧
      (Request.answers TokenStream.answer (unit.stream options) requests).1 =
        (Request.answers TokenList.answer (unit.tokenList options) requests).1 ∧
      (Request.answers TokenStream.answer (unit.stream options) requests).2.previous =
        (Request.answers TokenList.answer (unit.tokenList options) requests).2.previous ∧
      (Request.answers TokenStream.answer (unit.stream options) requests).2.current ::
          (Request.answers TokenStream.answer (unit.stream options) requests).2.lookahead <+:
        (Request.answers TokenList.answer (unit.tokenList options) requests).2.tokens ∧
      ∀ token ∈ (Request.answers TokenStream.answer (unit.stream options)
        requests).2.lookahead.dropLast, token.isEof = false := by
  obtain ⟨same, follows⟩ := (unit.follows_stream options).answers requests
  exact ⟨unit.tokens_tokenList options, rfl, same, follows.previous, follows.front⟩

/-- Looking far ahead does not keep a shift from being split, once. -/
example :
    (Request.answers TokenStream.answer (SourceUnit.stream ⟨"Map.java", "b>>c"⟩ .usual)
        [.peek 7, .next, .split, .token, .previous, .split, .next]).1.map (·.map Token.text) =
      [some "", some ">>", some ">", some ">", some ">", none, some "c"] := by
  decide +kernel

end JavaLex
