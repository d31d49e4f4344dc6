import JavaLex.Source.Unit

/-! # Places character by character

A unit finds a place by counting line starts and characters. `position_append_singleton` says how
that place moves past one raw character: a line terminator leads to the start of the next line,
where a carriage return before a line feed is not yet one, and any other character moves the
column.
-/

namespace JavaLex

open Charset

/-- A line feed ends a line, and a carriage return does unless a line feed follows. -/
def endsLine (c : Char) (next : Option Char) : Bool :=
  c == '\n' || (c == '\r' && next != some '\n')

/-- The place after a raw character, given the one that follows it. -/
def Position.past (p : Position) (c : Char) (next : Option Char) : Position :=
  if endsLine c next then ⟨p.offset + c.utf8Size, p.line + 1, 1⟩
  else ⟨p.offset + c.utf8Size, p.line, p.column + 1⟩

/-! ## Line starts -/

/-- The two characters of a line end at the second one, so one character at a time will do. -/
theorem lineStartsFrom_cons (offset : Nat) (c : Char) (rest : List Char) :
    lineStartsFrom offset (c :: rest) =
      if endsLine c rest.head? then
        (offset + c.utf8Size) :: lineStartsFrom (offset + c.utf8Size) rest
      else
        lineStartsFrom (offset + c.utf8Size) rest := by
  have single : (∀ more, c = '\r' → rest = '\n' :: more → False) → endsLine c rest.head? =
      isLineTerminator c := by
    intro apart
    by_cases carriage : c = '\r'
    · subst carriage
      cases rest with
      | nil => rfl
      | cons d more =>
          have other : d ≠ '\n' := by
            rintro rfl
            exact apart more rfl rfl
          simp [endsLine, isLineTerminator, other]
    · simp only [endsLine, isLineTerminator, beq_false_of_ne carriage, Bool.false_and]
  rw [lineStartsFrom.eq_def]
  split
  · next heq => cases heq
  · next more heq =>
    obtain ⟨rfl, rfl⟩ : c = '\r' ∧ rest = '\n' :: more := by simpa using heq
    have sizes : Char.utf8Size '\r' = 1 ∧ Char.utf8Size '\n' = 1 := by decide
    rw [lineStartsFrom.eq_def (offset + Char.utf8Size '\r')]
    simp [endsLine, isLineTerminator, sizes]
  · next d more apart heq =>
    obtain ⟨rfl, rfl⟩ : c = d ∧ rest = more := by simpa using heq
    rw [single apart]

theorem lt_of_mem_lineStartsFrom {offset start : Nat} {text : List Char}
    (member : start ∈ lineStartsFrom offset text) : offset < start := by
  induction text generalizing offset with
  | nil => cases member
  | cons c rest ih =>
      have positive := c.utf8Size_pos
      rw [lineStartsFrom_cons] at member
      split at member
      · rcases List.mem_cons.mp member with rfl | later
        · omega
        · have := ih later
          omega
      · have := ih member
        omega

theorem length_lineStartsFrom_le (offset : Nat) (text : List Char) :
    (lineStartsFrom offset text).length ≤ text.length := by
  induction text generalizing offset with
  | nil => simp [lineStartsFrom]
  | cons c rest ih =>
      have later := ih (offset + c.utf8Size)
      rw [lineStartsFrom_cons]
      split <;> simp <;> omega

/-- The starts within a leading part come first, and each is the end of a part of it. -/
theorem lineStartsFrom_append (offset : Nat) (done rest : List Char) :
    ∃ before, lineStartsFrom offset (done ++ rest) =
        before ++ lineStartsFrom (offset + byteSize done) rest ∧
      ∀ start ∈ before, ∃ front line, done = front ++ line ∧ start = offset + byteSize front := by
  induction done generalizing offset with
  | nil => exact ⟨[], by simp, by simp⟩
  | cons c done ih =>
      obtain ⟨before, starts, within⟩ := ih (offset + c.utf8Size)
      have total : offset + byteSize (c :: done) = offset + c.utf8Size + byteSize done := by
        rw [byteSize_cons, Nat.add_assoc]
      have extend : ∀ start ∈ before, ∃ front line, c :: done = front ++ line ∧
          start = offset + byteSize front := by
        intro start member
        obtain ⟨front, line, rfl, rfl⟩ := within start member
        exact ⟨c :: front, line, rfl, by rw [byteSize_cons, Nat.add_assoc]⟩
      rw [List.cons_append, lineStartsFrom_cons, total, starts]
      split
      · refine ⟨(offset + c.utf8Size) :: before, rfl, ?_⟩
        intro start member
        rcases List.mem_cons.mp member with rfl | later
        · exact ⟨[c], done, rfl, by simp⟩
        · exact extend start later
      · exact ⟨before, rfl, extend⟩

/-! ## Places -/

private theorem start?_of_starts {unit : SourceUnit} {before after : List Nat} {start : Nat}
    (starts : lineStartsFrom 0 unit.chars = before ++ after)
    (last : (0 :: before).getLast? = some start) :
    unit.lines.start? (before.length + 1) = some start := by
  have found : (0 :: before)[before.length]? = some start := by
    rw [← last, List.getLast?_eq_getElem?]
    rfl
  simp only [SourceUnit.lines, LineMap.ofText, LineMap.start?, starts]
  rw [← List.cons_append, List.getElem?_append_left (by simp), found]

/-- A place is read off the starts up to it: their number is the line, and the last of them tells
the characters of the line. -/
private theorem position_of_starts {unit : SourceUnit} {done front line rest : List Char}
    {before : List Nat} (whole : unit.chars = done ++ rest) (split : done = front ++ line)
    (starts : lineStartsFrom 0 unit.chars = before ++ lineStartsFrom (byteSize done) rest)
    (within : ∀ start ∈ before, start ≤ byteSize done)
    (last : (0 :: before).getLast? = some (byteSize front)) :
    unit.position (byteSize done) = ⟨byteSize done, before.length + 1, line.length + 1⟩ := by
  have clamped : min (byteSize done) unit.size = byteSize done := by
    simp [SourceUnit.size, whole]
  have count : unit.lines.lineOf (byteSize done) = before.length + 1 := by
    have later : (lineStartsFrom (byteSize done) rest).countP (· ≤ byteSize done) = 0 := by
      rw [List.countP_eq_zero]
      intro start member
      have := lt_of_mem_lineStartsFrom member
      simp only [decide_eq_true_eq]
      omega
    have earlier : before.countP (· ≤ byteSize done) = before.length := by
      rw [List.countP_eq_length]
      exact fun start member => by simpa using within start member
    simp only [SourceUnit.lines, LineMap.ofText, LineMap.lineOf, starts, List.countP_cons,
      List.countP_append, later, earlier]
    simp
  have start := start?_of_starts starts last
  have column : between (byteSize front) (byteSize done) unit.chars = line := by
    rw [whole, split, byteSize_append, List.append_assoc, between_append]
  simp only [SourceUnit.position, clamped, count, start, Option.getD_some, column]

/-- The place after a leading part of the text, with the starts that decide it. -/
private theorem exists_position (unit : SourceUnit) {done rest : List Char}
    (whole : unit.chars = done ++ rest) :
    ∃ before front line, done = front ++ line ∧
      lineStartsFrom 0 unit.chars = before ++ lineStartsFrom (byteSize done) rest ∧
      (∀ start ∈ before, start ≤ byteSize done) ∧
      (0 :: before).getLast? = some (byteSize front) ∧
      unit.position (byteSize done) = ⟨byteSize done, before.length + 1, line.length + 1⟩ := by
  obtain ⟨before, starts, inside⟩ := lineStartsFrom_append 0 done rest
  rw [← whole, Nat.zero_add] at starts
  have within : ∀ start ∈ before, start ≤ byteSize done := by
    intro start member
    obtain ⟨front, line, rfl, rfl⟩ := inside start member
    simp
  obtain ⟨last, found⟩ : ∃ last, (0 :: before).getLast? = some last :=
    ⟨_, List.getLast?_eq_some_getLast (List.cons_ne_nil 0 before)⟩
  obtain ⟨front, line, rfl, rfl⟩ : ∃ front line, done = front ++ line ∧ last = byteSize front := by
    rcases List.mem_cons.mp (List.mem_of_getLast? found) with rfl | member
    · exact ⟨[], done, rfl, rfl⟩
    · obtain ⟨front, line, rfl, rfl⟩ := inside last member
      exact ⟨front, line, rfl, by simp⟩
  exact ⟨before, front, line, rfl, starts, within, found,
    position_of_starts whole rfl starts within found⟩

theorem SourceUnit.position_zero (unit : SourceUnit) : unit.position 0 = .start := by
  obtain ⟨before, front, line, split, starts, -, last, place⟩ :=
    exists_position unit (List.nil_append unit.chars).symm
  obtain ⟨rfl, rfl⟩ : front = [] ∧ line = [] := by simpa using split.symm
  have none : before = [] := by simpa using starts
  rw [byteSize_nil] at place
  rw [place, none]
  rfl

theorem SourceUnit.position_append_singleton (unit : SourceUnit) {done rest : List Char} {c : Char}
    (whole : unit.chars = done ++ c :: rest) :
    unit.position (byteSize (done ++ [c])) = (unit.position (byteSize done)).past c rest.head? := by
  obtain ⟨before, front, line, split, starts, within, last, place⟩ := exists_position unit whole
  have more : unit.chars = (done ++ [c]) ++ rest := by simp [whole]
  have total : byteSize (done ++ [c]) = byteSize done + c.utf8Size := by simp
  have bound : ∀ start ∈ before, start ≤ byteSize (done ++ [c]) := by
    intro start member
    have := within start member
    omega
  rw [lineStartsFrom_cons, ← total] at starts
  rw [place, Position.past, ← total]
  by_cases ends : endsLine c rest.head? = true
  · rw [if_pos ends] at starts ⊢
    have bounds : ∀ start ∈ before ++ [byteSize (done ++ [c])],
        start ≤ byteSize (done ++ [c]) := by
      intro start member
      rcases List.mem_append.mp member with early | here
      · exact bound start early
      · exact Nat.le_of_eq (List.mem_singleton.mp here)
    have begun : lineStartsFrom 0 unit.chars = before ++ [byteSize (done ++ [c])] ++
        lineStartsFrom (byteSize (done ++ [c])) rest := by
      rw [starts, List.append_assoc]
      rfl
    have latest : (0 :: (before ++ [byteSize (done ++ [c])])).getLast? =
        some (byteSize (done ++ [c])) := by
      rw [← List.cons_append, List.getLast?_append]
      rfl
    have moved := position_of_starts more (List.append_nil (done ++ [c])).symm begun bounds latest
    simpa using moved
  · rw [if_neg ends] at starts ⊢
    have longer : done ++ [c] = front ++ (line ++ [c]) := by rw [split, List.append_assoc]
    have moved := position_of_starts more longer starts bound last
    simpa using moved

theorem SourceUnit.position_append (unit : SourceUnit) {done inner rest : List Char}
    (whole : unit.chars = done ++ inner ++ rest)
    (plain : ∀ c ∈ inner, isLineTerminator c = false) :
    unit.position (byteSize (done ++ inner)) =
      ⟨(unit.position (byteSize done)).offset + byteSize inner,
        (unit.position (byteSize done)).line,
        (unit.position (byteSize done)).column + inner.length⟩ := by
  induction inner generalizing done with
  | nil => simp
  | cons c inner ih =>
      have next : unit.chars = done ++ c :: (inner ++ rest) := by simp [whole]
      have step := unit.position_append_singleton next
      have apart := plain c (by simp)
      have goesOn : endsLine c (inner ++ rest).head? = false := by
        simp only [isLineTerminator, Bool.or_eq_false_iff] at apart
        simp [endsLine, apart.1, apart.2]
      have more : unit.chars = (done ++ [c]) ++ inner ++ rest := by simp [whole]
      have later := ih more fun d member => plain d (by simp [member])
      rw [step, Position.past, goesOn] at later
      rw [List.append_assoc, List.singleton_append] at later
      rw [later]
      simp [Nat.add_assoc, Nat.add_comm 1]

/-! ## The end -/

theorem SourceUnit.line_endPosition (unit : SourceUnit) :
    unit.endPosition.line = unit.lines.count := by
  obtain ⟨before, starts, within⟩ := lineStartsFrom_append 0 unit.chars []
  have counted : ∀ start ∈ unit.lines.starts, start ≤ unit.size := by
    intro start member
    rw [List.append_nil, lineStartsFrom, List.append_nil] at starts
    rcases List.mem_cons.mp member with rfl | later
    · exact Nat.zero_le _
    · rw [starts] at later
      obtain ⟨front, line, whole, rfl⟩ := within start later
      rw [size, whole, byteSize_append]
      omega
  have offset : min unit.size unit.size = unit.size := Nat.min_self _
  rw [endPosition, position, offset]
  exact List.countP_eq_length.mpr fun start member => by simpa using counted start member

theorem SourceUnit.offset_endPosition (unit : SourceUnit) : unit.endPosition.offset = unit.size :=
  Nat.min_self _

/-! ## The text of a line -/

/-- A line goes on to the next start, which is the end of a part of the text, or to the end. -/
private theorem exists_stop (unit : SourceUnit) {done rest : List Char} {c : Char}
    (whole : unit.chars = done ++ c :: rest) :
    ∃ inner more, rest = inner ++ more ∧
      (lineStartsFrom (byteSize done) (c :: rest)).head?.getD unit.size =
        byteSize (done ++ c :: inner) := by
  obtain ⟨starts, split, within⟩ := lineStartsFrom_append (byteSize done) (c :: rest) []
  rw [List.append_nil, lineStartsFrom, List.append_nil] at split
  rw [split]
  cases starts with
  | nil => exact ⟨rest, [], (List.append_nil rest).symm, by rw [← whole]; rfl⟩
  | cons start starts =>
      obtain ⟨front, more, parts, here⟩ := within start List.mem_cons_self
      have later : byteSize done < start :=
        lt_of_mem_lineStartsFrom (split ▸ List.mem_cons_self)
      cases front with
      | nil =>
          rw [byteSize_nil] at here
          omega
      | cons d inner =>
          obtain ⟨rfl, rfl⟩ := List.cons.inj parts
          exact ⟨inner, more, rfl, by rw [List.head?_cons, Option.getD_some, here, byteSize_append]⟩

/-- Removing terminators from the end of a text stops at the last character that is none. -/
private theorem exists_dropTerminators (line inner : List Char) {c : Char}
    (plain : isLineTerminator c = false) :
    ∃ more, dropTerminators (line ++ c :: inner) = line ++ c :: more := by
  have front : (line ++ [c]).reverse.dropWhile isLineTerminator = (line ++ [c]).reverse := by
    rw [List.reverse_append, List.reverse_singleton, List.singleton_append,
      List.dropWhile_cons_of_neg (by simp [plain])]
  have split : (line ++ c :: inner).reverse = inner.reverse ++ (line ++ [c]).reverse := by
    simp
  rw [dropTerminators, split, List.dropWhile_append, front]
  split
  · exact ⟨[], by rw [List.reverse_reverse]⟩
  · exact ⟨(inner.reverse.dropWhile isLineTerminator).reverse, by simp⟩

/-- A character that ends no line stands in the text of its line, at its column. -/
theorem SourceUnit.exists_lineText? (unit : SourceUnit) {done rest : List Char} {c : Char}
    (whole : unit.chars = done ++ c :: rest) (plain : isLineTerminator c = false) :
    ∃ line more, unit.lineText? (unit.position (byteSize done)).line = some (line ++ c :: more) ∧
      (unit.position (byteSize done)).column = line.length + 1 := by
  obtain ⟨before, front, line, rfl, starts, -, last, place⟩ := exists_position unit whole
  obtain ⟨inner, rest, rfl, stop⟩ := exists_stop unit whole
  obtain ⟨more, trimmed⟩ := exists_dropTerminators line inner plain
  have start := start?_of_starts starts last
  have next : (unit.lines.start? (before.length + 1 + 1)).getD unit.size =
      byteSize (front ++ line ++ c :: inner) := by
    simp only [SourceUnit.lines, LineMap.ofText, LineMap.start?, starts, ← stop]
    rw [List.getElem?_cons_succ, List.getElem?_append_right (Nat.le_refl _), Nat.sub_self,
      ← List.head?_eq_getElem?]
  refine ⟨line, more, ?_, by rw [place]⟩
  have cut : between (byteSize front) (byteSize (front ++ line ++ c :: inner)) unit.chars =
      line ++ c :: inner := by
    have parts : unit.chars = front ++ ((line ++ c :: inner) ++ rest) := by simp [whole]
    rw [parts, List.append_assoc, byteSize_append, between_append]
  rw [place, SourceUnit.lineText?, start, Option.map_some]
  dsimp only
  rw [next, cut, trimmed]

/-! ## Bounds -/

theorem SourceUnit.count_lines_le (unit : SourceUnit) : unit.lines.count ≤ unit.size + 1 := by
  have starts := length_lineStartsFrom_le 0 unit.chars
  have bytes := length_le_byteSize unit.chars
  exact Nat.succ_le_succ (Nat.le_trans starts bytes)

theorem SourceUnit.line_position_le (unit : SourceUnit) (offset : Nat) :
    (unit.position offset).line ≤ unit.size + 1 :=
  Nat.le_trans List.countP_le_length unit.count_lines_le

theorem SourceUnit.column_position_le (unit : SourceUnit) (offset : Nat) :
    (unit.position offset).column ≤ unit.size + 1 := by
  have cut : ∀ start stop, (between start stop unit.chars).length ≤ unit.chars.length := by
    intro start stop
    have outer := congrArg List.length (takeBytes_append_dropBytes start unit.chars)
    have inner := congrArg List.length
      (takeBytes_append_dropBytes (stop - start) (dropBytes start unit.chars))
    simp only [List.length_append] at outer inner
    unfold between
    omega
  exact Nat.add_le_add_right (Nat.le_trans (cut _ _) (length_le_byteSize unit.chars)) 1

end JavaLex
