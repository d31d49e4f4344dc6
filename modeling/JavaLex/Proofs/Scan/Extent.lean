import JavaLex.Proofs.Front.Lexeme
import JavaLex.Proofs.Scan.Run

/-! # How far a lexeme reaches

A lexeme takes no more characters than there are, and whatever is wrong with it stands at one of
the characters that it takes. `Contained` says so of every way of reading, and counts the faults
that end a scan.
-/

namespace JavaLex

open Charset

/-! ## Literals -/

namespace Quoted

theorem index_of_mem_illegal {index place : Nat} {text : List Char} {c : Char}
    (member : (place, c) ∈ (body index text).illegal) :
    index ≤ place ∧ place < index + (body index text).size := by
  fun_induction body index text with
  | case1 | case2 | case3 => cases member
  | case4 index d rest _ _ _ sequence tail decoded _ ih =>
      have later : index + 1 + sequence.2 ≤ place ∧
          place < index + 1 + sequence.2 + tail.size := ih member
      dsimp only
      omega
  | case5 index d rest _ _ _ sequence tail illegal _ ih =>
      dsimp only at member ⊢
      rcases List.mem_cons.mp member with first | later
      · obtain ⟨rfl, -⟩ := Prod.mk.inj first
        omega
      · have later : index + 1 + sequence.2 ≤ place ∧
            place < index + 1 + sequence.2 + tail.size := ih later
        omega
  | case6 index d rest _ _ _ tail ih =>
      have later : index + 1 ≤ place ∧ place < index + 1 + tail.size := ih member
      dsimp only
      omega

theorem closingSize_le (text : List Char) : closingSize text ≤ text.length := by
  unfold closingSize
  extract_lets size
  split
  · next quote =>
    have bound := (List.getElem?_eq_some_iff.mp (eq_of_beq quote)).choose
    omega
  · omega

theorem size_character_le (text : List Char) : (character text).2 ≤ text.length := by
  unfold character
  split
  · exact Nat.zero_le _
  next c rest =>
  split
  · exact Nat.zero_le _
  split
  · simp
  extract_lets unit after
  have taken : unit.2 ≤ (c :: rest).length := by
    unfold unit
    split
    · have := size_escape_le rest
      simp only [List.length_cons]
      omega
    · simp
  have left : after.length = (c :: rest).length - unit.2 := List.length_drop
  have closing := closingSize_le after
  split
  · dsimp only
    omega
  split
  · next closes =>
    have quote := eq_of_beq (Bool.and_eq_true_iff.mp closes).2
    obtain ⟨more, same⟩ := List.head?_eq_some_iff.mp quote
    rw [same, List.length_cons] at left
    dsimp only
    omega
  · dsimp only
    omega

theorem size_character_pos_of_illegal {text : List Char} {c : Char} {size : Nat}
    (read : character text = (.error (.illegalEscape c), size)) : 0 < size := by
  unfold character at read
  split at read
  · cases read
  split at read
  · cases read
  split at read
  · cases read
  extract_lets unit after at read
  have taken : 0 < unit.2 := by
    unfold unit
    split <;> simp
  split at read
  · obtain ⟨-, rfl⟩ := Prod.mk.inj read
    omega
  split at read <;> cases read

end Quoted

namespace Numeral

theorem tailSize_le (text : List Char) : tailSize text ≤ text.length := by
  induction text with
  | nil => exact Nat.le_refl _
  | cons c rest ih =>
      unfold tailSize
      split <;> simp only [List.length_cons] <;> omega

theorem size_scan_le (text : List Char) : (scan text).2 ≤ text.length := by
  have taken := regular_read.size_le text
  have tail := tailSize_le (text.drop (read text).size)
  rw [List.length_drop] at tail
  unfold scan
  dsimp only
  split
  · dsimp only
    omega
  split
  · exact taken
  · dsimp only
    omega

end Numeral

namespace Lexeme

theorem closing?_le {text : List Char} {size : Nat} (closes : closing? text = some size) :
    size ≤ text.length := by
  induction text generalizing size with
  | nil => cases closes
  | cons c rest ih =>
      unfold closing? at closes
      split at closes
      · next mark =>
        have slash := eq_of_beq (Bool.and_eq_true_iff.mp mark).2
        obtain ⟨more, rfl⟩ := List.head?_eq_some_iff.mp slash
        obtain rfl := Option.some.inj closes
        simp
      · obtain ⟨fewer, later, rfl⟩ := Option.map_eq_some_iff.mp closes
        exact Nat.succ_le_succ (ih later)

/-! ## Every way of reading -/

/-- A lexeme stays within what is left, its faults stand at its own characters and are not those
of escapes, and at most one of them ends the scan. -/
structure Contained (left : Nat) (lexeme : Lexeme) : Prop where
  size_le : lexeme.size ≤ left
  index_lt : ∀ fault ∈ lexeme.outcome.faults, fault.index < lexeme.size
  cause_ne : ∀ fault ∈ lexeme.outcome.faults, fault.cause ≠ .malformedEscape
  fatal_le : lexeme.outcome.faults.countP (fun fault => !fault.recoverable) ≤ 1

theorem Contained.of_faultless {left : Nat} {lexeme : Lexeme} (size_le : lexeme.size ≤ left)
    (faultless : lexeme.outcome.faults = []) : Contained left lexeme where
  size_le := size_le
  index_lt := by simp [faultless]
  cause_ne := by simp [faultless]
  fatal_le := by simp [faultless]

theorem Contained.of_fault {left size index : Nat} {cause : Cause} (size_le : size ≤ left)
    (index_lt : index < size) (other : cause ≠ .malformedEscape) :
    Contained left ⟨.faulty [.of cause index], size⟩ where
  size_le := size_le
  index_lt fault member := by
    obtain rfl := List.mem_singleton.mp member
    exact index_lt
  cause_ne fault member := by
    obtain rfl := List.mem_singleton.mp member
    exact other
  fatal_le := List.countP_le_length

theorem contained_string (text : List Char) : Contained (text.length + 1) (string text) := by
  have within := Quoted.size_body_le 1 text
  have legal : ∀ faults, ((Quoted.body 1 text).illegal.map fun entry =>
      Fault.of (.illegalEscape entry.2) entry.1) = faults → ∀ fault ∈ faults,
        fault.index < (Quoted.body 1 text).size + 1 ∧ fault.cause ≠ .malformedEscape ∧
          fault.recoverable = true := by
    rintro _ rfl fault member
    obtain ⟨⟨index, c⟩, illegal, rfl⟩ := List.mem_map.mp member
    have bounds := Quoted.index_of_mem_illegal illegal
    refine ⟨?_, by simp [Fault.of], rfl⟩
    change index < _
    omega
  unfold string
  extract_lets body faults outcome
  have legal := legal faults rfl
  have none : faults.countP (fun fault => !fault.recoverable) = 0 :=
    List.countP_eq_zero.mpr fun fault member => by simp [(legal fault member).2.2]
  have size_le : body.size + 1 ≤ text.length + 1 := Nat.succ_le_succ within
  -- a string that is cut off has one more fault, at its opening quote
  have cutOff : ∀ recoverable, Contained (text.length + 1)
      ⟨.faulty (⟨.unterminatedString, 0, recoverable⟩ :: faults), body.size + 1⟩ := by
    intro recoverable
    refine ⟨size_le, ?_, ?_, ?_⟩
    · intro fault member
      rcases List.mem_cons.mp member with rfl | later
      · exact Nat.succ_pos _
      · exact (legal fault later).1
    · intro fault member
      rcases List.mem_cons.mp member with rfl | later
      · simp
      · exact (legal fault later).2.1
    · change List.countP _ (_ :: faults) ≤ 1
      rw [List.countP_cons, none]
      split <;> omega
  unfold outcome
  split
  · exact .of_faultless size_le rfl
  · exact ⟨size_le, fun fault member => (legal fault member).1,
      fun fault member => (legal fault member).2.1, Nat.le_trans (Nat.le_of_eq none) (Nat.zero_le 1)⟩
  · exact cutOff true
  · exact cutOff false

theorem contained_character (text : List Char) :
    Contained (text.length + 1) (character text) := by
  have within := Quoted.size_character_le text
  unfold character
  split
  next result size read =>
  rw [read] at within
  have size_le : size + 1 ≤ text.length + 1 := Nat.succ_le_succ within
  dsimp only
  split
  · exact .of_faultless size_le rfl
  · exact .of_fault size_le (Nat.succ_pos _) (by simp)
  · next c =>
    have positive := Quoted.size_character_pos_of_illegal read
    exact .of_fault size_le (by omega) (by simp)

theorem contained_number {c : Char} {rest : List Char} (start : StartsNumber c rest) :
    Contained (rest.length + 1) (number (c :: rest)) := by
  have within := Numeral.size_scan_le (c :: rest)
  have begins : (c.isDigit || (c == '.' && rest.head?.any Char.isDigit)) = true := by
    simpa [StartsNumber] using start
  have positive := size_number_pos begins
  unfold number at positive ⊢
  split at positive
  next result size scanned =>
  rw [scanned] at within
  split at positive
  · exact .of_faultless within rfl
  · next cause =>
    refine .of_fault within positive ?_
    rintro rfl
    unfold Numeral.scan at scanned
    dsimp only at scanned
    split at scanned
    · cases scanned
    · split at scanned <;> cases scanned

theorem contained_symbol (c : Char) (rest : List Char) :
    Contained (rest.length + 1) (symbol c rest) := by
  unfold symbol
  split
  · next operator found =>
    have front := congrArg List.length (Operator.take_of_longest? found)
    rw [List.length_take, List.length_cons, ← Operator.size] at front
    refine .of_faultless ?_ rfl
    change operator.size ≤ _
    omega
  · exact .of_fault (Nat.succ_le_succ (Nat.zero_le _)) Nat.one_pos (by simp)

theorem ReadAs.contained {c : Char} {rest : List Char} {lexeme : Lexeme}
    (reads : ReadAs c rest lexeme) : Contained (rest.length + 1) lexeme := by
  cases reads with
  | lineComment text =>
      refine .of_faultless ?_ rfl
      exact Nat.add_le_add_right (List.takeWhile_prefix _).length_le 2
  | blockComment text =>
      unfold Lexeme.blockComment
      split
      · next size closes =>
        exact .of_faultless (Nat.add_le_add_right (closing?_le closes) 2) rfl
      · exact .of_fault (Nat.le_refl _) (Nat.succ_pos _) (by simp)
  | string => exact contained_string rest
  | character => exact contained_character rest
  | number start => exact contained_number start
  | word =>
      refine .of_faultless ?_ rfl
      exact Nat.succ_le_succ (List.takeWhile_prefix _).length_le
  | symbol => exact contained_symbol c rest

theorem contained_malformedEscape (text : List Char) :
    Contained (text.length + 1) (malformedEscape text) := by
  refine .of_faultless ?_ rfl
  unfold malformedEscape
  extract_lets marks digits
  have run : marks ≤ text.length := (List.takeWhile_prefix _).length_le
  have front : digits.length ≤ ((text.drop marks).take 4).length :=
    (List.takeWhile_prefix _).length_le
  rw [List.length_take, List.length_drop] at front
  dsimp only
  omega

end Lexeme

/-! ## At a cursor -/

namespace Cursor

variable {here : Cursor} {c : Char} {rest : List Char} {fault : Fault}

theorem contained_lexeme (here : Cursor) (c : Char) (rest : List Char) :
    (here.lexeme c rest).Contained (rest.length + 1) := by
  unfold lexeme
  split
  · exact Lexeme.contained_malformedEscape rest
  · exact (Lexeme.readAs_read c rest).contained

theorem index_lt_of_mem_faults (member : fault ∈ here.faults (here.lexeme c rest)) :
    fault.index < (here.lexeme c rest).size := by
  rcases mem_faults_iff.mp member with escape | own
  · obtain ⟨index, marked, rfl⟩ := List.mem_map.mp escape
    exact (mem_malformedWithin_iff.mp marked).1
  · exact (here.contained_lexeme c rest).index_lt fault own

theorem fatal_faults_le (here : Cursor) (c : Char) (rest : List Char) :
    (here.faults (here.lexeme c rest)).countP (fun fault => !fault.recoverable) ≤ 1 := by
  have escapes : ((here.malformedWithin (here.lexeme c rest).size).map
      (Fault.of .malformedEscape)).countP (fun fault => !fault.recoverable) = 0 := by
    rw [List.countP_eq_zero]
    intro fault member
    obtain ⟨index, -, rfl⟩ := List.mem_map.mp member
    simp [Fault.of, Cause.isRecoverable]
  have own := (here.contained_lexeme c rest).fatal_le
  rw [faults, (List.mergeSort_perm _ _).countP_eq, List.countP_append, escapes, Nat.zero_add]
  exact own

end Cursor

end JavaLex
