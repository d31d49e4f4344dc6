/-! # Texts measured in bytes

Offsets into a source text count the bytes of its UTF-8 form. The functions below cut a list of
characters at such offsets; `takeBytes_append_dropBytes` says that a cut loses nothing, and
`byteSize_toList` that the measure is that of the string.
-/

namespace JavaLex

/-- Bytes that a text takes in UTF-8. -/
def byteSize (text : List Char) : Nat :=
  text.foldr (fun c size => c.utf8Size + size) 0

@[simp] theorem byteSize_nil : byteSize [] = 0 := rfl

@[simp] theorem byteSize_cons (c : Char) (text : List Char) :
    byteSize (c :: text) = c.utf8Size + byteSize text := rfl

@[simp] theorem byteSize_append (first second : List Char) :
    byteSize (first ++ second) = byteSize first + byteSize second := by
  induction first with
  | nil => simp
  | cons c rest ih => rw [List.cons_append, byteSize_cons, byteSize_cons, ih, Nat.add_assoc]

theorem length_le_byteSize (text : List Char) : text.length ≤ byteSize text := by
  induction text with
  | nil => simp
  | cons c rest ih =>
      have positive := c.utf8Size_pos
      rw [List.length_cons, byteSize_cons]
      omega

/-- The bytes of the characters of a string are the bytes of the string. -/
theorem byteSize_toList (s : String) : byteSize s.toList = s.utf8ByteSize := by
  have encodes : ∀ text : List Char,
      (text.flatMap String.utf8EncodeChar).length = byteSize text := by
    intro text
    induction text with
    | nil => rfl
    | cons c rest ih => simp [ih]
  have encoded := encodes s.toList
  rw [← encoded, ← List.size_toByteArray, ← List.utf8Encode.eq_1, String.utf8Encode_toList,
    String.size_toByteArray]

/-- The characters that begin within the first `bytes` bytes. -/
def takeBytes : Nat → List Char → List Char
  | 0, _ => []
  | _ + 1, [] => []
  | bytes + 1, c :: rest => c :: takeBytes (bytes + 1 - c.utf8Size) rest

/-- The characters that begin after the first `bytes` bytes. -/
def dropBytes : Nat → List Char → List Char
  | 0, text => text
  | _ + 1, [] => []
  | bytes + 1, c :: rest => dropBytes (bytes + 1 - c.utf8Size) rest

theorem takeBytes_append_dropBytes (bytes : Nat) (text : List Char) :
    takeBytes bytes text ++ dropBytes bytes text = text := by
  induction text generalizing bytes with
  | nil => cases bytes <;> rfl
  | cons c rest ih =>
      cases bytes with
      | zero => rfl
      | succ bytes => simp [takeBytes, dropBytes, ih]

/-- Where one text ends and another begins, a cut takes them apart. -/
@[simp] theorem takeBytes_append (first second : List Char) :
    takeBytes (byteSize first) (first ++ second) = first := by
  induction first with
  | nil => cases second <;> rfl
  | cons c rest ih =>
      have positive := c.utf8Size_pos
      obtain ⟨size, total⟩ : ∃ size, byteSize (c :: rest) = size + 1 :=
        ⟨c.utf8Size + byteSize rest - 1, by rw [byteSize_cons]; omega⟩
      have left : size + 1 - c.utf8Size = byteSize rest := by
        rw [← total, byteSize_cons]
        omega
      rw [total, List.cons_append, takeBytes, left, ih]

@[simp] theorem dropBytes_append (first second : List Char) :
    dropBytes (byteSize first) (first ++ second) = second := by
  have whole := takeBytes_append_dropBytes (byteSize first) (first ++ second)
  rw [takeBytes_append] at whole
  exact List.append_cancel_left whole

/-- An offset where a character begins, or the end of the text. -/
def isBoundary (text : List Char) (offset : Nat) : Bool :=
  byteSize (takeBytes offset text) == offset

/-- The characters that begin in the given stretch of bytes. -/
def between (start stop : Nat) (text : List Char) : List Char :=
  takeBytes (stop - start) (dropBytes start text)

theorem isBoundary_append (first second : List Char) :
    isBoundary (first ++ second) (byteSize first) = true := by
  simp [isBoundary]

theorem between_append (first second third : List Char) :
    between (byteSize first) (byteSize first + byteSize second) (first ++ (second ++ third)) =
      second := by
  rw [between, dropBytes_append, Nat.add_sub_cancel_left, takeBytes_append]

/-- The characters between two offsets, if both are boundaries in order. -/
def slice? (start stop : Nat) (text : List Char) : Option (List Char) :=
  if start ≤ stop && isBoundary text start && isBoundary text stop then
    some (between start stop text)
  else
    none

/-- A part of a text is the slice from where it starts to where it stops. -/
theorem slice?_append (first second third : List Char) :
    slice? (byteSize first) (byteSize (first ++ second)) (first ++ second ++ third) =
      some second := by
  have start : isBoundary (first ++ second ++ third) (byteSize first) = true := by
    rw [List.append_assoc]
    exact isBoundary_append _ _
  have stop := isBoundary_append (first ++ second) third
  rw [slice?, start, stop, if_pos (by simp), byteSize_append, List.append_assoc,
    between_append]

end JavaLex
