/-! # Values of literals -/

namespace JavaLex

/-- The value that a literal denotes. Numbers are bit patterns of their type: two's complement for
integers, the IEEE 754 interchange form for floating-point numbers. -/
inductive Literal where
  | int (bits : BitVec 32)
  | long (bits : BitVec 64)
  | float (bits : BitVec 32)
  | double (bits : BitVec 64)
  | char (value : Char)
  | string (value : String)
  | bool (value : Bool)
  | null
deriving DecidableEq, Repr, Inhabited

end JavaLex
