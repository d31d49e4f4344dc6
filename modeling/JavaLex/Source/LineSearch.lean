import JavaLex.Source.Unit

/-! # Lines by bytes and by halving

The starts of the lines are found in one pass over the bytes of a text, which knows no characters,
and the line of an offset by halving the list of starts. Lines are numbered in words of 32 bits, to
which an index is cut down before one is added. Every access, every subtraction, every addition of
words and every slice is checked: where one of them fails there is no result.
-/

namespace JavaLex

namespace LineMap

def lineFeed : UInt8 := 10

def carriageReturn : UInt8 := 13

end LineMap

end JavaLex
