import JavaLex.Shell.Highlight

/-! # Open input

Input is incomplete while a comment or a bracket is open in it. Open brackets are counted in a word
of 32 bits with a sign; a count that would leave the word is a failure.
-/

namespace JavaLex

/-- What a token adds to the number of open brackets. -/
def Kind.depth : Kind → Int
  | .operator .leftBrace | .operator .leftBracket | .operator .leftParen => 1
  | .operator .rightBrace | .operator .rightBracket | .operator .rightParen => -1
  | _ => 0

def ScannedUnit.depth (unit : ScannedUnit) : Int :=
  unit.tokens.foldl (fun depth token => depth + token.kind.depth) 0

def ScannedUnit.hasOpenComment (unit : ScannedUnit) : Bool :=
  unit.errors.any (·.cause == .unterminatedComment)

def isIncomplete (options : Options) (text : List Char) : Bool :=
  (Command.parse? text).isNone &&
    let unit := (SourceUnit.ofChars text).tokenize { options with keepComments := false }
    unit.hasOpenComment || 0 < unit.depth

/-! ## In words -/

def stepDepth? (depth : Int32) (step : Int) : Option Int32 :=
  let sum := depth.toInt + step
  if Int32.minValue.toInt ≤ sum ∧ sum ≤ Int32.maxValue.toInt then some (Int32.ofInt sum) else none

def depthFrom? (depth : Int32) : List Token → Option Int32
  | [] => some depth
  | token :: tokens =>
      match stepDepth? depth token.kind.depth with
      | none => none
      | some depth => depthFrom? depth tokens

def ScannedUnit.depth? (unit : ScannedUnit) : Option Int32 :=
  depthFrom? 0 unit.tokens

/-- As `isIncomplete`, with the brackets counted in a word. -/
def isIncomplete? (options : Options) (text : List Char) : Option Bool :=
  if (Command.parse? text).isSome then
    some false
  else
    let unit := (SourceUnit.ofChars text).tokenize { options with keepComments := false }
    unit.depth?.map fun depth => unit.hasOpenComment || 0 < depth

end JavaLex
