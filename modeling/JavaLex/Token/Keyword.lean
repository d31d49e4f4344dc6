/-! # Keywords

The fifty keywords and the underscore, which later editions of the language reserve as well.
`ofSpelling?_spelling` says that the spellings tell the keywords apart.
-/

namespace JavaLex

inductive Keyword where
  | kwAbstract | kwAssert | kwBoolean | kwBreak | kwByte | kwCase | kwCatch | kwChar | kwClass
  | kwConst | kwContinue | kwDefault | kwDo | kwDouble | kwElse | kwEnum | kwExtends | kwFinal
  | kwFinally | kwFloat | kwFor | kwGoto | kwIf | kwImplements | kwImport | kwInstanceof
  | kwInt | kwInterface | kwLong | kwNative | kwNew | kwPackage | kwPrivate | kwProtected
  | kwPublic | kwReturn | kwShort | kwStatic | kwStrictfp | kwSuper | kwSwitch | kwSynchronized
  | kwThis | kwThrow | kwThrows | kwTransient | kwTry | kwVoid | kwVolatile | kwWhile
  | underscore
deriving DecidableEq, Repr, Inhabited

namespace Keyword

def spelling : Keyword → String
  | kwAbstract => "abstract"
  | kwAssert => "assert"
  | kwBoolean => "boolean"
  | kwBreak => "break"
  | kwByte => "byte"
  | kwCase => "case"
  | kwCatch => "catch"
  | kwChar => "char"
  | kwClass => "class"
  | kwConst => "const"
  | kwContinue => "continue"
  | kwDefault => "default"
  | kwDo => "do"
  | kwDouble => "double"
  | kwElse => "else"
  | kwEnum => "enum"
  | kwExtends => "extends"
  | kwFinal => "final"
  | kwFinally => "finally"
  | kwFloat => "float"
  | kwFor => "for"
  | kwGoto => "goto"
  | kwIf => "if"
  | kwImplements => "implements"
  | kwImport => "import"
  | kwInstanceof => "instanceof"
  | kwInt => "int"
  | kwInterface => "interface"
  | kwLong => "long"
  | kwNative => "native"
  | kwNew => "new"
  | kwPackage => "package"
  | kwPrivate => "private"
  | kwProtected => "protected"
  | kwPublic => "public"
  | kwReturn => "return"
  | kwShort => "short"
  | kwStatic => "static"
  | kwStrictfp => "strictfp"
  | kwSuper => "super"
  | kwSwitch => "switch"
  | kwSynchronized => "synchronized"
  | kwThis => "this"
  | kwThrow => "throw"
  | kwThrows => "throws"
  | kwTransient => "transient"
  | kwTry => "try"
  | kwVoid => "void"
  | kwVolatile => "volatile"
  | kwWhile => "while"
  | underscore => "_"

def name : Keyword → String
  | kwAbstract => "Abstract"
  | kwAssert => "Assert"
  | kwBoolean => "Boolean"
  | kwBreak => "Break"
  | kwByte => "Byte"
  | kwCase => "Case"
  | kwCatch => "Catch"
  | kwChar => "Char"
  | kwClass => "Class"
  | kwConst => "Const"
  | kwContinue => "Continue"
  | kwDefault => "Default"
  | kwDo => "Do"
  | kwDouble => "Double"
  | kwElse => "Else"
  | kwEnum => "Enum"
  | kwExtends => "Extends"
  | kwFinal => "Final"
  | kwFinally => "Finally"
  | kwFloat => "Float"
  | kwFor => "For"
  | kwGoto => "Goto"
  | kwIf => "If"
  | kwImplements => "Implements"
  | kwImport => "Import"
  | kwInstanceof => "Instanceof"
  | kwInt => "Int"
  | kwInterface => "Interface"
  | kwLong => "Long"
  | kwNative => "Native"
  | kwNew => "New"
  | kwPackage => "Package"
  | kwPrivate => "Private"
  | kwProtected => "Protected"
  | kwPublic => "Public"
  | kwReturn => "Return"
  | kwShort => "Short"
  | kwStatic => "Static"
  | kwStrictfp => "Strictfp"
  | kwSuper => "Super"
  | kwSwitch => "Switch"
  | kwSynchronized => "Synchronized"
  | kwThis => "This"
  | kwThrow => "Throw"
  | kwThrows => "Throws"
  | kwTransient => "Transient"
  | kwTry => "Try"
  | kwVoid => "Void"
  | kwVolatile => "Volatile"
  | kwWhile => "While"
  | underscore => "Underscore"

/-- Every keyword but the underscore. -/
def words : List Keyword :=
  [kwAbstract, kwAssert, kwBoolean, kwBreak, kwByte, kwCase, kwCatch, kwChar, kwClass, kwConst,
   kwContinue, kwDefault, kwDo, kwDouble, kwElse, kwEnum, kwExtends, kwFinal, kwFinally,
   kwFloat, kwFor, kwGoto, kwIf, kwImplements, kwImport, kwInstanceof, kwInt, kwInterface,
   kwLong, kwNative, kwNew, kwPackage, kwPrivate, kwProtected, kwPublic, kwReturn, kwShort,
   kwStatic, kwStrictfp, kwSuper, kwSwitch, kwSynchronized, kwThis, kwThrow, kwThrows,
   kwTransient, kwTry, kwVoid, kwVolatile, kwWhile]

def all : List Keyword :=
  words ++ [underscore]

def ofSpelling? (text : String) : Option Keyword :=
  all.find? (·.spelling == text)

theorem mem_all (keyword : Keyword) : keyword ∈ all := by
  cases keyword <;> decide

theorem ofSpelling?_spelling (keyword : Keyword) : ofSpelling? keyword.spelling = some keyword := by
  cases keyword <;> decide

end Keyword

end JavaLex
