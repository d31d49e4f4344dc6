import JavaLex.Names
import Std.Data.HashMap.Lemmas

/-! # Symbols

Interned names as a program keeps them: a hash map gives the symbol of a spelling, and an array the
spelling of a symbol. A symbol is a word of 32 bits, to which the number of names is cut down when
it is issued.
-/

namespace JavaLex

/-- Symbols by spelling, and spellings by symbol. -/
structure SymbolTable where
  symbols : Std.HashMap String UInt32
  spellings : Array String

namespace SymbolTable

def empty : SymbolTable := ⟨∅, #[]⟩

def size (table : SymbolTable) : Nat :=
  table.spellings.size

def get? (table : SymbolTable) (spelling : String) : Option UInt32 :=
  table.symbols[spelling]?

def resolve? (table : SymbolTable) (symbol : UInt32) : Option String :=
  table.spellings[symbol.toNat]?

/-- The symbol of a spelling, which is entered in both parts if the map does not know it. -/
def intern (table : SymbolTable) (spelling : String) : UInt32 × SymbolTable :=
  match table.get? spelling with
  | some symbol => (symbol, table)
  | none =>
      let symbol := table.size.toUInt32
      (symbol, ⟨table.symbols.insert spelling symbol, table.spellings.push spelling⟩)

def entries (table : SymbolTable) : List (UInt32 × String) :=
  table.spellings.toList.zipIdx.map fun (spelling, index) => (index.toUInt32, spelling)

theorem intern_of_some {table : SymbolTable} {spelling : String} {symbol : UInt32}
    (known : table.get? spelling = some symbol) : table.intern spelling = (symbol, table) := by
  rw [intern, known]

theorem intern_of_none {table : SymbolTable} {spelling : String}
    (new : table.get? spelling = none) :
    table.intern spelling = (table.size.toUInt32,
      ⟨table.symbols.insert spelling table.size.toUInt32, table.spellings.push spelling⟩) := by
  rw [intern, new]

end SymbolTable

end JavaLex
