/-
Symbols: the named things that a source text defines, with the lines they stand on.
-/

namespace CodeSurvey

inductive SymbolKind where
  | function
  | classType
  | variable
  | procedure
  | label
  | program
deriving DecidableEq

namespace SymbolKind

def code : SymbolKind → String
  | .function => "function"
  | .classType => "class_"
  | .variable => "variable"
  | .procedure => "procedure"
  | .label => "label"
  | .program => "program"

def word : SymbolKind → String
  | .classType => "class"
  | k => k.code

def ofCode? (s : String) : Option SymbolKind :=
  [.function, .classType, .variable, .procedure, .label, .program].find? (·.code == s)

/-- Kinds as they are kept in the store: a program counts as a function. -/
def stored : SymbolKind → SymbolKind
  | .program => .function
  | k => k

end SymbolKind

structure Symbol where
  name : String
  kind : SymbolKind
  signature : String
  lineStart : Nat
  lineEnd : Nat

namespace Symbol

def onLine (line : Nat) (name : String) (kind : SymbolKind) (signature : String) : Symbol :=
  ⟨name, kind, signature, line, line⟩

end Symbol

end CodeSurvey
