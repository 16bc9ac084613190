/-
Symbols that are read from a source text: in Python the functions and classes of the syntax tree, level by level; in
assembly labels, sections and global names, line by line; in COBOL the program, sections, paragraphs and data items of
level 01, at most one per line.
-/
import CodeSurvey.Pattern
import CodeSurvey.Python.Parser
import CodeSurvey.Symbol.Basic
import CodeSurvey.Text.Piece

namespace CodeSurvey.Python

def signature (name : String) (p : Parameters) : String :=
  let stars := (p.positional.map ("*" ++ ·)).toList ++ (p.named.map ("**" ++ ·)).toList
  s!"def {name}(" ++ String.intercalate ", " (p.plain ++ stars) ++ ")"

def Node.symbol? (n : Node) : Option Symbol :=
  match n.definition? with
  | some d =>
    match d.sort with
    | .function => some ⟨d.name, .function, signature d.name d.params, n.line, d.endLine⟩
    | .classDef => some ⟨d.name, .classType, "class " ++ d.name, n.line, d.endLine⟩
    | .asyncFunction => none
  | none => none

def Node.symbols (n : Node) : List Symbol := n.walk.filterMap Node.symbol?

def symbols (t : List Char) : List Symbol :=
  match parse t with
  | .ok tree => tree.symbols
  | .error _ => []

end CodeSurvey.Python

namespace CodeSurvey.Assembly

open Pattern

def isNameStart (c : Char) : Bool := c == '.' || c == '_' || c.isAlpha

def isNameChar (c : Char) : Bool := isNameStart c || c.isDigit

/-- A label that no comment follows; group 1 is its name. -/
def labelPattern : Pattern :=
  group 1 (one isNameStart ++ star isNameChar) ++ lit ":" ++ notAhead (blanks ++ lit ";")

def sectionPattern : Pattern :=
  lit "." ++ group 1 (anyLit ["text", "data", "bss", "rodata"]) ++ (one Text.isBlank <|> textEnd)

def globalPattern : Pattern :=
  lit "." ++ anyLit ["globl", "global"] ++ blanks1 ++ group 1 (one isNameStart ++ star isNameChar)

/-- The label that a line defines. Labels that start with a capital L are local. -/
def labelSymbol? (line : Nat) (t : List Char) : Option Symbol := do
  let m ← labelPattern.matchStart? t
  let name := m.group 1
  if Text.startsWith ['L'] name then none
  else some (.onLine line (String.ofList name) .function (String.ofList name ++ ":"))

def sectionSymbol? (line : Nat) (t : List Char) : Option Symbol := do
  let m ← sectionPattern.matchStart? t
  let name := String.ofList (m.group 1)
  return .onLine line name .label ("." ++ name)

def globalSymbol? (line : Nat) (t : List Char) : Option Symbol := do
  let m ← globalPattern.matchStart? t
  let name := String.ofList (m.group 1)
  return .onLine line name .function (".global " ++ name)

def lineSymbols (line : Nat) (t : List Char) : List Symbol :=
  let s := Text.strip t
  (labelSymbol? line s).toList ++ (sectionSymbol? line s).toList ++ (globalSymbol? line s).toList

def symbols (t : List Char) : List Symbol :=
  ((Text.lines (Text.unifyNewlines t)).zipIdx 1).flatMap fun (l, n) => lineSymbols n l

end CodeSurvey.Assembly

namespace CodeSurvey.Cobol

open Pattern

def isNameStart (c : Char) : Bool := c.isUpper || c.isDigit

def isNameChar (c : Char) : Bool := isNameStart c || c == '-'

def programPattern : Pattern := lit "PROGRAM-ID." ++ blanks1 ++ group 1 (plus isNameChar)

def sectionPattern : Pattern :=
  group 1 (one Char.isUpper ++ star isNameChar) ++ blanks1 ++ lit "SECTION."

def paragraphPattern : Pattern :=
  group 1 (one isNameStart ++ star isNameChar) ++ lit "." ++ blanks ++ textEnd

def itemPattern : Pattern :=
  blanks ++ lit "01" ++ blanks1 ++ group 1 (one isNameStart ++ plus isNameChar)

def reserved : List String :=
  ["IDENTIFICATION", "ENVIRONMENT", "DATA", "PROCEDURE", "WORKING-STORAGE", "LINKAGE", "FILE", "SCREEN", "INPUT-OUTPUT",
    "FILE-CONTROL", "CONFIGURATION"]

def named? (p : Pattern) (t : List Char) : Option String := (p.matchStart? t).map fun m => String.ofList (m.group 1)

/-- The symbol of one line. The line is compared in capitals; comments have none. -/
def lineSymbol? (line : Nat) (t : List Char) : Option Symbol :=
  let u := Text.strip (Text.upper t)
  if u.isEmpty || Text.startsWith ['*'] u then none
  else
    match named? programPattern u with
    | some name => some (.onLine line name .program ("PROGRAM-ID. " ++ name))
    | none =>
      match named? sectionPattern u with
      | some name => some (.onLine line name .procedure (name ++ " SECTION."))
      | none =>
        match (named? paragraphPattern u).filter fun name => !reserved.contains name with
        | some name => some (.onLine line name .procedure (name ++ "."))
        | none =>
          (named? itemPattern u).map fun name => .onLine line name .variable (String.ofList (Text.strip t))

def symbols (t : List Char) : List Symbol :=
  ((Text.lines (Text.unifyNewlines t)).zipIdx 1).filterMap fun (l, n) => lineSymbol? n l

end CodeSurvey.Cobol
