/-
The documentation that a source text holds for a symbol: the string at the head of a Python definition, the comment
block before a C function, and the comment lines of assembly and COBOL.
-/
import CodeSurvey.Python.Parser
import CodeSurvey.Text.Piece

namespace CodeSurvey.Docstring

/-! ## Python -/

/-- Copies a text backwards onto `acc` with tabs replaced by blanks up to the next multiple of eight columns. -/
def expandTabsFrom (column : Nat) (acc : List Char) : List Char → List Char
  | [] => acc
  | c :: r =>
    if c == '\t' then
      let n := 8 - column % 8
      expandTabsFrom (column + n) (List.replicate n ' ' ++ acc) r
    else if c == '\n' || c == '\r' then expandTabsFrom 0 (c :: acc) r
    else expandTabsFrom (column + 1) (c :: acc) r

def expandTabs (t : List Char) : List Char := (expandTabsFrom 0 [] t).reverse

def indentation? (line : List Char) : Option Nat :=
  let body := Text.stripLeft line
  if body.isEmpty then none else some (line.length - body.length)

/-- A documentation string without the indentation common to the lines after the first, and without empty lines at its
ends. -/
def clean (doc : List Char) : List Char :=
  match Text.lines (expandTabs doc) with
  | [] => []
  | first :: more =>
    let more := match (more.filterMap indentation?).min? with
      | some margin => more.map (·.drop margin)
      | none => more
    let ls := (Text.stripLeft first :: more).dropWhile (·.isEmpty)
    Text.unlines (ls.reverse.dropWhile (·.isEmpty)).reverse

def ofNode? (line : Int) (n : Python.Node) : Option (List Char) := do
  let d ← n.definition?
  let doc := clean (← d.doc).toList
  if (n.line : Int) == line && !doc.isEmpty then some (Text.strip doc) else none

/-- The documentation of the first documented definition on a line of a Python source; a text that is no program has
none. -/
def ofPython (t : List Char) (line : Int) : Except Fault (Option (List Char)) :=
  match Python.parse t with
  | .ok tree => .ok (tree.walk.findSome? (ofNode? line))
  | .error o => o.orElse none

/-! ## Comments -/

/-- The lines up to and with line `n`, the nearest first; `none` if there is no such line. -/
def linesUpTo? (t : List Char) (n : Int) : Option (List (List Char)) :=
  let ls := Text.boundaryLines t
  if n ≤ 0 || (ls.length : Int) < n then none else some (ls.take n.toNat).reverse

def joined? (texts : List (List Char)) : Option (List Char) :=
  if texts.isEmpty then none else some (Text.joinWith [' '] texts)

def keep (text : List Char) (acc : List (List Char)) : List (List Char) := if text.isEmpty then acc else text :: acc

/-- Gathers the texts of a comment block upwards, the last line of which ends in the closing mark; `inside` tells
whether the block has been entered. -/
def gatherBlock (inside : Bool) (acc : List (List Char)) : List (List Char) → List (List Char)
  | [] => acc
  | l :: r =>
    let line := Text.strip l
    if Text.endsWith ['*', '/'] line then
      let body := Text.strip (line.take (line.length - 2))
      let body := if Text.startsWith ['*'] body then Text.strip (body.drop 1) else body
      gatherBlock true (keep body acc) r
    else if inside then
      if Text.startsWith ['/', '*', '*'] line then keep (Text.strip (line.drop 3)) acc
      else if Text.startsWith ['*'] line then gatherBlock true (keep (Text.strip (line.drop 1)) acc) r
      else if line.isEmpty then gatherBlock true acc r
      else acc
    else gatherBlock false acc r

/-- The number of lines above a C function in which its comment block is looked for, its own line included. -/
def blockReach : Nat := 10

def ofC? (t : List Char) (line : Int) : Option (List Char) := do
  let above ← linesUpTo? t line
  joined? (gatherBlock false [] (above.take blockReach))

def assemblyComment? (line : List Char) : Option (List Char) :=
  if Text.startsWith [';'] line then some (Text.strip (line.drop 1))
  else if Text.startsWith ['/', '/'] line then some (Text.strip (line.drop 2))
  else none

def cobolComment? (line : List Char) : Option (List Char) :=
  if Text.startsWith ['*'] line then
    let text := Text.strip (line.drop 1)
    some (if Text.startsWith ['>'] text then Text.strip (text.drop 1) else text)
  else none

/-- Gathers the texts of comment lines upwards as long as each line is a comment. -/
def gatherRun (comment? : List Char → Option (List Char)) (acc : List (List Char)) :
    List (List Char) → List (List Char)
  | [] => acc
  | l :: r =>
    match comment? (Text.strip l) with
    | some text => gatherRun comment? (keep text acc) r
    | none => acc

def ofRun? (comment? : List Char → Option (List Char)) (t : List Char) (line : Int) : Option (List Char) := do
  let above ← linesUpTo? t line
  joined? (gatherRun comment? [] above)

/-! ## By language -/

def onLine (find? : Int → Option (List Char)) : Option Int → Except Fault (Option (List Char))
  | some line => .ok (find? line)
  | none => .error .wrongType

/-- The documentation of the symbol on a line, by the name of the language in any case. Of a Python symbol whose line is
not told there is none. -/
def extract (t : List Char) (language : List Char) (line : Option Int) : Except Fault (Option (List Char)) :=
  let lang := String.ofList (Text.lower language)
  if lang == "python" then ofPython t (line.getD 0)
  else if ["c", "cpp", "c++"].contains lang then onLine (ofC? t) line
  else if ["assembly", "asm"].contains lang then onLine (ofRun? assemblyComment? t) line
  else if lang == "cobol" then onLine (ofRun? cobolComment? t) line
  else .ok none

end CodeSurvey.Docstring
