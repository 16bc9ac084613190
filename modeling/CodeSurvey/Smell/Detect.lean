/-
The search for code smells among the symbols of a file: missing documentation, long methods, classes with too much in
them, and methods that reach more into other objects than into their own.
-/
import CodeSurvey.Basic
import CodeSurvey.Pattern
import CodeSurvey.Smell.Basic
import CodeSurvey.Text.Piece

namespace CodeSurvey.Smell

/-- A symbol under examination; what is not given is `none`. -/
structure Subject where
  kind : String
  name : Option Json
  id : Option Json
  parent : Option Json
  hasDocstring : Option Json
  docstring : Option Json
  /-- The first line: not given, null or a number. -/
  startLine : Option (Option Int)
  endLine : Option (Option Int)

namespace Subject

def firstLine (s : Subject) : Option Int := s.startLine.getD (some 0)

def lastLine (s : Subject) : Option Int := s.endLine.getD (some 0)

def needLine : Option Int → Except Fault Int
  | some n => .ok n
  | none => .error .wrongType

def span (s : Subject) : Except Fault Int := do return (← needLine s.lastLine) - (← needLine s.firstLine)

def titleName (s : Subject) : String := (s.name.map Json.display).getD "unknown"

def plainName (s : Subject) : String := (s.name.getD .null).display

def finding (s : Subject) (fileId : Json) (kind : SmellKind) (severity : Severity)
    (title description suggestion : String) (value threshold : Int) : SmellFinding :=
  ⟨fileId, s.id.getD .null, kind, severity, title, description, suggestion, s.firstLine, s.lastLine, value, threshold⟩

def isCallable (s : Subject) : Bool := ["function", "method"].contains s.kind

end Subject

/-! ## Missing documentation -/

/-- Is the name meant for internal use: a single underscore in front? -/
def isInternal (name : String) : Bool :=
  Text.startsWith ['_'] name.toList && !Text.startsWith ['_', '_'] name.toList

def Subject.lacksDocstring (s : Subject) : Bool :=
  match s.hasDocstring.getD .null with
  | .bool false => true
  | .null => !(s.docstring.getD .null).truthy
  | _ => false

def documentedKinds : List String := ["function", "method", "class"]

def missingDocstring? (fileId : Json) (s : Subject) : Except Fault (Option SmellFinding) :=
  if !documentedKinds.contains s.kind then .ok none
  else
    match s.name.getD (.str "") with
    | .str name =>
      if isInternal name || !s.lacksDocstring then .ok none
      else .ok (some (s.finding fileId .missingDocstring .low ("Missing Docstring: " ++ name)
        s!"Public {s.kind} '{name}' is missing documentation."
        "Add a docstring explaining the purpose, parameters, and return value." 0 1))
    | _ => .error .noText

def missingDocstrings (fileId : Json) (symbols : List Subject) : Except Fault (List SmellFinding) := do
  return (← symbols.mapM (missingDocstring? fileId)).filterMap id

/-! ## Long methods -/

def methodLineLimit : Int := 50

def longMethod? (fileId : Json) (s : Subject) : Except Fault (Option SmellFinding) := do
  if !s.isCallable then return none
  let n ← s.span
  if n ≤ methodLineLimit then return none
  let limit := toString methodLineLimit
  return some (s.finding fileId .longMethod (if methodLineLimit * 2 < n then .high else .medium)
    ("Long Method: " ++ s.titleName)
    s!"Method '{s.plainName}' has {n} lines, exceeding the recommended maximum of {limit} lines."
    "Consider breaking this method into smaller, more focused methods. Apply Extract Method refactoring."
    n methodLineLimit)

def longMethods (fileId : Json) (symbols : List Subject) : Except Fault (List SmellFinding) := do
  return (← symbols.mapM (longMethod? fileId)).filterMap id

/-! ## God classes -/

def classMethodLimit : Int := 20

def classLineLimit : Int := 500

/-- A class and the number of its methods listed after it. -/
structure ClassTally where
  key : String
  symbol : Subject
  methods : Nat

/-- Enters a class: a known key keeps its place and starts anew. -/
def enterClass (tally : List ClassTally) (c : ClassTally) : List ClassTally :=
  if tally.any (·.key == c.key) then tally.map fun d => if d.key == c.key then c else d else tally ++ [c]

def countMethod (tally : List ClassTally) (parent : String) : List ClassTally :=
  tally.map fun c => if c.key == parent then { c with methods := c.methods + 1 } else c

/-- Passes a symbol: a class is entered, a method is counted for its class if that has been entered. -/
def tallyStep (tally : List ClassTally) (s : Subject) : Except Fault (List ClassTally) :=
  if s.kind == "class" then
    match s.id with
    | some id => .ok (enterClass tally ⟨id.display, s, 0⟩)
    | none => .error .missingField
  else if s.isCallable then
    match s.parent with
    | some p => .ok (if p.truthy then countMethod tally p.display else tally)
    | none => .ok tally
  else .ok tally

def godClass? (fileId : Json) (c : ClassTally) : Except Fault (Option SmellFinding) := do
  let lines ← c.symbol.span
  let methods : Int := c.methods
  let many := classMethodLimit < methods
  let long := classLineLimit < lines
  if !many && !long then return none
  let severity : Severity := if 30 < methods || classLineLimit * 2 < lines then .critical else .high
  let parts := (if many then [s!"{methods} methods (threshold: {classMethodLimit})"] else []) ++
    (if long then [s!"{lines} lines (threshold: {classLineLimit})"] else [])
  let reasons := String.intercalate ", " parts
  return some (c.symbol.finding fileId .godClass severity ("God Class: " ++ c.symbol.titleName)
    s!"Class '{c.symbol.plainName}' has too many responsibilities: {reasons}."
    ("Consider splitting this class into multiple smaller classes with single responsibilities. " ++
      "Apply Extract Class refactoring.")
    methods classMethodLimit)

def godClasses (fileId : Json) (symbols : List Subject) : Except Fault (List SmellFinding) := do
  let tally ← symbols.foldlM tallyStep []
  return (← tally.mapM (godClass? fileId)).filterMap id

/-! ## Feature envy -/

open Pattern in
def ownAccess : Pattern := wordEdge ++ anyLit ["self.", "this."]

open Pattern in
def anyAccess : Pattern := wordEdge ++ one Text.isNameStart ++ plus Text.isWord ++ lit "." ++ plus Text.isWord

def featureEnvy? (fileId : Json) (ls : List (List Char)) (s : Subject) : Except Fault (Option SmellFinding) := do
  if !s.isCallable then return none
  let first ← Subject.needLine s.firstLine
  if (ls.length : Int) < first then return none
  let last ← Subject.needLine s.lastLine
  if (ls.length : Int) < last then return none
  let body := Text.unlines (Text.slice (max 0 (first - 1)) last ls)
  let own : Int := ownAccess.count body
  let foreign : Int := anyAccess.count body - own
  if foreign ≤ 5 || foreign ≤ own * 2 then return none
  return some (s.finding fileId .featureEnvy .medium ("Feature Envy: " ++ s.titleName)
    s!"Method '{s.plainName}' accesses external data ({foreign} times) more than its own class data ({own} times)."
    "Consider moving this method to the class whose data it primarily uses. Apply Move Method refactoring."
    foreign (if 0 < own then own * 2 else 5))

def featureEnvies (fileId : Json) (symbols : List Subject)
    (content : List Char) : Except Fault (List SmellFinding) := do
  return (← symbols.mapM (featureEnvy? fileId (Text.boundaryLines content))).filterMap id

/-! ## Files -/

structure FileEntry where
  id : Option Json
  hasPath : Bool
  content : List Char
  symbols : List Subject

/-- The smells of a listed file. An empty file has none, and its fields are not looked at. -/
def FileEntry.smells (f : FileEntry) : Except Fault (List SmellFinding) :=
  if f.content.isEmpty then .ok []
  else
    match f.id, f.hasPath with
    | some id, true => do
      let a ← missingDocstrings id f.symbols
      let b ← longMethods id f.symbols
      let c ← godClasses id f.symbols
      let d ← featureEnvies id f.symbols f.content
      return a ++ b ++ c ++ d
    | _, _ => .error .missingField

def scan (files : List FileEntry) : Except Fault (List SmellFinding) := do
  return (← files.mapM FileEntry.smells).flatten

end CodeSurvey.Smell
