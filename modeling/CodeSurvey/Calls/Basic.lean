/-
Call records: who calls whom, where, and whether the called symbol is known in the same file. Symbols carry identifiers
of a type `ι` that the analysis only passes on. Each language has calls of its own.
-/
import CodeSurvey.Pattern
import CodeSurvey.Python.Parser
import CodeSurvey.Text.Piece

namespace CodeSurvey

structure KnownSymbol (ι : Type) where
  name : String
  isFunction : Bool
  id : Option ι
  lineStart : Int
  /-- The last line of the symbol; the last line of the file if it is not given. -/
  lineEnd : Option Int

namespace KnownSymbol

variable {ι : Type}

/-- The symbol of a name; of several, the last one counts. -/
def named? (symbols : List (KnownSymbol ι)) (name : String) : Option (KnownSymbol ι) :=
  symbols.foldl (fun acc s => if s.name == name then some s else acc) none

def functions (symbols : List (KnownSymbol ι)) : List (KnownSymbol ι) := symbols.filter (·.isFunction)

end KnownSymbol

structure CallRecord (ι : Type) where
  /-- The calling symbol; none if the call stands outside of all symbols. -/
  caller : Option String
  callerFile : Option String
  callerId : Option ι
  callee : String
  calleeFile : Option String
  calleeId : Option ι
  line : Int
  isExternal : Bool

namespace CallRecord

variable {ι : Type}

/-- The call of a name on a line: inside the file if the name is known there, external otherwise. -/
def ofName (known : List (KnownSymbol ι)) (file : Option String) (caller : String) (callerId : Option ι)
    (callee : String) (line : Int) : CallRecord ι :=
  match KnownSymbol.named? known callee with
  | some s => ⟨some caller, file, callerId, callee, file, s.id, line, false⟩
  | none => ⟨some caller, file, callerId, callee, none, none, line, true⟩

end CallRecord

/-- A walk through the lines of a source text: the symbol it is in, and the records found so far, the latest first. -/
structure CallScan (ι : Type) where
  caller : Option String
  found : List (CallRecord ι)

end CodeSurvey

/-! ## Python: every call expression inside a known function, at any depth, other than calls of the function itself -/

namespace CodeSurvey.Python

variable {ι : Type}

def Node.functionName? (n : Node) : Option String :=
  match n.definition? with
  | some d => if d.sort = .function then some d.name else none
  | none => none

def Node.callRecord? (known : List (KnownSymbol ι)) (file : Option String) (caller : String)
    (callerId : Option ι) (n : Node) :
    Option (CallRecord ι) :=
  match n.callee? with
  | some callee =>
    if callee.isEmpty || callee == caller then none
    else some (.ofName known file caller callerId callee n.line)
  | none => none

def Node.functionCalls (known : List (KnownSymbol ι)) (file : Option String) (n : Node) : List (CallRecord ι) :=
  match n.functionName? with
  | some caller =>
    match KnownSymbol.named? known caller with
    | some s => n.walk.filterMap (Node.callRecord? known file caller s.id)
    | none => []
  | none => []

def Node.calls (symbols : List (KnownSymbol ι)) (file : Option String) (tree : Node) : List (CallRecord ι) :=
  tree.walk.flatMap (Node.functionCalls (KnownSymbol.functions symbols) file)

def calls (symbols : List (KnownSymbol ι)) (file : Option String) (t : List Char) : List (CallRecord ι) :=
  match parse t with
  | .ok tree => tree.calls symbols file
  | .error _ => []

end CodeSurvey.Python

/-! ## C: names before an opening bracket, on the lines of each known function -/

namespace CodeSurvey.C

open Pattern

variable {ι : Type}

def callPattern : Pattern :=
  wordEdge ++ group 1 (one Text.isNameStart ++ star Text.isNameChar) ++ blanks ++ lit "("

def keywords : List String := ["if", "while", "for", "switch", "return", "sizeof"]

/-- The names called on a line: cut at a line comment, and none on a line that ends a block comment. -/
def lineCallees (line : List Char) : List String :=
  let line := Text.upToFirst ['/', '/'] line
  if Text.contains ['*', '/'] line then []
  else (callPattern.findAll line).map fun m => String.ofList (m.group 1)

def lineCalls (known : List (KnownSymbol ι)) (file : Option String) (s : KnownSymbol ι) (n : Int) (line : List Char) :
    List (CallRecord ι) :=
  ((lineCallees line).filter fun callee => !keywords.contains callee && callee != s.name).map fun callee =>
    .ofName known file s.name s.id callee n

def functionLines (ls : List (List Char)) (s : KnownSymbol ι) : List (List Char × Nat) :=
  (Text.slice (s.lineStart - 1) (s.lineEnd.getD ls.length) ls).zipIdx

def functionCalls (known : List (KnownSymbol ι)) (file : Option String) (ls : List (List Char)) (s : KnownSymbol ι) :
    List (CallRecord ι) :=
  (functionLines ls s).flatMap fun (line, i) => lineCalls known file s (s.lineStart + i) line

def calls (symbols : List (KnownSymbol ι)) (file : Option String) (t : List Char) : List (CallRecord ι) :=
  let known := KnownSymbol.functions symbols
  known.flatMap (functionCalls known file (Text.lines t))

end CodeSurvey.C

/-! ## Assembly: call instructions below a known label -/

namespace CodeSurvey.Assembly

open Pattern

variable {ι : Type}

def directCall : Pattern :=
  wordEdge ++ anyLitAnyCase ["call", "jsr", "bl", "jal"] ++ blanks1 ++
    group 1 (one Text.isNameStartAnyCase ++ star Text.isNameCharAnyCase)

def registerCall : Pattern :=
  wordEdge ++ litAnyCase "call" ++ optional (litAnyCase "q") ++ blanks1 ++ lit "*%" ++
    group 1 (plus Text.isLetterAnyCase)

/-- A label at the start of a line; group 1 is its name. -/
def labelLine : Pattern := group 1 (one Text.isNameStart ++ star Text.isNameChar) ++ blanks ++ lit ":"

def registers : List String := ["rax", "rbx", "rcx", "rdx", "rsi", "rdi", "eax", "ebx"]

def code (line : List Char) : List Char := Text.strip (Text.upToFirst ['#'] (Text.upToFirst [';'] line))

def label? (line : List Char) : Option String := (labelLine.matchStart? line).map fun m => String.ofList (m.group 1)

def lineCallees (line : List Char) : List String :=
  ((directCall.findAll line) ++ (registerCall.findAll line)).map fun m => String.ofList (m.group 1)

def lineCalls (symbols : List (KnownSymbol ι)) (file : Option String) (caller : String) (n : Nat) (line : List Char) :
    List (CallRecord ι) :=
  let callerId := (KnownSymbol.named? symbols caller).bind (·.id)
  ((lineCallees line).filter fun callee => !registers.contains callee && callee != caller).map fun callee =>
    .ofName symbols file caller callerId callee n

/-- Passes one line: a label line may change the current label and has no calls. -/
def scanLine (symbols : List (KnownSymbol ι)) (file : Option String) (s : CallScan ι)
    (numbered : List Char × Nat) : CallScan ι :=
  let line := code numbered.1
  match label? line with
  | some name => if (KnownSymbol.named? symbols name).isSome then { s with caller := some name } else s
  | none =>
    match s.caller with
    | some caller => { s with found := (lineCalls symbols file caller numbered.2 line).reverse ++ s.found }
    | none => s

def calls (symbols : List (KnownSymbol ι)) (file : Option String) (t : List Char) : List (CallRecord ι) :=
  (((Text.lines t).zipIdx 1).foldl (scanLine symbols file) ⟨none, []⟩).found.reverse

end CodeSurvey.Assembly

/-! ## COBOL: performed paragraphs and called programs, line by line below the last paragraph head -/

namespace CodeSurvey.Cobol

open Pattern

variable {ι : Type}

def isCallChar (c : Char) : Bool := c.isUpper || c.isDigit || c == '-' || c == '_'

def isCallCharAnyCase (c : Char) : Bool := Text.isLetterAnyCase c || c.isDigit || c == '-' || c == '_'

def performPattern : Pattern := wordEdge ++ litAnyCase "PERFORM" ++ blanks1 ++ group 1 (plus isCallCharAnyCase)

def quote : Pattern := one fun c => c == '\'' || c == '"'

def callPattern : Pattern :=
  wordEdge ++ litAnyCase "CALL" ++ blanks1 ++ quote ++ group 1 (plus isCallCharAnyCase) ++ quote

/-- A name with a point at the start of a line, indented by at most eleven characters. -/
def headPattern : Pattern := upTo 11 (one Text.isBlank) ++ group 1 (plus isCallChar) ++ blanks ++ lit "."

def performWords : List String := ["VARYING", "UNTIL", "TIMES", "THRU", "THROUGH"]

def isCommentLine (line : List Char) : Bool := (line.drop 6).head? == some '*'

def idOf (symbols : List (KnownSymbol ι)) (name : Option String) : Option ι :=
  name.bind fun n => (KnownSymbol.named? symbols n).bind (·.id)

def performedSymbol? (symbols : List (KnownSymbol ι)) (callee : String) : Option (KnownSymbol ι) :=
  symbols.find? fun s => Text.upper s.name.toList == callee.toList

def isKnown (symbols : List (KnownSymbol ι)) (callee : String) : Bool := (performedSymbol? symbols callee).isSome

def performRecord (symbols : List (KnownSymbol ι)) (file : Option String) (caller : String) (n : Nat)
    (callee : String) :
    CallRecord ι :=
  let callerId := idOf symbols (some caller)
  match performedSymbol? symbols callee with
  | some s => ⟨some caller, file, callerId, s.name, file, idOf symbols (some s.name), n, false⟩
  | none => ⟨some caller, file, callerId, callee, none, none, n, true⟩

def performedNames (caller : String) (line : List Char) : List String :=
  let names := (performPattern.findAll line).map fun m => String.ofList (m.group 1)
  names.filter fun callee => !performWords.contains callee && callee != caller

def performs (symbols : List (KnownSymbol ι)) (file : Option String) (caller : String) (n : Nat) (line : List Char) :
    List (CallRecord ι) :=
  (performedNames caller line).map (performRecord symbols file caller n)

def programCalls (symbols : List (KnownSymbol ι)) (file caller : Option String) (n : Nat) (line : List Char) :
    List (CallRecord ι) :=
  (callPattern.findAll line).map fun m =>
    ⟨caller, file, idOf symbols caller, String.ofList (m.group 1), none, none, n, true⟩

def head? (line : List Char) : Option (List Char) := (headPattern.matchStart? line).map (·.group 1)

/-- Does a head start a new paragraph? Short names count only if the file has symbols. -/
def startsParagraph (symbols : List (KnownSymbol ι)) (name : List Char) : Bool := !symbols.isEmpty || 3 < name.length

def scanLine (symbols : List (KnownSymbol ι)) (file : Option String) (s : CallScan ι)
    (numbered : List Char × Nat) : CallScan ι :=
  let (line, n) := numbered
  if isCommentLine line then s
  else
    match head? line with
    | some name => if startsParagraph symbols name then { s with caller := some (String.ofList name) } else s
    | none =>
      let performed := match s.caller with
        | some caller => performs symbols file caller n line
        | none => []
      { s with found := (performed ++ programCalls symbols file s.caller n line).reverse ++ s.found }

def calls (symbols : List (KnownSymbol ι)) (file : Option String) (t : List Char) : List (CallRecord ι) :=
  (((Text.lines (Text.upper t)).zipIdx 1).foldl (scanLine symbols file) ⟨none, []⟩).found.reverse

/-- Passes one line in capitals and notes what it performs, the latest first. -/
def notePerformed (symbols : List (KnownSymbol ι)) (s : Option String × List String) (line : List Char) :
    Option String × List String :=
  if isCommentLine line then s
  else
    match head? line with
    | some name => if startsParagraph symbols name then (some (String.ofList name), s.2) else s
    | none => (s.1, ((s.1.map fun caller => performedNames caller line).getD []).reverse ++ s.2)

def performed (symbols : List (KnownSymbol ι)) (t : List Char) : List String :=
  ((Text.lines (Text.upper t)).foldl (notePerformed symbols) (none, [])).2.reverse

end CodeSurvey.Cobol
