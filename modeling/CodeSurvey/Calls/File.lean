/-
Calls of a file with symbols as a request lists them, where fields may be missing.
-/
import CodeSurvey.Calls.Basic
import CodeSurvey.Language

namespace CodeSurvey

inductive LineField where
  | missing
  | null
  | line (n : Int)
  | other
deriving DecidableEq

structure SymbolEntry (ι : Type) where
  name : Option (Option String)
  kind : Option String
  id : Option ι
  lineStart : LineField
  lineEnd : LineField

namespace SymbolEntry

variable {ι : Type}

def firstLine (e : SymbolEntry ι) : Int :=
  match e.lineStart with
  | .line n => n
  | _ => 1

def lastLine? (e : SymbolEntry ι) : Option Int :=
  match e.lineEnd with
  | .line n => some n
  | _ => none

def isFunction (e : SymbolEntry ι) : Bool := e.kind == some "function"

def isNameless (e : SymbolEntry ι) : Bool := e.name == some none

/-- The symbol of an entry, whatever is missing. A name that is not there is taken as empty. -/
def known (e : SymbolEntry ι) : KnownSymbol ι := ⟨e.name.join.getD "", e.isFunction, e.id, e.firstLine, e.lastLine?⟩

def symbol (e : SymbolEntry ι) : Except Fault (KnownSymbol ι) :=
  match e.name with
  | some _ => .ok e.known
  | none => .error .missingField

/-- The symbols that a name can stand for. All names must be given; null is no name that anything is looked up by. -/
def lookedUp (l : List (SymbolEntry ι)) : Except Fault (List (KnownSymbol ι)) := (l.filter (!·.isNameless)).mapM symbol

/-- The functions that a name can stand for; all kinds and the names of functions must be given. -/
def functions (l : List (SymbolEntry ι)) : Except Fault (List (KnownSymbol ι)) := do
  if l.any (·.kind.isNone) then throw .missingField
  lookedUp (l.filter isFunction)

def hasLines (e : SymbolEntry ι) : Bool :=
  e.lineStart != .null && e.lineStart != .other && e.lineEnd != .other

end SymbolEntry

variable {ι : Type}

/-- The calls that a C function makes; those of a nameless one tell no caller. -/
def SymbolEntry.cCalls (e : SymbolEntry ι) (known : List (KnownSymbol ι)) (file : Option String)
    (ls : List (List Char)) :
    List (CallRecord ι) :=
  let found := C.functionCalls known file ls e.known
  if e.isNameless then found.map fun r => { r with caller := none } else found

def givenText (source : Option (List Char)) : Except Fault (List Char) :=
  match source with
  | some t => .ok t
  | none => .error .noText

/-- The calls of COBOL source. Performed names are compared with those of the symbols in order, which a null name stops;
calls outside of all paragraphs count as made by the symbol without a name. -/
def cobolCalls (file : Option String) (t : List Char) (entries : List (SymbolEntry ι)) :
    Except Fault (List (CallRecord ι)) := do
  let symbols ← entries.mapM SymbolEntry.symbol
  match entries.find? SymbolEntry.isNameless with
  | none => return Cobol.calls symbols file t
  | some nameless =>
    let before ← (entries.takeWhile (!·.isNameless)).mapM SymbolEntry.symbol
    if (Cobol.performed symbols t).all (Cobol.isKnown before) then
      return (Cobol.calls symbols file t).map fun r => if r.caller.isNone then { r with callerId := nameless.id } else r
    else throw .noText

/-- The calls of a file, by language. Only what the language's analysis looks at must be given. -/
def fileCalls (lang : Language) (file : Option String) (source : Option (List Char))
    (symbols : Option (List (SymbolEntry ι))) : Except Fault (List (CallRecord ι)) :=
  let listed : Except Fault (List (SymbolEntry ι)) := match symbols with
    | some l => .ok l
    | none => .error .wrongType
  match lang with
  | .python =>
    match source with
    | none => .error .wrongType
    | some t =>
      match Python.parse t with
      | .ok tree => do return tree.calls (← SymbolEntry.functions (← listed)) file
      | .error o => o.orElse []
  | .c => do
    let entries ← listed
    let known ← SymbolEntry.functions entries
    let t ← givenText source
    let callers := entries.filter SymbolEntry.isFunction
    let ls := Text.lines t
    if callers.all SymbolEntry.hasLines then return callers.flatMap fun e => e.cCalls known file ls else
      throw .wrongType
  | .assembly => do
    let symbols ← SymbolEntry.lookedUp (← listed)
    return Assembly.calls symbols file (← givenText source)
  | .cobol => do
    let entries ← listed
    discard (entries.mapM SymbolEntry.symbol)
    cobolCalls file (← givenText source) entries

end CodeSurvey
