/-
Reading a single large file, whose symbols are kept batch by batch and without metrics, and taking in a directory as a
further reading of a repository of the same name. Only files that the repository has already are looked at. A symbol is
kept if no vector could be made for it: a vector alone, without its model and dimensions, has no place in the store, and
ends the work on its file.
-/
import CodeSurvey.Service
import CodeSurvey.Symbol.File

namespace CodeSurvey

def Symbol.bareDraft (file : Id) (y : Symbol) : Id → Moment → SymbolRow := fun id now => {
  id := id
  fileId := file
  name := y.name
  kind := y.kind.stored
  lineStart := y.lineStart
  lineEnd := some y.lineEnd
  signature := some y.signature
  complexity := none
  maintainability := none
  codeLines := none
  commentLines := none
  docstring := none
  hasDocstring := false
  docstringLength := none
  created := now }

/-- Keeps a batch of symbols. Without a file to belong to, none is kept. -/
def Store.keepBatch (s : Store) (file : Option Id) (batch : List Symbol) : Store :=
  match file with
  | some f => s.addSymbols (batch.map (Symbol.bareDraft f))
  | none => s

/-- Reads a file and tells how many symbols it has; a file that is not there has none. -/
def parseLargeFile (file : Option Id) (path : List Char) (bytes : Option (List UInt8))
    (tree : Option SyntaxTree) : Work Nat := do
  let batches := (bytes.map fun b => LargeFile.batches path b tree).getD []
  for batch in batches do
    Service.commit fun s => s.keepBatch file batch
  return total (batches.map List.length)

def namesLe : List (List Char) → List (List Char) → Bool
  | [], _ => true
  | _ :: _, [] => false
  | a :: r, b :: t => if a == b then namesLe r t else String.ofList a < String.ofList b

def filesWithSuffix (files : List (List (List Char) × List UInt8)) (suffix : List Char) :
    List (List (List Char) × List UInt8) :=
  (files.filter fun f => Text.endsWith suffix (f.1.getLast?.getD [])).mergeSort fun a b => namesLe a.1 b.1

/-- Keeps the symbols of a file until a vector can be made for one. -/
def ingestSymbols (file : Id) : List Symbol → Work Unit
  | [] => return ()
  | y :: rest => do
    let s ← get
    match ← Service.withAi (Embedding.one s.hasAi s.settings.openaiModel y.signature.toList).run with
    | .ok _ => return ()
    | .error _ =>
      Service.commit fun t => t.addSymbols [y.bareDraft file]
      ingestSymbols file rest

def ingestFile (repository : Id) (f : List (List Char) × List UInt8) : Work Unit := do
  let path := Text.joinWith ['/'] f.1
  match ((← Service.current).filesOf repository).find? (·.path == String.ofList path) with
  | none => return ()
  | some row => ingestSymbols row.id (MultiReader.symbols path f.2)

/-- Takes in a directory. A repository of an unknown name is given an identifier but not kept. -/
def ingest (directory : List (List Char)) (name : Option String) : Work Id := do
  let s ← get
  let name := match name with
    | some n => if n.isEmpty then String.ofList (directory.getLast?.getD []) else n
    | none => String.ofList (directory.getLast?.getD [])
  match s.store.repositories.find? (·.name == name) with
  | none =>
    Service.commit Store.tick
    return s.store.nextId
  | some r =>
    let files := s.disk.below directory
    for suffix in Language.suffixes.map (·.1.toList) do
      for f in filesWithSuffix files suffix do
        ingestFile r.id f
    return r.id

end CodeSurvey
