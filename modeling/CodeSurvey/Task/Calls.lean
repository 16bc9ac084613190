/-
Finding the calls of a repository and keeping them. A call is kept if its caller is a symbol of the store.
-/
import CodeSurvey.Calls.File
import CodeSurvey.Store.Basic

namespace CodeSurvey

inductive CallExtraction where
  | unknown
  | noFiles
  | noSource
  | done (files extracted skipped : Nat)

def CallExtraction.record (repository : String) : CallExtraction → Json
  | unknown => .obj [("error", .str "Repository not found")]
  | noFiles => .obj [("repository_id", .str repository), ("files_analyzed", .int 0), ("calls_extracted", .int 0),
      ("status", .str "no_files")]
  | noSource => .obj [("repository_id", .str repository), ("files_analyzed", .int 0), ("calls_extracted", .int 0),
      ("status", .str "no_source_code")]
  | done files extracted skipped => .obj [("repository_id", .str repository), ("files_analyzed", .int files),
      ("calls_extracted", .int extracted), ("calls_skipped", .int skipped), ("status", .str "completed")]

namespace Store

def symbolEntries (s : Store) (file : Id) : List (SymbolEntry Id) :=
  (s.symbolsIn file).map fun y => ⟨some (some y.name), some y.kind.word, some y.id, .line y.lineStart,
    (y.lineEnd.map .line).getD .null⟩

def readableFiles (s : Store) (repository : Id) : List FileRow :=
  (s.filesOf repository).filter fun f => f.source.any fun t => !t.isEmpty

/-- The calls found in a file. A file in another language has none, nor has one whose analysis fails. -/
def callsFoundIn (s : Store) (f : FileRow) : List (CallRecord Id) :=
  match Language.ofName? f.language with
  | none => []
  | some lang =>
    match fileCalls lang (some f.path) (some (f.source.getD "").toList) (some (s.symbolEntries f.id)) with
    | .ok calls => calls
    | .error _ => []

def callsFound (s : Store) (repository : Id) : List (CallRecord Id) :=
  (s.readableFiles repository).flatMap s.callsFoundIn

def lookUp? (s : Store) (repository : Id) (path name : Option String) : Option Id :=
  match path, name with
  | some p, some n => if p.isEmpty || n.isEmpty then none else (s.symbolNamed? repository p n).map (·.id)
  | _, _ => none

/-- The row of a call; none if its caller is not known. -/
def callDraft? (s : Store) (repository : Id) (r : CallRecord Id) : Option (Nat → CallRow) := do
  let callerName ← r.caller
  let callerFile ← r.callerFile
  let callerId ← r.callerId <|> s.lookUp? repository (some callerFile) r.caller
  let calleeId := r.calleeId <|> s.lookUp? repository r.calleeFile (some r.callee)
  return fun n => {
    number := n
    repositoryId := repository
    callerId := callerId
    callerName := callerName
    callerFile := callerFile
    calleeName := r.callee
    calleeFile := r.calleeFile
    calleeId := calleeId
    line := r.line
    isExternal := r.isExternal }

def extractCalls (s : Store) (repository : Id) : CallExtraction × Store :=
  if (s.repository? repository).isNone then (.unknown, s)
  else if (s.filesOf repository).isEmpty then (.noFiles, s)
  else
    let files := s.readableFiles repository
    if files.isEmpty then (.noSource, s)
    else
      let found := s.callsFound repository
      let drafts := found.filterMap (s.callDraft? repository)
      (.done files.length drafts.length (found.length - drafts.length), s.addCalls drafts)

end Store

end CodeSurvey
