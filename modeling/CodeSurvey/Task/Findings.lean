/-
Scans of a repository: for security issues, code smells and duplications. Each scan replaces what an earlier one of its
kind has found.
-/
import CodeSurvey.Security.Scan
import CodeSurvey.Service
import CodeSurvey.Smell.Detect
import CodeSurvey.Symbol.File

namespace CodeSurvey

namespace Store

/-! ## Security issues -/

def clearVulnerabilities (s : Store) (repository : Id) : Store :=
  { s with vulnerabilities := s.vulnerabilities.filter (·.repositoryId != repository) }

def issueDraft (repository : Id) (path : String) (i : Security.Issue) : Id → Moment → VulnerabilityRow :=
  fun id now => {
  id := id
  repositoryId := repository
  kind := i.weakness.name
  severity := i.weakness.severity
  cwe := some i.weakness.cwe
  owasp := some i.weakness.owasp
  path := path
  line := i.line
  snippet := some i.snippet
  description := i.description
  recommendation := some i.weakness.recommendation
  confidence := i.weakness.confidence
  created := now }

def issueDrafts (repository : Id) (f : FileRow) : List (Id → Moment → VulnerabilityRow) :=
  match f.source with
  | some t => (Security.scan t.toList f.language.toList).map (issueDraft repository f.path)
  | none => []

def scanSecurity (s : Store) (repository : Id) : Store :=
  s.addVulnerabilities ((s.filesOf repository).flatMap (issueDrafts repository))

/-! ## Code smells -/

def clearSmells (s : Store) (repository : Id) : Store :=
  { s with smells := s.smells.filter (·.repositoryId != some repository) }

def smellSubject (y : SymbolRow) : Smell.Subject :=
  ⟨y.kind.word, some (.str y.name), some y.id.json, none, none, none, some (some y.lineStart), some y.lineEnd⟩

def smellEntry (s : Store) (f : FileRow × List Char) : Smell.FileEntry :=
  ⟨some f.1.id.json, true, f.2, (s.symbolsIn f.1.id).map smellSubject⟩

def idOf? (j : Json) : Option Id := j.asText?.bind Id.ofRegular?

/-- The row of a finding; a finding without lines has no place in the store. -/
def smellDraft? (repository : Id) (f : SmellFinding) : Option (Id → Moment → SmellRow) := do
  let first ← f.startLine
  let last ← f.endLine
  return fun id now => {
    id := id
    repositoryId := some repository
    fileId := idOf? f.fileId
    symbolId := idOf? f.symbolId
    kind := f.kind
    severity := f.severity
    title := f.title
    description := f.description
    suggestion := some f.suggestion
    startLine := first
    endLine := last
    value := some f.value
    threshold := some f.threshold
    created := now }

/-- Looks for code smells in files with their texts. Without any text nothing is changed, nor if the search fails. The
earlier findings are removed first; of the new ones, all are kept or none. -/
def scanSmells (s : Store) (repository : Id) (files : List (FileRow × List Char)) : Store :=
  if files.isEmpty then s
  else
    match Smell.scan (files.map s.smellEntry) with
    | .error _ => s
    | .ok findings =>
      let cleared := s.clearSmells repository
      match findings.mapM (smellDraft? repository) with
      | some drafts => cleared.addSmells drafts
      | none => cleared

/-! ## Duplications -/

def clearDuplications (s : Store) (repository : Id) : Store :=
  { s with duplications := s.duplications.filter (·.repositoryId != some repository) }

/-- Scans for duplications. What an earlier scan has left is removed if there is any text; what is found has no place in
the store. -/
def scanDuplications (s : Store) (repository : Id) (files : List (FileRow × List Char)) : Store :=
  if files.isEmpty then s else s.clearDuplications repository

end Store

/-! ## Texts of files -/

/-- The text of a file: the one that is kept with it or, without one, that of the file on disk; none if both are missing
or empty. -/
def Disk.textOf? (d : Disk) (f : FileRow) : Option (List Char) :=
  match f.source.filter fun t => !t.isEmpty with
  | some t => some t.toList
  | none => ((d.read? (d.placeOf f.path.toList)).map fileText).filter fun t => !t.isEmpty

def Service.texts (s : Service) (repository : Id) : List (FileRow × List Char) :=
  (s.store.filesOf repository).filterMap fun f => (s.disk.textOf? f).map fun t => (f, t)

def scanSmells (repository : Id) : Work Unit := do
  let files := (← get).texts repository
  Service.commit fun s => s.scanSmells repository files

def scanDuplications (repository : Id) : Work Unit := do
  let files := (← get).texts repository
  Service.commit fun s => s.scanDuplications repository files

end CodeSurvey
