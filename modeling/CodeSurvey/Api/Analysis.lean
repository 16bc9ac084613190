/-
Findings about a repository: duplications, code smells, missing documentation, and its figures over time.
-/
import CodeSurvey.Api.Security
import CodeSurvey.Record.Service

namespace CodeSurvey

namespace Api

def started (id : Id) (message : String) (more : List (String × Json)) : Json :=
  .obj ([("status", .str "started"), ("message", .str message), ("repository_id", id.json)] ++ more)

/-! ## Duplications -/

def startDuplications (id : String) : Answering Json := do
  let id ← idInPath id
  let _ ← repositoryOf id
  scanDuplications id
  return started id "Duplication scan started in background" []

/-- The duplications of a repository that are similar enough. Rows of duplications cannot be shown. -/
def listDuplications (r : Request) (id : String) : Answering Json := do
  let id ← idInPath id
  let least ← r.param "min_similarity" Text.float? 0.8
  let limit ← Request.rowCount (← r.limit "limit" 100 none)
  let rows := limited limit (((← Answering.store).duplicationsOf id).filter fun d => least ≤ d.similarity)
  if !rows.isEmpty then throw (.broken .noText)
  return .obj [("repository_id", id.json), ("total_duplications", .int 0), ("duplications", .arr [])]

/-! ## Code smells -/

def startSmells (id : String) : Answering Json := do
  let id ← idInPath id
  let _ ← repositoryOf id
  scanSmells id
  return started id "Code smell scan started in background" []

def namedFilter {α : Type} (detail : String) (ofName? : String → Option α)
    (text : Option String) : Answering (Option α) :=
  match text.filter fun t => !t.isEmpty with
  | none => pure none
  | some t =>
    match ofName? (String.ofList (Text.lower t.toList)) with
    | some a => pure (some a)
    | none => throw (.refused 400 detail)

def smellRecord (s : Store) (m : SmellRow) : Json :=
  let path := ((m.fileId.bind s.file?).map (·.path)).getD "Unknown"
  let symbol (i : Id) : Json :=
    .obj [("id", i.json), ("name", .ofText? ((s.symbols.find? (·.id == i)).map (·.name)))]
  .obj [("id", m.id.json), ("smell_type", .str m.kind.name), ("severity", .str m.severity.name),
    ("title", .str m.title), ("description", .str m.description), ("suggestion", .ofText? m.suggestion),
    ("file", .obj [("id", .str ((m.fileId.map Id.text).getD "None")), ("path", .str path)]),
    ("symbol", .ofOption symbol m.symbolId),
    ("location", .obj [("start_line", .int m.startLine), ("end_line", .int m.endLine)]),
    ("metrics", .obj [("value", .ofInt? m.value), ("threshold", .ofInt? m.threshold)])]

def listSmells (r : Request) (id : String) : Answering Json := do
  let id ← idInPath id
  let limit ← r.limit "limit" 100 none
  let severity ← namedFilter "Invalid severity" Severity.ofName? (r.param? "severity")
  let kind ← namedFilter "Invalid smell_type" SmellKind.ofName? (r.param? "smell_type")
  let limit ← Request.rowCount limit
  let s ← Answering.store
  let rows := (s.smellsOf id).filter fun m => severity.all (· == m.severity) && kind.all (· == m.kind)
  let rows :=
    limited limit (rows.mergeSort fun a b => severityLe (a.severity.name, a.created) (b.severity.name, b.created))
  return .obj [("repository_id", id.json), ("total_smells", .int rows.length),
    ("code_smells", .arr (rows.map (smellRecord s)))]

/-! ## Documentation -/

def isDocumentable (y : SymbolRow) : Bool := y.kind == .function || y.kind == .classType

def isUndocumented (y : SymbolRow) : Bool := !y.hasDocstring && isDocumentable y

end Api

def Store.undocumented (s : Store) (repository : Id) : List (SymbolRow × FileRow) :=
  (s.symbolsOf repository).filter fun p => Api.isUndocumented p.1

def Store.undocumentedFiles (s : Store) (repository : Id) (limit : Int) : List FileRow :=
  (((limited limit (s.undocumented repository)).map (·.2.id)).eraseDups).filterMap s.file?

def Store.markDocumented (s : Store) (ids : List Id) : Store :=
  { s with symbols := s.symbols.map fun y => if ids.contains y.id then { y with hasDocstring := true } else y }

def Service.undocumentedTexts (s : Service) (repository : Id) (limit : Int) : List (FileRow × List Char) :=
  (s.store.undocumentedFiles repository limit).filterMap fun f => (s.disk.textOf? f).map fun t => (f, t)

namespace Api

def listUndocumented (r : Request) (id : String) : Answering Json := do
  let id ← idInPath id
  let limit ← Request.rowCount (← r.limit "limit" 100 none)
  let rows := limited limit ((← Answering.store).undocumented id)
  return .obj [("repository_id", id.json), ("count", .int rows.length),
    ("undocumented_symbols", .arr (rows.map fun p => .obj [("id", p.1.id.json), ("name", .str p.1.name),
      ("type", .str p.1.kind.word), ("file", .str p.2.path), ("line", .int p.1.lineStart)]))]

def docTarget (y : SymbolRow) : Docs.Target :=
  ⟨y.kind.word, some (.str y.name), some y.id.json, none, some y.lineStart, y.lineEnd⟩

def docLanguage (f : FileRow) : String := if f.language.isEmpty then "python" else f.language

def docEntry (s : Store) (f : FileRow × List Char) : Docs.FileEntry :=
  { id := some f.1.id.json
    path := some (.str f.1.path)
    content := f.2
    symbols := ((s.symbolsIn f.1.id).filter isDocumentable).map docTarget
    language := some (.str (docLanguage f.1)) }

structure DocOrder where
  repository : Id
  limit : Int

def docOrder (r : Request) (id : String) : Answering DocOrder := do
  let id ← idInPath id
  let limit ← r.limit "max_files" 10 none
  let _ ← repositoryOf id
  let limit ← Request.rowCount limit
  return ⟨id, limit⟩

def writeDocs (o : DocOrder) : Answering Json := do
  let service ← get
  let files := service.undocumentedTexts o.repository o.limit
  if files.isEmpty then
    return .obj [("repository_id", o.repository.json), ("files_processed", .int 0), ("functions_documented", .int 0),
      ("documentation", .arr []), ("message", .str "No undocumented symbols found or content unavailable")]
  let work := Docs.documentFiles (files.map (docEntry service.store)) o.limit
  let docs ← unbroken (← Answering.doing (Service.withAi work.run))
  let ids := docs.filterMap fun d => Store.idOf? d.symbolId
  Answering.commit fun t => t.markDocumented ids
  return .obj [("repository_id", o.repository.json), ("files_processed", .int files.length),
    ("functions_documented", .int docs.length), ("symbols_marked_as_documented", .int ids.length),
    ("documentation", .arr (docs.map Docs.Documentation.record))]

def autoDocument (r : Request) (id : String) : Answering Json := do
  writeDocs (← docOrder r id)

/-! ## Figures over time -/

/-- A number rounded to some places; zero is written as a whole number. -/
def rounded (places : Nat) (x : Float) : Json := if x == 0 then .int 0 else .float (Decimal.roundTo places x)

def createSnapshot (id : String) : Answering Json := do
  let id ← idInPath id
  let _ ← repositoryOf id
  let s ← Answering.store
  let f := s.figures id
  Answering.commit fun t => t.takeSnapshot id
  return .obj [("id", s.nextId.json), ("repository_id", id.json), ("quality_score", rounded 1 f.qualityScore),
    ("metrics", .obj [("files", .int f.files), ("lines", .int f.lines), ("symbols", .int f.symbols),
      ("avg_complexity", rounded 2 f.averageComplexity), ("duplications", .int f.duplications),
      ("code_smells", .int f.smells), ("vulnerabilities", .int f.vulnerabilities)]),
    ("created_at", Moment.mark (some s.now))]

def snapshotRecord (p : SnapshotRow) : Json :=
  let f := p.figures
  .obj [("id", p.id.json), ("quality_score", rounded 1 f.qualityScore), ("total_files", .int f.files),
    ("total_lines", .int f.lines), ("avg_complexity", rounded 2 f.averageComplexity),
    ("duplication_percentage", rounded 2 f.duplicationPercentage), ("code_smells_count", .int f.smells),
    ("vulnerability_count", .int f.vulnerabilities), ("created_at", Moment.mark (some p.created))]

def history (r : Request) (id : String) : Answering Json := do
  let id ← idInPath id
  let limit ← Request.rowCount (← r.limit "limit" 30 none)
  let rows := (limited limit (latestFirst (·.created) ((← Answering.store).snapshotsOf id))).reverse
  return .obj [("repository_id", id.json), ("snapshots", .arr (rows.map snapshotRecord))]

def fullScan (id : String) : Answering Json := do
  let id ← idInPath id
  let _ ← repositoryOf id
  scanDuplications id
  scanSmells id
  Answering.commit fun s => s.takeSnapshot id
  return started id "Full analysis started in background"
    [("tasks", .ofTexts ["duplications", "code_smells", "metrics_snapshot"])]

end Api

end CodeSurvey
