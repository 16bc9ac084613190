/-
The store: all rows in the order in which they were added, with the supply of identifiers and the clock that dates new
rows. A repository is removed with its files, symbols and security issues; rows of other kinds that refer to what is
removed stay, and their references become null.
-/
import CodeSurvey.Store.Row

namespace CodeSurvey

structure Store where
  repositories : List RepositoryRow := []
  files : List FileRow := []
  symbols : List SymbolRow := []
  calls : List CallRow := []
  vulnerabilities : List VulnerabilityRow := []
  smells : List SmellRow := []
  duplications : List DuplicationRow := []
  snapshots : List SnapshotRow := []
  gates : List GateRow := []
  runs : List RunRow := []
  embeddings : List EmbeddingRow := []
  issued : Nat := 0

namespace Store

/-- The time at which the `n`-th identifier is handed out: each a second after the one before. -/
def momentOf (n : Nat) : Moment := (n : Int) * 1000000

def nextId (s : Store) : Id := Id.nth s.issued

def now (s : Store) : Moment := momentOf s.issued

def tick (s : Store) : Store := { s with issued := s.issued + 1 }

/-- Makes rows from drafts that lack an identifier and a time, from the `n`-th identifier on. -/
def numbered {α : Type} (n : Nat) : List (Id → Moment → α) → List α
  | [] => []
  | make :: rest => make (Id.nth n) (momentOf n) :: numbered (n + 1) rest

/-! ## Adding rows -/

def addRepository (s : Store) (make : Id → Moment → RepositoryRow) : Store :=
  { s with repositories := s.repositories ++ [make s.nextId s.now], issued := s.issued + 1 }

def addFile (s : Store) (make : Id → Moment → FileRow) : Store :=
  { s with files := s.files ++ [make s.nextId s.now], issued := s.issued + 1 }

def addSymbols (s : Store) (drafts : List (Id → Moment → SymbolRow)) : Store :=
  { s with symbols := s.symbols ++ numbered s.issued drafts, issued := s.issued + drafts.length }

/-- The number of the next call: one more than the greatest so far. -/
def nextCall (s : Store) : Nat := s.calls.foldl (fun n c => max n (c.number + 1)) 1

def numberedCalls (n : Nat) : List (Nat → CallRow) → List CallRow
  | [] => []
  | make :: rest => make n :: numberedCalls (n + 1) rest

def addCalls (s : Store) (drafts : List (Nat → CallRow)) : Store :=
  { s with calls := s.calls ++ numberedCalls s.nextCall drafts }

def addVulnerabilities (s : Store) (drafts : List (Id → Moment → VulnerabilityRow)) : Store :=
  { s with vulnerabilities := s.vulnerabilities ++ numbered s.issued drafts, issued := s.issued + drafts.length }

def addSmells (s : Store) (drafts : List (Id → Moment → SmellRow)) : Store :=
  { s with smells := s.smells ++ numbered s.issued drafts, issued := s.issued + drafts.length }

def addDuplication (s : Store) (make : Id → Moment → DuplicationRow) : Store :=
  { s with duplications := s.duplications ++ [make s.nextId s.now], issued := s.issued + 1 }

def addSnapshot (s : Store) (make : Id → Moment → SnapshotRow) : Store :=
  { s with snapshots := s.snapshots ++ [make s.nextId s.now], issued := s.issued + 1 }

def addGate (s : Store) (make : Id → GateRow) : Store :=
  { s with gates := s.gates ++ [make s.nextId], issued := s.issued + 1 }

def addRun (s : Store) (make : Id → Moment → RunRow) : Store :=
  { s with runs := s.runs ++ [make s.nextId s.now], issued := s.issued + 1 }

def addEmbeddings (s : Store) (drafts : List (Id → Moment → EmbeddingRow)) : Store :=
  { s with embeddings := s.embeddings ++ numbered s.issued drafts, issued := s.issued + drafts.length }

/-! ## Changing rows -/

def updateRepository (s : Store) (id : Id) (change : RepositoryRow → RepositoryRow) : Store :=
  { s with repositories := s.repositories.map fun r => if r.id = id then change r else r }

def updateGate (s : Store) (repository : Id) (change : GateLimits → GateLimits) : Store :=
  { s with gates := s.gates.map fun g =>
      if g.repositoryId = repository then { g with limits := change g.limits } else g }

/-! ## Asking for rows -/

def repository? (s : Store) (id : Id) : Option RepositoryRow := s.repositories.find? (·.id == id)

def file? (s : Store) (id : Id) : Option FileRow := s.files.find? (·.id == id)

def filesOf (s : Store) (repository : Id) : List FileRow := s.files.filter (·.repositoryId == repository)

def symbolsIn (s : Store) (file : Id) : List SymbolRow := s.symbols.filter (·.fileId == file)

def placedSymbols (s : Store) : List (SymbolRow × FileRow) :=
  s.symbols.filterMap fun y => (s.file? y.fileId).map fun f => (y, f)

def symbolsOf (s : Store) (repository : Id) : List (SymbolRow × FileRow) :=
  s.placedSymbols.filter (·.2.repositoryId == repository)

def callsOf (s : Store) (repository : Id) : List CallRow := s.calls.filter (·.repositoryId == repository)

def vulnerabilitiesOf (s : Store) (repository : Id) : List VulnerabilityRow :=
  s.vulnerabilities.filter (·.repositoryId == repository)

def smellsOf (s : Store) (repository : Id) : List SmellRow := s.smells.filter (·.repositoryId == some repository)

def duplicationsOf (s : Store) (repository : Id) : List DuplicationRow :=
  s.duplications.filter (·.repositoryId == some repository)

def snapshotsOf (s : Store) (repository : Id) : List SnapshotRow :=
  s.snapshots.filter (·.repositoryId == some repository)

def gate? (s : Store) (repository : Id) : Option GateRow := s.gates.find? (·.repositoryId == repository)

def runsOf (s : Store) (repository : Id) : List RunRow := s.runs.filter (·.repositoryId == repository)

def run? (s : Store) (id : Id) : Option RunRow := s.runs.find? (·.id == id)

def symbolNamed? (s : Store) (repository : Id) (path name : String) : Option SymbolRow :=
  (s.symbols.find? fun y => y.name == name && (s.file? y.fileId).any fun f =>
    f.repositoryId == repository && f.path == path)

end Store

/-- Rows with the latest first; of rows of one time, the earlier added comes first. -/
def latestFirst {α : Type} (time : α → Moment) (l : List α) : List α := l.mergeSort fun a b => time b ≤ time a

/-- The first rows of a list; a negative bound sets no limit. -/
def limited {α : Type} (n : Int) (l : List α) : List α := if n < 0 then l else l.take n.toNat

end CodeSurvey

/-! ## Removal -/

namespace CodeSurvey.Store

/-- A reference that becomes null if it leads to one of the given rows. -/
def cleared (gone : List Id) (ref : Option Id) : Option Id := ref.filter fun i => !gone.contains i

def leads (gone : List Id) (ref : Option Id) : Bool := ref.any gone.contains

/-- Does a finding or a snapshot name the repository, or a finding one of its files? -/
def hasFindings (s : Store) (id : Id) : Bool :=
  let files := (s.filesOf id).map (·.id)
  s.smells.any (fun m => leads [id] m.repositoryId || leads files m.fileId) ||
    s.duplications.any (fun d => leads [id] d.repositoryId || leads files d.file1Id || leads files d.file2Id) ||
    s.snapshots.any fun p => leads [id] p.repositoryId

/-- May the repository be removed? Gates and runs cannot do without it, and where findings are bound to it, nor can
they. -/
def isFree (s : Store) (bindsFindings : Bool) (id : Id) : Bool :=
  (s.gate? id).isNone && (s.runsOf id).isEmpty && !(bindsFindings && s.hasFindings id)

def removeRepository (s : Store) (id : Id) : Store :=
  let files := (s.filesOf id).map (·.id)
  let symbols := (s.symbols.filter fun y => files.contains y.fileId).map (·.id)
  { s with
    repositories := s.repositories.filter (·.id != id)
    files := s.files.filter (·.repositoryId != id)
    symbols := s.symbols.filter fun y => !files.contains y.fileId
    vulnerabilities := s.vulnerabilities.filter (·.repositoryId != id)
    smells := s.smells.map fun m =>
      { m with
        repositoryId := cleared [id] m.repositoryId
        fileId := cleared files m.fileId
        symbolId := cleared symbols m.symbolId }
    duplications := s.duplications.map fun d =>
      { d with
        repositoryId := cleared [id] d.repositoryId
        file1Id := cleared files d.file1Id
        file2Id := cleared files d.file2Id }
    snapshots := s.snapshots.map fun p => { p with repositoryId := cleared [id] p.repositoryId } }

end CodeSurvey.Store
