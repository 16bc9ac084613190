/-
Checking a repository against its quality gate, and keeping the checks as runs.
-/
import CodeSurvey.Gate.Report
import CodeSurvey.Store.Basic

namespace CodeSurvey

namespace Gate

structure Check where
  name : String
  value : Int
  limit : Int

def Check.passed (c : Check) : Bool := c.value ≤ c.limit

def Check.message (c : Check) : String := s!"{c.value} (max: {c.limit})"

def Check.row (c : Check) : CheckRow := ⟨⟨c.passed, c.name, c.message⟩, toString c.value, toString c.limit⟩

def Check.record (c : Check) : Json :=
  .obj [("name", .str c.name), ("passed", .bool c.passed), ("value", .int c.value), ("threshold", .int c.limit),
    ("message", .str c.message)]

structure Result where
  checks : List Check
  blocks : Bool

namespace Result

def passed (r : Result) : Bool := r.checks.all Check.passed

def blocksMerge (r : Result) : Bool := r.blocks && !r.passed

def summary (r : Result) : String :=
  let kept := (r.checks.filter Check.passed).length
  s!"{mark r.passed} {verdict r.passed} — {kept}/{r.checks.length} checks passed"

def fields (r : Result) : List (String × Json) :=
  [("passed", .bool r.passed), ("block_merge", .bool r.blocksMerge), ("checks", .arr (r.checks.map Check.record)),
    ("summary", .str r.summary)]

def lines (r : Result) : List CheckLine := r.checks.map fun c => c.row.toCheckLine

def page (r : Result) (today name : String) : String := Gate.page today name r.passed r.summary (r.checks.map Check.row)

end Result

end Gate

namespace Store

def ensureGate (s : Store) (repository : Id) : Store :=
  match s.gate? repository with
  | some _ => s
  | none => s.addGate fun id => ⟨id, repository, {}⟩

def limitsOf (s : Store) (repository : Id) : GateLimits := ((s.gate? repository).map (·.limits)).getD {}

/-- Checks the findings of a repository. There is no result if a limit for them is missing; a missing order to block is
none. -/
def checkGate (s : Store) (repository : Id) : Option Gate.Result := do
  let limits := s.limitsOf repository
  let smells := s.smellsOf repository
  let issues := s.vulnerabilitiesOf repository
  return ⟨[⟨"Code Smells", smells.length, ← limits.smells⟩,
    ⟨"Critical Smells", (smells.filter (·.severity == .critical)).length, ← limits.criticalSmells⟩,
    ⟨"Vulnerabilities", issues.length, ← limits.vulnerabilities⟩,
    ⟨"Critical Vulnerabilities", (issues.filter (·.severity == "critical")).length, ← limits.criticalVulnerabilities⟩],
    limits.blocks.getD false⟩

structure RunRequest where
  trigger : String
  branch : Option String := none
  commit : Option String := none
  pullNumber : Json := .null
  pullTitle : Option String := none
  status : String := "running"

end Store

/-- A run that has been started. Its verdict is open. -/
def RunRow.started (repository : Id) (r : Store.RunRequest) : Id → Moment → RunRow := fun id now => {
  id := id
  repositoryId := repository
  branch := r.branch
  commit := r.commit
  pullNumber := r.pullNumber
  pullTitle := r.pullTitle
  trigger := r.trigger
  status := r.status
  passed := none
  details := .null
  report := none
  created := now
  completed := none }

/-- A run with the result of its check and the page on it; an empty page is none. -/
def RunRow.complete (r : RunRow) (result : Gate.Result) (page : String) (now : Moment) : RunRow :=
  { r with
    status := if result.passed then "passed" else "failed"
    passed := some result.passed
    details := .obj result.fields
    report := if page.isEmpty then r.report else some page
    completed := some now }

namespace Store

def startRun (s : Store) (repository : Id) (r : RunRequest) : Store := s.addRun (.started repository r)

def completeRun (s : Store) (run : Id) (result : Gate.Result) (page : String) : Store :=
  { s with runs := s.runs.map fun r => if r.id = run then r.complete result page s.now else r }

end Store

end CodeSurvey
