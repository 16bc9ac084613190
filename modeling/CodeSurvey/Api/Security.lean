/-
Security issues of a repository.
-/
import CodeSurvey.Api.Request
import CodeSurvey.Metrics.Snapshot
import CodeSurvey.Store.Record
import CodeSurvey.Task.Findings

namespace CodeSurvey.Api

/-- Looks for security issues: what was found before goes at once, and the search follows. -/
def scanSecurity (id : String) : Answering Json := do
  let row ← repositoryNamed id
  Answering.commit fun s => s.clearVulnerabilities row.id
  Answering.commit fun s => s.scanSecurity row.id
  return .obj [("status", .str "scanning"), ("message", .str "Security scan started"), ("repository_id", .str id)]

/-- Comes a finding before another? By severity, the last of the alphabet first, and then the latest first. -/
def severityLe (a b : String × Moment) : Bool := b.1 < a.1 || (a.1 == b.1 && b.2 ≤ a.2)

def vulnerabilityRecord (v : VulnerabilityRow) : Json :=
  .obj [("id", v.id.json), ("type", .str v.kind), ("severity", .str v.severity), ("cwe_id", .ofText? v.cwe),
    ("owasp_category", .ofText? v.owasp), ("file_path", .str v.path), ("line_number", .int v.line),
    ("code_snippet", .ofText? v.snippet), ("description", .str v.description),
    ("recommendation", .ofText? v.recommendation), ("confidence", .str v.confidence),
    ("created_at", Moment.mark (some v.created))]

def listVulnerabilities (r : Request) (id : String) : Answering Json := do
  let severity := r.param? "severity"
  let kind := r.param? "type"
  let row ← repositoryNamed id
  let rows := ((← Answering.store).vulnerabilitiesOf row.id).filter fun v =>
    severity.all (· == v.severity) && kind.all (· == v.kind)
  let rows := rows.mergeSort fun a b => severityLe (a.severity, a.created) (b.severity, b.created)
  return .obj [("repository_id", .str id), ("total_vulnerabilities", .int rows.length),
    ("vulnerabilities", .arr (rows.map vulnerabilityRecord))]

def tally (l : List String) : List (String × Nat) :=
  ((l.eraseDups).mergeSort fun a b => !(b < a)).map fun t => (t, l.count t)

def securityStats (id : String) : Answering Json := do
  let row ← repositoryNamed id
  let s ← Answering.store
  let counts :=
    ["critical", "high", "medium", "low"].map fun severity => (severity, s.vulnerabilityCount row.id severity)
  return .obj [("repository_id", .str id), ("total_vulnerabilities", .int (total (counts.map (·.2)))),
    ("by_severity", .obj (counts.map fun c => (c.1, .int c.2))),
    ("by_type", .obj ((tally ((s.vulnerabilitiesOf row.id).map (·.kind))).map fun c => (c.1, .int c.2)))]

end CodeSurvey.Api
