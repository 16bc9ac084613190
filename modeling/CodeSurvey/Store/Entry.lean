/-
Rows given as records. A column that is missing or null gets its standard value.
-/
import CodeSurvey.Store.Basic
import CodeSurvey.Store.Column

namespace CodeSurvey.Entry

variable {α : Type}

def column (row : Json) (key : String) (read : Json → Option α) : Option α := (row.get? key).bind read

def either (row : Json) (key : String) (read : Json → Option α) (standard : α) : α :=
  (column row key read).getD standard

def moment? (row : Json) : Option Moment :=
  column row "created_at" fun j => j.asText?.bind fun s => Moment.ofText? s.toList

def repository? (row : Json) : Option (Id → Moment → RepositoryRow) := do
  let name ← column row "name" Column.string?
  return fun id now => {
    id := id
    name := name
    uploadPath := column row "upload_path" Column.string?
    source := either row "source" (fun j => j.asText?.bind RepoSource.ofName?) .upload
    githubUrl := column row "github_url" Column.string?
    githubOwner := column row "github_owner" Column.string?
    githubRepo := column row "github_repo" Column.string?
    githubBranch := some (either row "github_branch" Column.string? "main")
    githubStars := either row "github_stars" Column.whole? .null
    githubLanguage := column row "github_language" Column.string?
    status := either row "status" (fun j => j.asText?.bind RepoStatus.ofName?) .pending
    fileCount := either row "file_count" Column.int? 0
    symbolCount := either row "symbol_count" Column.int? 0
    created := (moment? row).getD now }

def file? (row : Json) : Option (Id → Moment → FileRow) := do
  let repository ← column row "repository_id" Column.id?
  let path ← column row "file_path" Column.string?
  let language ← column row "language" Column.string?
  return fun id now => {
    id := id
    repositoryId := repository
    path := path
    language := language
    lineCount := either row "line_count" Column.int? 0
    source := column row "source" Column.string?
    created := (moment? row).getD now }

def symbol? (row : Json) : Option (Id → Moment → SymbolRow) := do
  let file ← column row "file_id" Column.id?
  let name ← column row "name" Column.string?
  let kind ← column row "type" fun j => j.asText?.bind SymbolKind.ofCode?
  let lineStart ← column row "line_start" Column.int?
  return fun id now => {
    id := id
    fileId := file
    name := name
    kind := kind
    lineStart := lineStart
    lineEnd := column row "line_end" Column.int?
    signature := column row "signature" Column.string?
    complexity := column row "cyclomatic_complexity" Column.int?
    maintainability := column row "maintainability_index" Column.float?
    codeLines := column row "lines_of_code" Column.int?
    commentLines := column row "comment_lines" Column.int?
    docstring := column row "docstring" Column.string?
    hasDocstring := either row "has_docstring" Column.bool? false
    docstringLength := column row "docstring_length" Column.int?
    created := (moment? row).getD now }

def call? (row : Json) : Option (Nat → CallRow) := do
  let repository ← column row "repository_id" Column.id?
  let callerId ← column row "caller_symbol_id" Column.id?
  let callerName ← column row "caller_name" Column.string?
  let callerFile ← column row "caller_file" Column.string?
  let calleeName ← column row "callee_name" Column.string?
  let line ← column row "call_line" Column.int?
  return fun n => {
    number := n
    repositoryId := repository
    callerId := callerId
    callerName := callerName
    callerFile := callerFile
    calleeName := calleeName
    calleeFile := column row "callee_file" Column.string?
    calleeId := column row "callee_symbol_id" Column.id?
    line := line
    isExternal := either row "is_external" Column.bool? false }

def vulnerability? (row : Json) : Option (Id → Moment → VulnerabilityRow) := do
  let repository ← column row "repository_id" Column.id?
  let kind ← column row "type" Column.string?
  let severity ← column row "severity" Column.string?
  let path ← column row "file_path" Column.string?
  let line ← column row "line_number" Column.int?
  let description ← column row "description" Column.string?
  return fun id now => {
    id := id
    repositoryId := repository
    kind := kind
    severity := severity
    cwe := column row "cwe_id" Column.string?
    owasp := column row "owasp_category" Column.string?
    path := path
    line := line
    snippet := column row "code_snippet" Column.string?
    description := description
    recommendation := column row "recommendation" Column.string?
    confidence := either row "confidence" Column.string? "high"
    created := (moment? row).getD now }

def smell? (row : Json) : Option (Id → Moment → SmellRow) := do
  let kind ← column row "smell_type" fun j => j.asText?.bind SmellKind.ofName?
  let severity ← column row "severity" fun j => j.asText?.bind Severity.ofName?
  let title ← column row "title" Column.string?
  let description ← column row "description" Column.string?
  let startLine ← column row "start_line" Column.int?
  let endLine ← column row "end_line" Column.int?
  return fun id now => {
    id := id
    repositoryId := column row "repository_id" Column.id?
    fileId := column row "file_id" Column.id?
    symbolId := column row "symbol_id" Column.id?
    kind := kind
    severity := severity
    title := title
    description := description
    suggestion := column row "suggestion" Column.string?
    startLine := startLine
    endLine := endLine
    value := column row "metric_value" Column.int?
    threshold := column row "metric_threshold" Column.int?
    created := (moment? row).getD now }

def duplication? (row : Json) : Option (Id → Moment → DuplicationRow) := do
  let start1 ← column row "file1_start_line" Column.int?
  let end1 ← column row "file1_end_line" Column.int?
  let start2 ← column row "file2_start_line" Column.int?
  let end2 ← column row "file2_end_line" Column.int?
  let similarity ← column row "similarity_score" Column.float?
  let lines ← column row "duplicated_lines" Column.int?
  let tokens ← column row "duplicated_tokens" Column.int?
  let digest ← column row "hash_signature" Column.string?
  return fun id now => {
    id := id
    repositoryId := column row "repository_id" Column.id?
    file1Id := column row "file1_id" Column.id?
    file1Start := start1
    file1End := end1
    file2Id := column row "file2_id" Column.id?
    file2Start := start2
    file2End := end2
    similarity := similarity
    lines := lines
    tokens := tokens
    snippet := column row "code_snippet" Column.string?
    digest := digest
    created := (moment? row).getD now }

def snapshot (row : Json) : Id → Moment → SnapshotRow :=
  let count (key : String) : Int := either row key Column.int? 0
  let amount (key : String) : Float := either row key Column.float? 0
  fun id now => {
    id := id
    repositoryId := column row "repository_id" Column.id?
    figures := {
      files := count "total_files"
      lines := count "total_lines"
      symbols := count "total_symbols"
      averageComplexity := amount "avg_complexity"
      maxComplexity := count "max_complexity"
      highComplexity := count "high_complexity_count"
      duplications := count "duplication_count"
      duplicateLines := count "duplicate_lines"
      duplicationPercentage := amount "duplication_percentage"
      smells := count "code_smells_count"
      criticalSmells := count "criticals_smells"
      highSmells := count "high_smells"
      mediumSmells := count "medium_smells"
      lowSmells := count "low_smells"
      vulnerabilities := count "vulnerability_count"
      criticalVulnerabilities := count "critical_vulnerability"
      highVulnerabilities := count "high_vulnerabilities"
      qualityScore := amount "quality_score" }
    note := (row.get? "snapshot_metadata").getD .null
    created := (moment? row).getD now }

/-- The limits of a gate. What is not a number leaves its column empty. -/
def limits (row : Json) : GateLimits :=
  let count (key : String) (standard : Int) : Option Int :=
    if (row.get? key).any Json.isNaN then none else some (either row key Column.int? standard)
  let amount (key : String) (standard : Float) : Option Float := Column.double? (either row key Column.float? standard)
  { complexity := count "max_complexity" 10
    smells := count "max_code_smells" 20
    criticalSmells := count "max_critical_smells" 0
    vulnerabilities := count "max_vulnerabilities" 5
    criticalVulnerabilities := count "max_critical_vulnerabilities" 0
    qualityScore := amount "min_quality_score" 70
    duplicationPercentage := amount "max_duplication_percentage" 10
    blocks := some (either row "block_on_failure" Column.bool? true) }

def gate? (row : Json) : Option (Id → GateRow) := do
  let repository ← column row "repository_id" Column.id?
  return fun id => ⟨id, repository, limits row⟩

def run? (row : Json) : Option (Id → Moment → RunRow) := do
  let repository ← column row "repository_id" Column.id?
  return fun id now => {
    id := id
    repositoryId := repository
    branch := column row "branch" Column.string?
    commit := column row "commit_sha" Column.string?
    pullNumber := either row "pr_number" Column.whole? .null
    pullTitle := column row "pr_title" Column.string?
    trigger := either row "triggered_by" Column.string? "manual"
    status := either row "status" Column.string? "pending"
    passed := column row "quality_gate_passed" Column.bool?
    details := (row.get? "quality_gate_details").getD .null
    report := column row "report_html" Column.string?
    created := (moment? row).getD now
    completed := column row "completed_at" fun j => j.asText?.bind fun s => Moment.ofText? s.toList }

def embedding? (row : Json) : Option (Id → Moment → EmbeddingRow) := do
  let symbol ← column row "symbol_id" Column.id?
  let model ← column row "model" Column.string?
  let dimensions ← column row "dimensions" Column.int?
  let vector := ((row.get? "embedding").bind Json.items?).getD []
  return fun id now => ⟨id, symbol, vector.filterMap Column.float?, model, dimensions, (moment? row).getD now⟩

end CodeSurvey.Entry

namespace CodeSurvey.Store

/-- Adds a row given as a record, if it has all that the table needs. -/
def enter (s : Store) (t : Table) (row : Json) : Store :=
  let one {α : Type} (add : α → Store) (read : Option α) : Store := (read.map add).getD s
  match t with
  | .repository => one s.addRepository (Entry.repository? row)
  | .file => one s.addFile (Entry.file? row)
  | .symbol => one (fun d => s.addSymbols [d]) (Entry.symbol? row)
  | .call => one (fun d => s.addCalls [d]) (Entry.call? row)
  | .vulnerability => one (fun d => s.addVulnerabilities [d]) (Entry.vulnerability? row)
  | .smell => one (fun d => s.addSmells [d]) (Entry.smell? row)
  | .duplication => one s.addDuplication (Entry.duplication? row)
  | .snapshot => s.addSnapshot (Entry.snapshot row)
  | .gate => one s.addGate (Entry.gate? row)
  | .run => one s.addRun (Entry.run? row)
  | .embedding => one (fun d => s.addEmbeddings [d]) (Entry.embedding? row)

end CodeSurvey.Store
