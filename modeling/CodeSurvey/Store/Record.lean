/-
Rows as records with all their columns but the identifier and the time, and rows in one line.
-/
import CodeSurvey.Store.Basic

namespace CodeSurvey

def Id.json? (i : Option Id) : Json := .ofOption Id.json i

def RepositoryRow.record (r : RepositoryRow) : Json :=
  .obj [("name", .str r.name), ("upload_path", .ofText? r.uploadPath), ("source", .str r.source.name),
    ("github_url", .ofText? r.githubUrl), ("github_owner", .ofText? r.githubOwner),
    ("github_repo", .ofText? r.githubRepo), ("github_branch", .ofText? r.githubBranch), ("github_stars", r.githubStars),
    ("github_language", .ofText? r.githubLanguage), ("status", .str r.status.name), ("file_count", .int r.fileCount),
    ("symbol_count", .int r.symbolCount)]

def FileRow.record (r : FileRow) : Json :=
  .obj [("repository_id", r.repositoryId.json), ("file_path", .str r.path), ("language", .str r.language),
    ("line_count", .int r.lineCount)]

def SymbolRow.record (r : SymbolRow) : Json :=
  .obj [("file_id", r.fileId.json), ("name", .str r.name), ("type", .str r.kind.code), ("line_start", .int r.lineStart),
    ("line_end", .ofInt? r.lineEnd), ("signature", .ofText? r.signature),
    ("cyclomatic_complexity", .ofInt? r.complexity), ("maintainability_index", .ofFloat? r.maintainability),
    ("lines_of_code", .ofInt? r.codeLines), ("comment_lines", .ofInt? r.commentLines),
    ("docstring", .ofText? r.docstring), ("has_docstring", .bool r.hasDocstring),
    ("docstring_length", .ofInt? r.docstringLength)]

def CallRow.fields (r : CallRow) : List (String × Json) :=
  [("repository_id", r.repositoryId.json), ("caller_symbol_id", r.callerId.json), ("caller_name", .str r.callerName),
    ("caller_file", .str r.callerFile), ("callee_name", .str r.calleeName), ("callee_file", .ofText? r.calleeFile),
    ("callee_symbol_id", Id.json? r.calleeId), ("call_line", .int r.line), ("is_external", .bool r.isExternal)]

def VulnerabilityRow.record (r : VulnerabilityRow) : Json :=
  .obj [("repository_id", r.repositoryId.json), ("type", .str r.kind), ("severity", .str r.severity),
    ("cwe_id", .ofText? r.cwe), ("owasp_category", .ofText? r.owasp), ("file_path", .str r.path),
    ("line_number", .int r.line), ("code_snippet", .ofText? r.snippet), ("description", .str r.description),
    ("recommendation", .ofText? r.recommendation), ("confidence", .str r.confidence)]

def SmellRow.record (r : SmellRow) : Json :=
  .obj [("repository_id", Id.json? r.repositoryId), ("file_id", Id.json? r.fileId), ("symbol_id", Id.json? r.symbolId),
    ("smell_type", .str r.kind.name), ("severity", .str r.severity.name), ("title", .str r.title),
    ("description", .str r.description), ("suggestion", .ofText? r.suggestion), ("start_line", .int r.startLine),
    ("end_line", .int r.endLine), ("metric_value", .ofInt? r.value), ("metric_threshold", .ofInt? r.threshold)]

def DuplicationRow.record (r : DuplicationRow) : Json :=
  .obj [("repository_id", Id.json? r.repositoryId), ("file1_id", Id.json? r.file1Id),
    ("file1_start_line", .int r.file1Start), ("file1_end_line", .int r.file1End), ("file2_id", Id.json? r.file2Id),
    ("file2_start_line", .int r.file2Start), ("file2_end_line", .int r.file2End),
    ("similarity_score", .float r.similarity), ("duplicated_lines", .int r.lines), ("duplicated_tokens", .int r.tokens),
    ("code_snippet", .ofText? r.snippet), ("hash_signature", .str r.digest)]

def SnapshotRow.record (r : SnapshotRow) : Json :=
  let f := r.figures
  .obj [("repository_id", Id.json? r.repositoryId), ("total_files", .int f.files), ("total_lines", .int f.lines),
    ("total_symbols", .int f.symbols), ("avg_complexity", .float f.averageComplexity),
    ("max_complexity", .int f.maxComplexity), ("high_complexity_count", .int f.highComplexity),
    ("duplication_count", .int f.duplications), ("duplicate_lines", .int f.duplicateLines),
    ("duplication_percentage", .float f.duplicationPercentage), ("code_smells_count", .int f.smells),
    ("criticals_smells", .int f.criticalSmells), ("high_smells", .int f.highSmells), ("medium_smells",
      .int f.mediumSmells), ("low_smells", .int f.lowSmells), ("vulnerability_count", .int f.vulnerabilities),
    ("critical_vulnerability", .int f.criticalVulnerabilities), ("high_vulnerabilities", .int f.highVulnerabilities),
    ("quality_score", .float f.qualityScore), ("snapshot_metadata", r.note)]

def GateLimits.fields (l : GateLimits) : List (String × Json) :=
  [("max_complexity", .ofInt? l.complexity), ("max_code_smells", .ofInt? l.smells),
    ("max_critical_smells", .ofInt? l.criticalSmells), ("max_vulnerabilities", .ofInt? l.vulnerabilities),
    ("max_critical_vulnerabilities", .ofInt? l.criticalVulnerabilities),
    ("min_quality_score", .ofFloat? l.qualityScore), ("max_duplication_percentage", .ofFloat? l.duplicationPercentage),
    ("block_on_failure", .ofOption .bool l.blocks)]

def GateRow.record (r : GateRow) : Json := .obj (("repository_id", r.repositoryId.json) :: r.limits.fields)

/-- A time as a value. Only whether there is one is told. -/
def Moment.mark (t : Option Moment) : Json := .ofText? (t.map fun _ => "<time>")

def RunRow.record (r : RunRow) : Json :=
  .obj [("repository_id", r.repositoryId.json), ("branch", .ofText? r.branch), ("commit_sha", .ofText? r.commit),
    ("pr_number", r.pullNumber), ("pr_title", .ofText? r.pullTitle), ("triggered_by", .str r.trigger),
    ("status", .str r.status), ("quality_gate_passed", .ofOption Json.bool r.passed),
    ("quality_gate_details", r.details), ("report_html", .ofText? r.report), ("completed_at", Moment.mark r.completed)]

def EmbeddingRow.record (r : EmbeddingRow) : Json :=
  .obj [("symbol_id", r.symbolId.json), ("model", .str r.model), ("dimensions", .int r.dimensions)]

/-! ## Rows in one line -/

def RepositoryRow.summary (r : RepositoryRow) : String :=
  s!"<Repository(id={r.id.text}, name={r.name}, status={r.status.name})>"

def FileRow.summary (r : FileRow) : String := s!"<File(id={r.id.text}, path={r.path}, language={r.language})>"

def SymbolRow.summary (r : SymbolRow) : String := s!"<Symbol(id={r.id.text}, name={r.name}, type={r.kind.word})>"

def VulnerabilityRow.summary (r : VulnerabilityRow) : String :=
  s!"<Vulnerability(type={r.kind}, severity={r.severity}, file={r.path}:{r.line})>"

def SmellRow.summary (r : SmellRow) : String :=
  s!"<CodeSmell(id={r.id.text}, type={r.kind.name}, severity={r.severity.name})>"

def DuplicationRow.summary (r : DuplicationRow) : String :=
  let similarity := Decimal.fixedText 2 r.similarity
  s!"<CodeDuplication(id={r.id.text}, similarity={similarity})>"

def SnapshotRow.summary (r : SnapshotRow) : String :=
  let repository := (r.repositoryId.map Id.text).getD "None"
  let score := Decimal.fixedText 1 r.figures.qualityScore
  s!"<MetricsSnapshot(id={r.id.text}, repo={repository}, score={score})>"

def EmbeddingRow.summary (r : EmbeddingRow) : String :=
  s!"<Embedding(symbol_id={r.symbolId.text}, dimensions={r.dimensions})>"

namespace Store

def records (s : Store) : Table → List Json
  | .repository => s.repositories.map (·.record)
  | .file => s.files.map (·.record)
  | .symbol => s.symbols.map (·.record)
  | .call => s.calls.map fun r => .obj r.fields
  | .vulnerability => s.vulnerabilities.map (·.record)
  | .smell => s.smells.map (·.record)
  | .duplication => s.duplications.map (·.record)
  | .snapshot => s.snapshots.map (·.record)
  | .gate => s.gates.map (·.record)
  | .run => s.runs.map (·.record)
  | .embedding => s.embeddings.map (·.record)

/-- All rows of a table as they are shown: in one line, and calls as numbered records. Gates and runs have no short
form. -/
def shown (s : Store) : Table → List Json
  | .repository => s.repositories.map fun r => .str r.summary
  | .file => s.files.map fun r => .str r.summary
  | .symbol => s.symbols.map fun r => .str r.summary
  | .call => s.calls.map fun r => .obj (("id", .int r.number) :: r.fields)
  | .vulnerability => s.vulnerabilities.map fun r => .str r.summary
  | .smell => s.smells.map fun r => .str r.summary
  | .duplication => s.duplications.map fun r => .str r.summary
  | .snapshot => s.snapshots.map fun r => .str r.summary
  | .gate => s.gates.map (·.record)
  | .run => s.runs.map (·.record)
  | .embedding => s.embeddings.map fun r => .str r.summary

end Store

end CodeSurvey
