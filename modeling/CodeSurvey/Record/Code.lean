/-
Records of what is read from source code: symbols, calls, metrics, duplications, imports and findings.
-/
import CodeSurvey.CallGraph.Basic
import CodeSurvey.Duplicate.Scan
import CodeSurvey.Imports.Graph
import CodeSurvey.Metrics.Quality
import CodeSurvey.Security.Scan
import CodeSurvey.Smell.Detect
import CodeSurvey.Symbol.File

namespace CodeSurvey

def Json.ofChars (t : List Char) : Json := .str (String.ofList t)

def Json.ofSorted (l : List String) : Json := .ofTexts (l.mergeSort fun a b => !(b < a))

def Json.ofCounts (l : List (String × Nat)) : Json := .obj (l.map fun p => (p.1, .int p.2))

def Symbol.recordWith (startKey endKey : String) (s : Symbol) : Json :=
  .obj [("name", .str s.name), ("type", .str s.kind.code), (startKey, .int s.lineStart), (endKey, .int s.lineEnd),
    ("signature", .str s.signature)]

def Symbol.record (s : Symbol) : Json := s.recordWith "line_start" "line_end"

def Symbol.records (l : List Symbol) : Json := .arr (l.map record)

def Metrics.Quality.record (q : Metrics.Quality) : Json :=
  .obj [("cyclomatic_complexity", .int q.complexity), ("complexity_breakdown", .ofCounts q.breakdown),
    ("maintainability_index", .float q.maintainability), ("lines_of_code", .int q.codeLines),
    ("comment_lines", .int q.commentLines), ("quality_rating", .str q.rating.name)]

def LargeFile.Stats.record (s : LargeFile.Stats) : Json :=
  .obj [("line_count", .int s.lineCount), ("size_bytes", .int s.sizeBytes), ("is_large", .bool s.isLarge),
    ("language", .str ((s.language.map Language.name).getD "unknown"))]

def CallRecord.record (r : CallRecord Json) : Json :=
  .obj [("caller_name", .ofText? r.caller), ("caller_file", .ofText? r.callerFile),
    ("caller_symbol_id", r.callerId.getD .null), ("callee_name", .str r.callee), ("callee_file", .ofText? r.calleeFile),
    ("callee_symbol_id", r.calleeId.getD .null), ("call_line", .int r.line), ("is_external", .bool r.isExternal)]

def CallNode.record (n : CallNode Json) : Json :=
  .obj [("name", .ofText? n.name), ("file", .ofText? n.file), ("symbol_id", n.id.getD .null),
    ("calls", .ofTexts n.calls), ("called_by", .arr (n.calledBy.map Json.ofText?)), ("is_external", .bool n.isExternal)]

def CallEdge.record (e : CallEdge) : Json :=
  .obj [("from", .ofText? e.caller), ("to", .str e.callee), ("file", .ofText? e.file), ("line", .int e.line)]

def CallGraph.record (repository : Json) (g : CallGraph Json) : Json :=
  .obj [("nodes", .arr (g.nodes.map CallNode.record)), ("edges", .arr (g.edges.map CallEdge.record)),
    ("total_functions", .int g.nodes.length), ("total_calls", .int g.edges.length), ("repository_id", repository)]

def DeadFunction.record (d : DeadFunction) : Json :=
  .obj [("name", .str d.name), ("file", d.file), ("symbol_id", d.id), ("calls", .int d.calls),
    ("severity", .str d.severity)]

def CircularCall.record (c : CircularCall (Option String)) : Json :=
  .obj [("cycle", .arr (c.cycle.map Json.ofText?)), ("length", .int c.length), ("severity", .str c.severity)]

def Duplicate.Block.record (b : Duplicate.Block) : Json :=
  .obj [("start_line", .int b.startLine), ("end_line", .int b.endLine), ("line_count", .int b.lineCount),
    ("tokens", .int b.tokens.length), ("content_length", .int b.content.length), ("hash_signature", .str b.digest)]

def Duplicate.Duplication.record (d : Duplicate.Duplication) : Json :=
  .obj [("file1_id", d.first.fileId), ("file1_path", .ofText? d.first.path),
    ("file1_start_line", .int d.first.startLine), ("file1_end_line", .int d.first.endLine),
    ("file2_id", d.second.fileId), ("file2_path", .ofText? d.second.path),
    ("file2_start_line", .int d.second.startLine), ("file2_end_line", .int d.second.endLine),
    ("similarity_score", .float d.similarity), ("duplicate_lines", .int d.duplicateLines), ("duplicate_tokens",
      .int d.duplicateTokens), ("code_snippet", .ofChars d.snippet), ("hash_signature", .str d.first.digest)]

def Imports.record (repository : Json) (files : List Imports.FileNode) : Json :=
  let node (f : Imports.FileNode) : Json :=
    .obj [("file", .str f.path), ("language", .ofText? f.language), ("imports", .ofSorted f.imports),
      ("imported_by", .ofTexts f.importedBy)]
  .obj [("files", .arr (files.map node)), ("total_files", .int files.length),
    ("total_dependencies", .int (Imports.declared files)), ("repository_id", repository)]

def Security.Issue.record (full : Bool) (i : Security.Issue) : Json :=
  let w := i.weakness
  .obj ([("type", .str w.name), ("severity", .str w.severity), ("line_number", .int i.line),
    ("code_snippet", .str i.snippet),
      ("description", .str i.description), ("confidence", .str w.confidence)] ++
    (if full then
      [("recommendation", Json.str w.recommendation), ("cwe_id", .str w.cwe), ("owasp_category", .str w.owasp)]
      else []))

def SmellFinding.record (f : SmellFinding) : Json :=
  .obj [("file_id", f.fileId), ("symbol_id", f.symbolId), ("smell_type", .str f.kind.name),
    ("severity", .str f.severity.name), ("title", .str f.title), ("description", .str f.description),
    ("suggestion", .str f.suggestion), ("start_line", .ofInt? f.startLine), ("end_line", .ofInt? f.endLine),
    ("metric_value", .int f.value), ("metric_threshold", .int f.threshold)]

end CodeSurvey
