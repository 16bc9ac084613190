/-
The call graph of a repository, as it is kept.
-/
import CodeSurvey.Api.Request
import CodeSurvey.CallGraph.Stored
import CodeSurvey.Record.Code

namespace CodeSurvey.Api

open StoredCalls

def nodeRecord (n : Node) : Json :=
  .obj ([("id", .str n.name), ("name", .str n.name), ("file", .str n.file), ("line", .null),
    ("calls", .ofTexts n.calls), ("called_by", .ofTexts n.calledBy)] ++ (n.isExternal.map fun b =>
    ("is_external", Json.bool b)).toList)

def edgeRecord (c : CallRow) : Json :=
  .obj [("from", .str c.callerName), ("to", .str c.calleeName), ("file", .str c.callerFile), ("line", .int c.line),
    ("is_external", .bool c.isExternal)]

def noCalls : String :=
  "No function calls detected. Make sure your repository contains analyzable code (Python, C, Assembly, or COBOL)."

def callGraph (id : String) : Answering Json := do
  let row ← repositoryNamed id
  let calls := (← Answering.store).callsOf row.id
  let functions := nodes calls
  let message := if calls.isEmpty then [("message", Json.str noCalls)] else []
  return .obj ([("repository_id", .str id), ("total_functions", .int functions.length),
    ("total_calls", .int calls.length), ("nodes", .arr (functions.map nodeRecord)),
    ("edges", .arr (calls.map edgeRecord))] ++ message)

def callStats (id : String) : Answering Json := do
  let row ← repositoryNamed id
  let calls := (← Answering.store).callsOf row.id
  let graph ← unbroken (digraph calls).searchable
  return .obj [("repository_id", .str id), ("total_functions", .int (callers calls).length),
    ("total_calls", .int calls.length), ("dead_functions", .int (deadCallers calls).length),
    ("circular_dependencies", .int graph.cycles.length)]

def dependencies (id : String) : Answering Json := do
  let row ← repositoryNamed id
  let files := Imports.storedFiles ((← Answering.store).filesOf row.id)
  let shown := Imports.distinctFiles files
  return .obj [("repository_id", .str id), ("total_files", .int shown.length),
    ("total_dependencies", .int (Imports.importCount files)),
    ("files", .arr (shown.map fun f => .obj [("file", .str f.path), ("language", .str f.language),
      ("imports", .ofSorted f.imports), ("imported_by", .ofTexts (Imports.namers files f.path))])),
      ("dependencies", .arr [])]

def deadCode (id : String) : Answering Json := do
  let row ← repositoryNamed id
  let functions := dead ((← Answering.store).callsOf row.id)
  return .obj [("repository_id", .str id),
    ("dead_functions", .arr (functions.map fun d => .obj [("name", .str d.name), ("file", .str d.file),
      ("severity", .str "medium"), ("calls", .int d.calls)])), ("total_dead", .int functions.length)]

def circularCalls (id : String) : Answering Json := do
  let row ← repositoryNamed id
  let calls := (← Answering.store).callsOf row.id
  discard (unbroken (digraph calls).searchable)
  let all := circles calls
  return .obj [("repository_id", .str id),
    ("circular_dependencies", .arr (all.map fun c => .obj [("cycle", .ofTexts c.cycle), ("length", .int c.length),
      ("severity", .str c.severity.name)])), ("total_cycles", .int all.length)]

end CodeSurvey.Api
