/-
Semantic search: the symbols whose vectors are nearest to that of a query, and the shape of a response, read loosely
from a structured value.
-/
import CodeSurvey.Ai.Question
import CodeSurvey.Settings

namespace CodeSurvey.Search

structure Result where
  symbolId : String
  name : String
  kind : String
  signature : String
  file : String
  repository : String
  language : String
  similarity : Option Float
  lines : Option String
  complexity : Option Int
  maintainability : Option Float

structure Response where
  query : String
  threshold : Float
  total : Int
  results : List Result

def Result.ofJson (j : Json) : Except Fault Result := do
  let j ← j.looseRecord
  let symbolId ← j.needField "symbo_id" Json.looseText
  let name ← j.needField "name" Json.looseText
  let kind ← j.needField "type" Json.looseText
  let signature ← j.defaultField "signature" Json.looseText ""
  let file ← j.needField "file_path" Json.looseText
  let repository ← j.needField "repository_id" Json.looseText
  let language ← j.needField "language" Json.looseText
  let similarity ← j.optField "similiarity" Json.looseFloat
  let lines ← j.optField "lines" Json.looseText
  let complexity ← j.optField "cyclomatic_complexity" Json.looseInt
  let maintainability ← j.optField "maintainability_index" Json.looseFloat
  return ⟨symbolId, name, kind, signature, file, repository, language, similarity, lines, complexity, maintainability⟩

def Response.ofJson (j : Json) : Except Fault Response := do
  let query ← j.needField "query" Json.looseText
  let threshold ← j.needField "threshold" Json.looseFloat
  let total ← j.needField "total_results" Json.looseInt
  return ⟨query, threshold, total, ← j.needField "results" (Json.looseList Result.ofJson)⟩

open VectorRow

structure Hit where
  symbolId : String
  name : Json
  kind : Json
  signature : Json
  file : Json
  repository : String
  language : Json
  similarity : Float
  lines : String
  complexity : Json
  maintainability : Json

def hitOf (row : Json) : Except Fault Hit := do
  let id ← column row "symbol_id"
  let name ← column row "name"
  let kind ← column row "type"
  let signature ← column row "signature"
  let file ← column row "file_path"
  let repository ← column row "repository_id"
  let language ← column row "language"
  let similarity ← floatColumn row "similarity"
  let last ← column row "line_end"
  let first ← column row "line_start"
  let complexity ← column row "cyclomatic_complexity"
  let maintainability ← column row "maintainability_index"
  let lines := if last.truthy then first.display ++ "-" ++ last.display else first.display
  return ⟨id.display, name, kind, signature, file, repository.display, language, Decimal.roundTo 4 similarity, lines,
    complexity, maintainability⟩

structure Query where
  text : String
  limit : Int
  threshold : Option Json
  repository : Option String
  language : Option String

structure Parameters where
  vector : String
  threshold : Json
  limit : Int
  repository : Option String
  language : Option String

def Parameters.filters (p : Parameters) : List String :=
  (if p.repository.isSome then ["AND f.repository_id = :repository_id"] else []) ++
    (if p.language.isSome then ["AND f.language = :language"] else [])

def inForce (s : Option String) : Option String := s.filter fun t => !t.isEmpty

def thresholdOf (s : Settings) (given : Option Json) : Json :=
  match given with
  | some t => if t.truthy then t else s.similarityThreshold
  | none => s.similarityThreshold

structure Outcome where
  parameters : Option Parameters
  result : Except Refusal (List Hit)

def refusal? (s : Settings) : Option Refusal :=
  if !s.enableEmbeddings then some (.refused 503 "Embeddings not enabled")
  else if s.openaiKey.isEmpty then some (.refused 503 "OpenAI API key not configured")
  else none

def run (s : Settings) (hasClient : Bool) (rows : VectorRows) (q : Query) : StateM AiService Outcome := do
  match refusal? s with
  | some r => return ⟨none, .error r⟩
  | none =>
    match ← (Embedding.one hasClient s.openaiModel q.text.toList).run with
    | .error e => return ⟨none, .error (.broken e.fault)⟩
    | .ok vector =>
      match rows with
      | .error _ => return ⟨none, .error (.broken .outside)⟩
      | .ok rows =>
        let p : Parameters := ⟨Embedding.vectorText vector, thresholdOf s q.threshold, q.limit, inForce q.repository,
          inForce q.language⟩
        match rows.mapM hitOf with
        | .error f => return ⟨some p, .error (.broken f)⟩
        | .ok hits => return ⟨some p, .ok hits⟩

end CodeSurvey.Search
