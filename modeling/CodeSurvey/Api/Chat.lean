/-
Searching for symbols by meaning, questions about a repository, and what a conversation about it should know at the
start.
-/
import CodeSurvey.Api.Security
import CodeSurvey.Record.Service

namespace CodeSurvey.Api

def thresholdParam (r : Request) : Answering (Option Json) := do
  match ← r.param "threshold" (fun t => (Text.float? t).map some) none with
  | none => return none
  | some x => if 0 ≤ x && x ≤ 1 then return some (.float x) else throw .malformed

def semanticSearch (r : Request) : Answering Json := do
  let text ← shaped (r.param? "query")
  let limit ← r.limit "limit" 10 (some 50)
  let threshold ← thresholdParam r
  let q : Search.Query := ⟨text, limit, threshold, r.param? "repository_id", r.param? "language"⟩
  let s ← get
  let outcome ← Answering.doing (Service.withAi (Search.run s.settings s.hasAi s.vectors q))
  match outcome.result with
  | .ok hits => return Search.record s.settings q hits
  | .error refusal => throw refusal

def similarSymbols (r : Request) (id : String) : Answering Json := do
  let _ ← r.limit "limit" 10 (some 50)
  let threshold ← r.param "threshold" (fun t => (Text.float? t).map fun x => some (Json.float x)) none
  let s ← get
  if !s.settings.enableEmbeddings then throw (.refused 503 "Embeddings not enabled")
  let symbolId := Id.ofRegular? id
  let _ ← found "Symbol embedding not found" (s.store.embeddings.find? fun e => some e.symbolId == symbolId)
  let symbol ← found "Symbol not found" (s.store.symbols.find? fun y => some y.id == symbolId)
  match s.vectors with
  | .error _ => throw (.broken .outside)
  | .ok rows =>
    let hits ← unbroken (rows.mapM Search.hitOf)
    return .obj [("source_symbol", .obj [("id", symbol.id.json), ("name", .str symbol.name),
      ("type", .str symbol.kind.word),
        ("signature", .ofText? symbol.signature)]),
      ("threshold", Search.thresholdOf s.settings threshold), ("total_results", .int hits.length),
      ("similar_symbols", .arr (hits.map Search.Hit.record))]

def coverage (part whole : Nat) : Json :=
  if whole == 0 then .int 0 else .float (Decimal.roundTo 2 (Decimal.ofInt part / Decimal.ofInt whole * 100))

def searchStats : Answering Json := do
  let s ← get
  let symbols := s.store.symbols.length
  let vectors := s.store.embeddings.length
  return .obj [("total_symbols", .int symbols), ("total_embeddings", .int vectors),
    ("coverage", coverage vectors symbols), ("model", .str s.settings.openaiModel),
    ("dimensions", .int s.settings.embeddingDimensions), ("enabled", .bool s.settings.enableEmbeddings)]

/-! ## Questions -/

def message (j : Json) : Except Fault (String × String) := do
  let j ← j.looseRecord
  return (← j.needField "role" Json.looseText, ← j.needField "content" Json.looseText)

def idInBody (j : Json) (key : String) : Except Fault Id :=
  j.needField key fun v => Json.valid (v.asText?.bind fun s => Id.ofText? s.toList)

def ask (r : Request) : Answering Json := do
  let body ← r.record
  let _ ← accepted (idInBody body "repository_id")
  let question ← accepted (body.needField "messages" Json.looseText)
  let history ← accepted (body.defaultField "history" (Json.looseList message) [])
  let s ← get
  let outcome ← Answering.doing
    (Service.withAi (Question.ask s.hasAi s.hasAi s.settings.openaiModel s.vectors question history))
  match outcome.result with
  | .ok answer => return answer.record
  | .error refusal => throw refusal

/-! ## Context -/

def chatTips : List String :=
  ["Ask about specific functions or files", "Request explanations of complex logic", "Inquire about security patterns",
    "Ask for refactoring suggestions"]

end CodeSurvey.Api

namespace CodeSurvey

/-- The symbols of each file of a repository; a file without symbols counts once. -/
def Store.fileSymbolPairs (s : Store) (repository : Id) : List (FileRow × Option SymbolRow) :=
  (s.filesOf repository).flatMap fun f =>
    match s.symbolsIn f.id with
    | [] => [(f, none)]
    | symbols => symbols.map fun y => (f, some y)

end CodeSurvey

namespace CodeSurvey.Api

/-- What a conversation about a repository should know. Files are counted once for each of their symbols. -/
def context (id : String) : Answering Json := do
  let id ← idInPath id
  let s ← Answering.store
  let pairs := s.fileSymbolPairs id
  let symbols := pairs.filterMap (·.2)
  let average := Store.mean (symbols.filterMap (·.complexity))
  return .obj [("repository_id", id.json),
    ("stats", .obj [("files", .int pairs.length), ("symbols", .int symbols.length),
      ("avg_complexity", .float (Decimal.roundTo 2 average))]),
    ("languages", .obj ((tally ((s.filesOf id).map (·.language))).map fun c => (c.1, .int c.2))),
    ("chat_tips", .ofTexts chatTips)]

end CodeSurvey.Api
