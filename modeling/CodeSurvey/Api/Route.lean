/-
Which requests the service answers. The address of a request is its path without detours, with the characters that it
stands for, and the query that may follow it. A request is led to the first place that fits its method and path.
-/
import CodeSurvey.Api.Advice
import CodeSurvey.Api.Analysis
import CodeSurvey.Api.Assistant
import CodeSurvey.Api.Calls
import CodeSurvey.Api.Gates
import CodeSurvey.Api.Hosting
import CodeSurvey.Api.Repositories

/-! ## Addresses -/

namespace CodeSurvey.Address

def follow (way : List (List Char)) (step : List Char) : List (List Char) :=
  if step == ['.', '.'] then way.dropLast else if step == ['.'] then way else way ++ [step]

/-- The path without detours. A path that ends with one leads to a directory. -/
def direct (path : List Char) : List Char :=
  let steps := Text.splitOnChar '/' path
  let way := steps.foldl follow []
  let last := steps.getLast?.getD []
  let way := if last == ['.'] || last == ['.', '.'] then way ++ [[]] else way
  let t := Text.joinWith ['/'] way
  if t.head? == some '/' then t else '/' :: t

def escape? : List Char → Option UInt8
  | '%' :: a :: b :: _ =>
    match Json.hexValue? a, Json.hexValue? b with
    | some x, some y => some (x * 16 + y).toUInt8
    | _, _ => none
  | _ => none

def wellEscaped : List Char → Bool
  | [] => true
  | c :: r => (c != '%' || (escape? (c :: r)).isSome) && wellEscaped r

/-- The bytes that a text stands for; `skip` characters belong to an escape that has been read. -/
def bytesFrom (skip : Nat) : List Char → List UInt8
  | [] => []
  | c :: r =>
    match skip with
    | n + 1 => bytesFrom n r
    | 0 =>
      match escape? (c :: r) with
      | some b => b :: bytesFrom 2 r
      | none => Text.Utf8.encode [c] ++ bytesFrom 0 r

def read (t : List Char) : List Char := Text.Utf8.decodeMarked (bytesFrom 0 t)

/-- The text with its escapes replaced. If one percent sign starts none, none is replaced. -/
def unescape (t : List Char) : List Char := if wellEscaped t then read t else t

def parameter (plain : List Char → List Char) (t : List Char) : String × String :=
  let part (s : List Char) : String := String.ofList (plain (s.map fun c => if c == '+' then ' ' else c))
  (part (t.takeWhile (· != '=')), part ((t.dropWhile (· != '=')).drop 1))

/-- The parameters of a query. If one percent sign of the query starts no escape, none is replaced. -/
def parameters (t : List Char) : List (String × String) :=
  let plain := if wellEscaped t then read else id
  ((Text.splitOnChar '&' t).filter fun p => !p.isEmpty).map (parameter plain)

def split (t : List Char) : List Char × List (String × String) :=
  let t := t.takeWhile (· != '#')
  (t.takeWhile (· != '?'), parameters ((t.dropWhile (· != '?')).drop 1))

end CodeSurvey.Address

/-! ## What the service tells about itself -/

namespace CodeSurvey.Api

def features : List String :=
  ["Code parsing", "Symbol extraction", "Semantic search", "Vector embeddings", "GitHub integration",
    "Call graph analysis", "Dead code detection", "Dependency tracking", "Security scanning"]

def root : Answering Json := do
  let s ← Answering.settings
  return .obj [("message", .str s.title), ("version", .str s.version), ("features", .ofTexts features),
    ("docs", .str "/docs"), ("health", .str "/health")]

def serviceName (title : String) : String := String.ofList (Text.replace [' '] ['-'] (Text.lower title.toList))

def health : Answering Json := do
  let s ← Answering.settings
  return .obj [("status", .str "healthy"), ("service", .str (serviceName s.title)), ("version", .str s.version),
    ("embedding_enabled", .bool s.enableEmbeddings)]

def config : Answering Json := do
  let s ← Answering.settings
  return .obj [("api_title", .str s.title), ("api_version", .str s.version), ("upload_dir", .str s.uploadDir),
    ("max_upload_size_mb", s.maxUploadMb), ("allowed_extensions", .ofTexts s.allowedExtensions),
    ("task_time_limit", s.taskTimeLimit), ("embeddings_enabled", .bool s.enableEmbeddings),
    ("openai_model", .str (if s.openaiKey.isEmpty then "not configured" else s.openaiModel)),
    ("embedding_dimensions", .int s.embeddingDimensions)]

/-- A page that is made elsewhere: the counters of the service, or the description of its requests. -/
def elsewhere : Answering Json := return .str ""

def uploadStatus : Answering Json := do
  let s ← Answering.settings
  return .obj [("status", .str "operational"), ("upload_dir", .str s.uploadDir), ("max_size_mb", s.maxUploadMb),
    ("allowed_extensions", .ofTexts s.allowedExtensions)]

/-! ## Routes -/

inductive Part where
  | word (w : String)
  | param
  | rest

/-- What stands for the open parts of a path, if the path fits. A line feed after the last word does not count. -/
def fit : List Part → List (List Char) → Option (List String)
  | [], [] => some []
  | [], _ :: _ => none
  | .word w :: parts, s :: more =>
    if s == w.toList || (more.isEmpty && s == w.toList ++ ['\n']) then fit parts more else none
  | .param :: parts, s :: more => if s.isEmpty then none else (fit parts more).map (String.ofList s :: ·)
  | .rest :: parts, names =>
    let n := names.length - parts.length
    if n == 0 then none
    else (fit parts (names.drop n)).map (String.ofList (Text.joinWith ['/'] (names.take n)) :: ·)
  | _ :: _, [] => none

structure Route where
  method : String
  parts : List Part
  answer : Request → List String → Answering Json
  hasHead : Bool

def Route.takes (route : Route) (method : String) : Bool :=
  route.method == method || (route.hasHead && method == "HEAD")

/-- A path as written: a star stands for a name and two stars for any number of names. -/
def partsOf (path : String) : List Part :=
  ((Text.splitOnChar '/' path.toList).drop 1).map fun s =>
    if s == ['*'] then .param else if s == ['*', '*'] then .rest else .word (String.ofList s)

def fixed (method path : String) (answer : Request → Answering Json) : Route :=
  ⟨method, partsOf path, fun r _ => answer r, false⟩

def withId (method path : String) (answer : Request → String → Answering Json) : Route :=
  ⟨method, partsOf path, fun r args => answer r (args.headD ""), false⟩

def withFile (method path : String) (answer : String → String → Answering Json) : Route :=
  ⟨method, partsOf path, fun _ args => answer (args.headD "") ((args.drop 1).headD ""), false⟩

def page (path : String) : Route := ⟨"GET", partsOf path, fun _ _ => elsewhere, true⟩

def routes : List Route := [
  page "/openapi.json",
  page "/docs",
  page "/docs/oauth2-redirect",
  page "/redoc",
  fixed "POST" "/api/upload" upload,
  fixed "GET" "/api/upload/status" fun _ => uploadStatus,
  fixed "GET" "/api/repositories" listRepositories,
  fixed "GET" "/api/repositories/import" fun _ => importPlace,
  withId "GET" "/api/repositories/*" fun _ => getRepository,
  withId "GET" "/api/repositories/*/files" listFiles,
  withFile "GET" "/api/repositories/*/files/**/content" fileContent,
  withId "GET" "/api/repositories/*/symbols" listSymbols,
  fixed "POST" "/api/search/semantic" semanticSearch,
  withId "GET" "/api/search/similar/*" similarSymbols,
  fixed "GET" "/api/search/stats" fun _ => searchStats,
  withId "GET" "/api/recommendations/similiar/*" similarCode,
  fixed "GET" "/api/recommendations/complex-functions" complexFunctions,
  fixed "GET" "/api/recommendations/quality-dashboard" dashboard,
  fixed "GET" "/api/recommendations/low-maintainability" hardFunctions,
  fixed "POST" "/api/github/validate" validateAddress,
  fixed "POST" "/api/github/import" importNew,
  fixed "GET" "/api/github/repositories" listHosted,
  withId "GET" "/api/github/repositories/*" fun _ => getHosted,
  withId "DELETE" "/api/github/repositories/*" fun _ => removeHosted,
  fixed "GET" "/api/github/stats" fun _ => hostedStats,
  withId "GET" "/api/call-graph/repositories/*/call-graph" fun _ => callGraph,
  withId "GET" "/api/call-graph/repositories/*/stats" fun _ => callStats,
  withId "GET" "/api/call-graph/repositories/*/dependencies" fun _ => dependencies,
  withId "GET" "/api/call-graph/repositories/*/dead-code" fun _ => deadCode,
  withId "GET" "/api/call-graph/repositories/*/circular-deps" fun _ => circularCalls,
  withId "POST" "/api/security/repositories/*/scan" fun _ => scanSecurity,
  withId "GET" "/api/security/repositories/*/vulnerabilities" listVulnerabilities,
  withId "GET" "/api/security/repositories/*/security-stats" fun _ => securityStats,
  fixed "POST" "/api/ai/explain" explain,
  fixed "POST" "/api/ai/translate" convert,
  fixed "POST" "/api/ai/refactor" refactor,
  fixed "POST" "/api/ai/generate" generate,
  fixed "POST" "/api/ai/autocomplete" complete,
  fixed "GET" "/api/ai/status" fun _ => assistantStatus,
  fixed "POST" "/api/chat/ask" ask,
  withId "GET" "/api/chat/repositories/*/context" fun _ => context,
  withId "POST" "/api/analysis/duplications/*" fun _ => startDuplications,
  withId "GET" "/api/analysis/duplications/*" listDuplications,
  withId "POST" "/api/analysis/code-smells/*" fun _ => startSmells,
  withId "GET" "/api/analysis/code-smells/*" listSmells,
  withId "GET" "/api/analysis/undocumented/*" listUndocumented,
  withId "POST" "/api/analysis/auto-document/*" autoDocument,
  withId "POST" "/api/analysis/metrics/*/snapshot" fun _ => createSnapshot,
  withId "GET" "/api/analysis/metrics/*/history" history,
  withId "POST" "/api/analysis/full-scan/*" fun _ => fullScan,
  fixed "GET" "/metrics" fun _ => elsewhere,
  fixed "POST" "/api/cicd/webhook/github" githubWebhook,
  fixed "POST" "/api/cicd/webhook.gitlab" gitlabWebhook,
  withId "GET" "/api/cicd/quality-gate/*" fun _ => getGate,
  withId "PUT" "/api/cicd/quality-gate/*" setGate,
  withId "POST" "/api/cicd/quality-gate/*/check" fun _ => checkByHand,
  withId "GET" "/api/cicd/report/*" fun _ => report,
  withId "GET" "/api/cicd/runs/*" listRuns,
  fixed "POST" "/api/cicd/notify/slack" notifyChat,
  fixed "POST" "/api/cicd/notify/email" notifyMail,
  fixed "GET" "/" fun _ => root,
  fixed "GET" "/health" fun _ => health,
  fixed "GET" "/config" fun _ => config]

def places (path : List Char) : List (Route × List String) :=
  let names := (Text.splitOnChar '/' path).drop 1
  routes.filterMap fun route => (fit route.parts names).map fun args => (route, args)

def otherSpelling (path : List Char) : List Char :=
  if path.getLast? == some '/' then Text.stripRightBy (· == '/') path else path ++ ['/']

/-- The path under which a request is answered: as it is written or, if no place fits, in its other spelling. -/
def servedPath (path : List Char) : List Char :=
  if !(places path).isEmpty || path == ['/'] then path
  else
    let other := otherSpelling path
    if (places other).isEmpty then path else other

def foreignMethods : List String := ["DELETE", "GET", "HEAD", "OPTIONS", "PATCH", "POST", "PUT"]

/-- The answer to a page of another origin that asks whether it may send a request; `none` if the request is no such
question. -/
def permission? (r : Request) : Option Response := do
  let _ ← r.header? "origin"
  let method ← (r.header? "access-control-request-method").filter fun _ => r.method == "OPTIONS"
  return if foreignMethods.contains method then ⟨200, some (.str "OK")⟩ else ⟨400, some (.str "Disallowed CORS method")⟩

def answer (r : Request) : Work Response := do
  let (path, more) := Address.split r.path
  let r := { r with query := more ++ r.query }
  let all := places (servedPath (Address.unescape (Address.direct path)))
  match all.find? fun p => p.1.takes r.method with
  | some (route, args) => return Response.ofResult (← (route.answer r args).run)
  | none =>
    return if all.isEmpty then ⟨404, some (.obj [("detail", .str "Not Found")])⟩
      else ⟨405, some (.obj [("detail", .str "Method Not Allowed")])⟩

end CodeSurvey.Api

namespace CodeSurvey

/-- Answers a request. Where only the head is asked for, the body is empty. -/
def respond (r : Request) : Work Response := do
  match Api.permission? r with
  | some response => return response
  | none =>
    let response ← Api.answer r
    return if r.method == "HEAD" then { response with body := response.body.map fun _ => .str "" } else response

end CodeSurvey
