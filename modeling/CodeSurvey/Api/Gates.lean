/-
Quality gates: their limits, checks by hand and by the webhooks of code hosts, and notices about them.
-/
import CodeSurvey.Api.Chat
import CodeSurvey.Gate.Check

namespace CodeSurvey.Api

/-! ## Limits -/

def gateRecord (g : GateRow) : Json :=
  .obj ([("id", g.id.json), ("repository_id", g.repositoryId.json)] ++ g.limits.fields)

def gateOf (id : Id) : Answering GateRow := do
  Answering.commit fun s => s.ensureGate id
  found "Quality gate not found" ((← Answering.store).gate? id)

def getGate (id : String) : Answering Json := do return gateRecord (← gateOf (← idInPath id))

def readLimits (j : Json) : Except Fault GateLimits := do
  let standard : GateLimits := {}
  let count (key : String) := j.defaultField key fun v => v.looseInt.map some
  let amount (key : String) := j.defaultField key fun v => v.looseFloat.map Column.double?
  return {
    complexity := ← count "max_complexity" standard.complexity
    smells := ← count "max_code_smells" standard.smells
    criticalSmells := ← count "max_critical_smells" standard.criticalSmells
    vulnerabilities := ← count "max_vulnerabilities" standard.vulnerabilities
    criticalVulnerabilities := ← count "max_critical_vulnerabilities" standard.criticalVulnerabilities
    qualityScore := ← amount "min_quality_score" standard.qualityScore
    duplicationPercentage := ← amount "max_duplication_percentage" standard.duplicationPercentage
    blocks := ← j.defaultField "block_on_failure" (fun v => v.looseBool.map some) standard.blocks }

def areStorable (d : Database) (l : GateLimits) : Bool :=
  [l.complexity, l.smells, l.criticalSmells, l.vulnerabilities, l.criticalVulnerabilities].all fun n => n.all d.holds

def setGate (r : Request) (id : String) : Answering Json := do
  let limits ← accepted (readLimits (← r.record))
  let id ← idInPath id
  let _ ← gateOf id
  if !areStorable (← get).database limits then throw (.broken .badValue)
  Answering.commit fun s => s.updateGate id fun _ => limits
  return gateRecord (← gateOf id)

/-! ## Runs -/

def checkGate (id : Id) : Answering Gate.Result := do
  let _ ← gateOf id
  match (← Answering.store).checkGate id with
  | some result => return result
  | none => throw (.broken .wrongType)

def startRun (repository : Id) (request : Store.RunRequest) : Answering Id := do
  let run := (← Answering.store).nextId
  Answering.commit fun s => s.startRun repository request
  return run

def completeRun (row : RepositoryRow) (run : Id) (result : Gate.Result) : Answering Unit := do
  let page := result.page (← get).today row.name
  Answering.commit fun s => s.completeRun run result page

def runGate (row : RepositoryRow) (request : Store.RunRequest) : Answering (Id × Gate.Result) := do
  let run ← startRun row.id request
  let result ← checkGate row.id
  completeRun row run result
  return (run, result)

/-- Checks a repository by hand. The run is started when the check is done. -/
def checkByHand (id : String) : Answering Json := do
  let row ← repositoryOf (← idInPath id)
  let result ← checkGate row.id
  let run ← startRun row.id { trigger := "manual", status := "runnning" }
  completeRun row run result
  return .obj (result.fields ++ [("run.id", run.json)])

def report (id : String) : Answering Json := do
  let id ← idInPath id
  let run ← found "Report not found" ((← Answering.store).run? id)
  return .str (← found "Report not found" (run.report.filter fun p => !p.isEmpty))

def runRecord (r : RunRow) : Json :=
  .obj ([("id", r.id.json), ("created_at", Moment.mark (some r.created))] ++ r.record.fields?.getD [])

def listRuns (r : Request) (id : String) : Answering Json := do
  let id ← idInPath id
  let limit ← Request.rowCount (← r.limit "limit" 20 none)
  return .arr ((limited limit (latestFirst (·.created) ((← Answering.store).runsOf id))).map runRecord)

/-! ## Webhooks -/

def payloadField (j : Json) (key : String) (standard : Json) : Answering Json :=
  match j with
  | .obj _ => pure ((j.get? key).getD standard)
  | _ => throw (.broken .noText)

def storable {α : Type} (kept : Option α) : Answering α := unbroken (kept.elim (.error .badValue) .ok)

def trackedRepository (s : Store) (fullName : String) : Option RepositoryRow :=
  let t := fullName.toList
  let (owner, name) := if t.contains '/' then (t.takeWhile (· != '/'), (t.dropWhile (· != '/')).drop 1) else ([], t)
  s.repositories.find? fun r => r.githubOwner == some (String.ofList owner) && r.githubRepo == some (String.ofList name)

def signature (secret : String) (l : List UInt8) : String :=
  "sha256=" ++ Digest.hexText (Digest.Sha256.hmac (Text.Utf8.encode secret.toList) l)

def bodyBytes (r : Request) : List UInt8 :=
  match r.body with
  | .bytes l => l
  | _ => []

/-- Refuses a request whose signature is not that of its body. Without a secret every request passes. -/
def checkSignature (secret : Option String) (r : Request) : Answering Unit := do
  match secret.filter fun s => !s.isEmpty with
  | none => return ()
  | some key =>
    let given := (r.header? "x-hub-signature-256").getD ""
    if given.toList.any fun c => 127 < c.toNat then throw (.broken .wrongType)
    if given != signature key (bodyBytes r) then throw (.refused 401 "Invalid signature")

/-- Refuses a request that does not show the token. Without a token every request passes. -/
def checkToken (token : Option String) (r : Request) : Answering Unit :=
  if Settings.isGiven token && r.header? "x-gitlab-token" != token then
    throw (.refused 401 "Invalid GitLab token") else pure ()

def fullName (j : Json) : Answering String :=
  match j with
  | .str s => pure s
  | _ => throw (.broken .wrongType)

def notTracked : Json := .obj [("status", .str "skipped"), ("reason", .str "repository not tracked")]

def completed (run : Id) (result : Gate.Result) : List (String × Json) :=
  [("status", .str "completed"), ("run_id", run.json), ("quality_gate", .bool result.passed),
    ("block_merge", .bool result.blocksMerge)]

/-- Runs the gate of the repository with a full name, if it is known, as `request` asks for; `more` is added to the
answer. -/
def runTracked (fullName : String) (request : Answering Store.RunRequest) (more : Gate.Result → List (String × Json)) :
    Answering Json := do
  match trackedRepository (← Answering.store) fullName with
  | none => return notTracked
  | some row =>
    let (run, result) ← runGate row (← request)
    return .obj (completed run result ++ more result)

def branchWidth : Nat := 255

def commitWidth : Nat := 40

def titleWidth : Nat := 500

def pullActions : List String := ["opened", "synchronize", "reopened"]

def isOneOf (words : List String) : Json → Bool
  | .str s => words.contains s
  | _ => false

def pullRequest (d : Database) (pull : Json) : Answering Store.RunRequest := do
  let head ← payloadField pull "head" (.obj [])
  return {
    trigger := "github"
    branch := ← storable (d.text? branchWidth (← payloadField head "ref" .null))
    commit := ← storable (d.text? commitWidth (← payloadField head "sha" .null))
    pullNumber := ← storable (d.whole? (← payloadField pull "number" .null))
    pullTitle := ← storable (d.text? titleWidth (← payloadField pull "title" .null)) }

def githubWebhook (r : Request) : Answering Json := do
  checkSignature (← Answering.settings).githubWebhookSecret r
  let event := r.header? "x-github-event"
  if event != some "pull_request" then return .obj [("status", .str "ignored"), ("event", .ofText? event)]
  let payload ← r.value
  let action ← payloadField payload "action" (.str "")
  if !isOneOf pullActions action then return .obj [("status", .str "ignored"), ("action", action)]
  let pull ← payloadField payload "pull_request" (.obj [])
  let name ← fullName (← payloadField (← payloadField payload "repository" (.obj [])) "full_name" (.str ""))
  runTracked name (pullRequest (← get).database pull) fun result => [("summary", .str result.summary)]

def mergeActions : List String := ["open", "update", "reopen"]

def mergeRequest (d : Database) (merge : Json) : Answering Store.RunRequest := do
  let branch ← payloadField merge "source_branch" .null
  let last ← payloadField merge "last_commit" .null
  let commit ← if last.truthy then payloadField last "id" .null else pure .null
  return {
    trigger := "gitlab"
    branch := ← storable (d.text? branchWidth branch)
    commit := ← storable (d.text? commitWidth commit)
    pullNumber := ← storable (d.whole? (← payloadField merge "iid" .null))
    pullTitle := ← storable (d.text? titleWidth (← payloadField merge "title" .null)) }

def gitlabWebhook (r : Request) : Answering Json := do
  checkToken (← Answering.settings).gitlabWebhookToken r
  let event := r.header? "x-gitlab-event"
  if event != some "Merge Request Hook" then return .obj [("status", .str "ignored"), ("event", .ofText? event)]
  let payload ← r.value
  let merge ← payloadField payload "object_attributes" (.obj [])
  let action ← payloadField merge "action" .null
  if !isOneOf mergeActions action then return .obj [("status", .str "ignored"), ("action", action)]
  let name ← fullName (← payloadField (← payloadField payload "project" (.obj [])) "path_with_namespace" (.str ""))
  runTracked name (mergeRequest (← get).database merge) fun _ => []

/-! ## Notices -/

def noticeRecord (sent : Bool) (result : Gate.Result) : Json :=
  .obj [("sent", .bool sent), ("quality_gate", .bool result.passed)]

def notifyChat (r : Request) : Answering Json := do
  let body ← r.record
  let id ← accepted (idInBody body "repository_id")
  let url ← accepted (body.needField "webhook_url" Json.looseText)
  let link ← accepted (body.optField "run_url" Json.looseText)
  let row ← repositoryOf id
  let result ← checkGate id
  let sent ← Answering.doing (Service.post (Gate.chatPost url row.name result.passed result.lines link))
  return noticeRecord sent result

def notifyMail (r : Request) : Answering Json := do
  let body ← r.record
  let id ← accepted (idInBody body "repository_id")
  let recipient ← accepted (body.needField "to_email" Json.looseText)
  let row ← repositoryOf id
  let result ← checkGate id
  let s ← get
  if !Gate.canMail s.settings then return noticeRecord false result
  let mail := Gate.mail s.settings recipient row.name result.passed result.lines (some (result.page s.today row.name))
  return noticeRecord (← Answering.doing (Service.send mail)) result

end CodeSurvey.Api
