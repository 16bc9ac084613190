/-
Repositories that come from GitHub.
-/
import CodeSurvey.Api.Upload
import CodeSurvey.Store.Record
import CodeSurvey.Task.Import

namespace CodeSurvey.Api

def validateAddress (r : Request) : Answering Json := do
  let url ← shaped (r.param? "url")
  match GitHub.Address.find? url.toList with
  | none => throw (.refused 400 GitHub.CheckError.noAddress.message)
  | some a =>
    let shared := (← Answering.settings).githubToken
    match ← Answering.doing (Service.withWeb (GitHub.check shared url)) with
    | .error e => throw (.refused 400 e.message)
    | .ok () =>
      return .obj [("valid", .bool true), ("owner", .str (String.ofList a.owner)),
        ("repo", .str (String.ofList a.name)), ("branch", .str (String.ofList a.branch)), ("url", .str url),
        ("error", .null)]

end CodeSurvey.Api

namespace CodeSurvey

def Store.imported? (s : Store) (url branch : String) : Option RepositoryRow :=
  s.repositories.find? fun r => r.githubUrl == some url && r.githubBranch == some branch

def RepositoryRow.ordered (order : ImportOrder) (owner name : String) : Id → Moment → RepositoryRow := fun id now =>
  { RepositoryRow.blank (owner ++ "/" ++ name) id now with
    source := .github
    githubUrl := some order.url
    githubOwner := some owner
    githubRepo := some name
    githubBranch := some order.branch }

end CodeSurvey

namespace CodeSurvey.Api

def importOrder (j : Json) : Except Fault ImportOrder := do
  return ⟨← j.needField "url" Json.looseText, ← j.defaultField "branch" Json.looseText "main",
    ← j.optField "token" Json.looseText⟩

def importOrdered (order : ImportOrder) (owner name : String) : Answering Json := do
  let s ← Answering.store
  if let some row := s.imported? order.url order.branch then
    throw (.refused 409 ("Repository already imported: " ++ row.id.text))
  let id := s.nextId
  Answering.commit fun t => t.addRepository (RepositoryRow.ordered order owner name)
  let _ ← Answering.doing (importRepository id order)
  return .obj [("repository_id", id.json), ("owner", .str owner), ("repo", .str name), ("branch", .str order.branch),
    ("status", .str "processing"), ("task_id", .str "<id>"),
    ("message", .str ("Importing " ++ owner ++ "/" ++ name ++ " in background"))]

def importNew (r : Request) : Answering Json := do
  let order ← accepted (importOrder (← r.record))
  match GitHub.readWeb order.url.toList with
  | .error e => throw (.refused 400 e.message)
  | .ok (owner, name) => importOrdered order (String.ofList owner) (String.ofList name)

def hostedRecord (r : RepositoryRow) : Except Fault Json := do
  let stars ← if r.githubStars.isNull then pure Json.null else r.githubStars.looseInt.map Json.int
  return .obj [("id", r.id.json), ("name", .str r.name), ("owner", .str (r.githubOwner.getD "")),
    ("repo", .str (r.githubRepo.getD "")), ("github_url", .str (r.githubUrl.getD "")),
    ("branch", .str ((r.githubBranch.filter fun b => !b.isEmpty).getD "main")), ("status", .str r.status.name),
    ("file_count", .int r.fileCount), ("symbol_count", .int r.symbolCount), ("github_stars", stars),
    ("github_language", .ofText? r.githubLanguage), ("created_at", Moment.mark (some r.created))]

def hosted (s : Store) : List RepositoryRow := s.repositories.filter (·.githubUrl.isSome)

def listHosted (r : Request) : Answering Json := do
  let limit ← r.limit "limit" 50 (some 100)
  let offset ← r.limit "offset" 0 none
  if offset < 0 then throw .malformed
  let offset ← Request.rowCount offset
  let limit ← Request.rowCount limit
  let rows := limited limit ((latestFirst (·.created) (hosted (← Answering.store))).drop offset.toNat)
  return .obj [("repositories", .arr (← unbroken (rows.mapM hostedRecord)))]

def hostedNamed (id : String) : Answering RepositoryRow := do
  let rows := hosted (← Answering.store)
  found "GitHub repository not found" ((Id.ofRegular? id).bind fun i => rows.find? (·.id == i))

def getHosted (id : String) : Answering Json := do unbroken (hostedRecord (← hostedNamed id))

def removeHosted (id : String) : Answering Json := do
  let row ← hostedNamed id
  let v ← get
  if !v.store.isFree v.database.bindsFindings row.id then throw (.broken .badValue)
  Answering.commit fun s => s.removeRepository row.id
  return .obj [("message", .str ("Repository " ++ id ++ " deleted successfully"))]

def hostedStats : Answering Json := do
  let rows := hosted (← Answering.store)
  let count (status : RepoStatus) : Int := (rows.filter (·.status == status)).length
  return .obj [("total_repositories", .int rows.length), ("completed", .int (count .completed)),
    ("failed", .int (count .failed)), ("processing", .int (rows.length - count .completed - count .failed)),
    ("total_files", .int (intTotal (rows.map (·.fileCount)))),
    ("total_symbols", .int (intTotal (rows.map (·.symbolCount))))]

end CodeSurvey.Api
