/-
Importing a repository from GitHub: what is known of it is asked for, a branch is fetched, and the files are read.
-/
import CodeSurvey.Store.Column
import CodeSurvey.Task.Parse

namespace CodeSurvey

structure ImportOrder where
  url : String
  branch : String
  token : Option String
deriving DecidableEq

inductive ImportRun where
  | unknown
  | done (branch owner name : String) (files : Nat)

def gitDirectory : String := ".git/"

def workFiles (files : Archive) : Archive := files.filter fun f => !f.1.startsWith gitDirectory

def plainFiles (files : Archive) : Archive := files.filter fun f => (Path.baseName f.1.toList).head? != some '.'

/-- Keeps what GitHub knows of a repository; `none` if a value has no place in its column. -/
def Store.keepMetadata? (s : Store) (repository : Id) (m : GitHub.Metadata) : Option Store :=
  if !(Column.fits m.stars && Column.fits m.language) then none
  else
    match Column.whole? m.stars, Column.text? m.language with
    | some stars, some language =>
      some (s.updateRepository repository fun r => { r with githubStars := stars, githubLanguage := language })
    | _, _ => none

def importPath (s : Settings) (repository : Id) : String := s.uploadPath (repository.text ++ "_github.zip")

def learn (repository : Id) (token : Option String) (owner name : String) : Work Bool := do
  let shared := (← get).settings.githubToken
  match ← Service.withWeb (GitHub.metadata shared token owner name) with
  | none => return true
  | some m =>
    match (← Service.current).keepMetadata? repository m with
    | some s =>
      Service.commit fun _ => s
      return true
    | none => return false

/-- The name of the directory into which a repository is fetched, up to the eight characters that make it unique. -/
def fetchDirectory (owner name : String) : String := "github_" ++ owner ++ "_" ++ name ++ "_"

def fetchAndParse (repository : Id) (order : ImportOrder)
    (owner name : String) : Work (Except TaskError ImportRun) := do
  let settings := (← get).settings
  if Disk.isTooLong ((fetchDirectory owner name).toList ++ List.replicate 8 'x') then
    Service.commit fun s => s.setStatus repository .failed
    return .error .nameTooLong
  let token := GitHub.chooseToken order.token settings.githubToken
  let fetched ← Service.withGit (GitHub.fetch (GitHub.cloneUrl token owner name) order.branch 300)
  match fetched.problem with
  | some problem =>
    Service.commit fun s => s.setStatus repository .failed
    return .error (.fetchFailed ("Git clone failed: " ++ problem))
  | none =>
    if fetched.files.any fun f => f.1 ++ "/" == gitDirectory then
      Service.commit fun s => s.setStatus repository .failed
      return .error .notDirectory
    let files := workFiles fetched.files
    Service.commit fun s =>
      s.updateRepository repository fun r => { r with uploadPath := some (importPath settings repository) }
    let _ ← parseRepository repository (some files) []
    return .ok (.done fetched.branch owner name (plainFiles files).length)

def importRepository (repository : Id) (order : ImportOrder) : Work (Except TaskError ImportRun) := do
  if ((← Service.current).repository? repository).isNone then return .ok .unknown
  Service.commit fun s => s.updateRepository repository fun r => { r with status := .processing, source := .github }
  match GitHub.readWeb order.url.toList with
  | .error _ =>
    Service.commit fun s => s.setStatus repository .failed
    return .error (.fault .badValue)
  | .ok (owner, name) =>
    let owner := String.ofList owner
    let name := String.ofList name
    if ← learn repository order.token owner name then fetchAndParse repository order owner name
    else return .error .unsettled

def ImportRun.record (s : Store) (repository : Id) (given : String) (order : ImportOrder) : ImportRun → Json
  | unknown => .obj [("error", .str "Repository not found"), ("repository_id", .str given)]
  | done branch owner name files =>
    let row := s.repository? repository
    .obj [("repository_id", .str given), ("github_url", .str order.url), ("branch", .str branch),
      ("requested_branch", .str order.branch), ("owner", .str owner), ("repo", .str name), ("status", .str "parsing"),
      ("parse_task_id", .str "<id>"), ("file_count", .int files), ("stars", (row.map (·.githubStars)).getD .null),
      ("language", .ofText? (row.bind (·.githubLanguage)))]

end CodeSurvey
