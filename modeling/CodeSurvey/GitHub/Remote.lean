/-
Repositories on GitHub. Their addresses are found by a lenient finder that looks for one anywhere at the end of a text,
and by a strict reader that takes web addresses only. GitHub's interface is asked whether a repository exists and what
is known of it. A repository is fetched by the branch that is asked for first, then by the usual ones.
-/
import CodeSurvey.Pattern
import CodeSurvey.Settings
import CodeSurvey.Text.Piece

/-! ## Addresses -/

namespace CodeSurvey.GitHub

structure Address where
  owner : List Char
  name : List Char
  branch : List Char
deriving DecidableEq

def isNamePart (c : Char) : Bool := Text.isWord c || c == '.' || c == '-'

def ending : List Char := ".git".toList

def dropEnding (t : List Char) : List Char :=
  if Text.endsWith ending t then t.dropLast.dropLast.dropLast.dropLast else t

/-- A name that has the ending loses all its last characters that occur in the ending. -/
def trimName (t : List Char) : List Char :=
  if Text.endsWith ending t then Text.stripRightBy ending.contains t else t

/-- An address at the end of a text: owner in group 1, name in group 2, branch in group 4. -/
def addressPattern : Pattern :=
  .lit "github.com" ++ .one (fun c => c == ':' || c == '/') ++ .group 1 (.plus isNamePart) ++ .lit "/" ++
    .group 2 (.lazyPlus isNamePart) ++ .optional (.lit ".git") ++
    .optional (.lit "/tree/" ++ .group 4 (.plus isNamePart)) ++ .optional (.lit "/") ++ .textEnd

def mainBranch : List Char := "main".toList

def Address.find? (t : List Char) : Option Address :=
  (addressPattern.search? t).map fun c =>
    ⟨c.group 1, dropEnding (c.group 2), (c.group? 4).getD mainBranch⟩

def webStart : List Char := "https://github.com/".toList

inductive AddressError where
  | otherSite
  | tooShort
  | emptyName
deriving DecidableEq

def AddressError.message : AddressError → String
  | .otherSite => "URL must start with https://github.com/"
  | .tooShort => "Invalid GitHub URL format. Expected: https://github.com/owner/repo"
  | .emptyName => "Owner and repository name cannot be empty"

def readWeb (t : List Char) : Except AddressError (List Char × List Char) :=
  if !Text.startsWith webStart t then .error .otherSite
  else
    let path := dropEnding (Text.stripRightBy (· == '/') (Text.replace webStart [] t))
    match Text.splitOnChar '/' path with
    | owner :: name :: _ =>
      let name := dropEnding name
      if owner.isEmpty || name.isEmpty then .error .emptyName else .ok (owner, name)
    | _ => .error .tooShort

end CodeSurvey.GitHub

/-! ## Questions -/

namespace CodeSurvey

inductive WebReply where
  | answer (status : Int) (headers : List (String × Json)) (body : Json)
  | timeout
  | failure (message : String)

structure WebRequest where
  url : String
  headers : List (String × String)
  timeout : Nat

/-- The web: the answers that lie ahead and the questions asked so far, the latest first. -/
structure WebService where
  replies : List WebReply
  requests : List WebRequest

/-- Asks the web. Beyond the answers that lie ahead, it answers with an empty record. -/
def WebService.ask (r : WebRequest) : StateM WebService WebReply := do
  let s ← get
  let s := { s with requests := r :: s.requests }
  match s.replies with
  | [] =>
    set s
    return .answer 200 [] (.obj [])
  | x :: rest =>
    set { s with replies := rest }
    return x

namespace GitHub

def chooseToken (own shared : Option String) : Option String :=
  if Settings.isGiven own then own else if Settings.isGiven shared then shared else none

def question (token : Option String) (owner name : String) (timeout : Nat) : WebRequest :=
  ⟨"https://api.github.com/repos/" ++ owner ++ "/" ++ name,
    (token.map fun t => ("Authorization", "token " ++ t)).toList, timeout⟩

inductive CheckError where
  | noAddress
  | notFound
  | rateLimit
  | closed
  | otherStatus (status : Int)
  | timeout
  | failure (message : String)

def CheckError.message : CheckError → String
  | noAddress => "Invalid GitHub URL format"
  | notFound => "Repository not found"
  | rateLimit => "GitHub API rate limit exceeded. Please add GITHUB_TOKEN to .env"
  | closed => "Private repository (token required)"
  | otherStatus n => "GitHub API error: " ++ toString n
  | timeout => "GitHub API timeout"
  | failure m => "Failed to validate: " ++ m

def judge : WebReply → Except CheckError Unit
  | .answer status headers _ =>
    if status == 404 then .error .notFound
    else if status == 403 then
      match (headers.lookup "X-RateLimit-Remaining").getD (.str "0") with
      | .str "0" => .error .rateLimit
      | _ => .error .closed
    else if status != 200 then .error (.otherStatus status)
    else .ok ()
  | .timeout => .error .timeout
  | .failure m => .error (.failure m)

def check (token : Option String) (url : String) : StateM WebService (Except CheckError Unit) :=
  match Address.find? url.toList with
  | none => return .error .noAddress
  | some a => do
    let r ← WebService.ask
      (question (chooseToken none token) (String.ofList a.owner) (String.ofList (trimName a.name)) 5)
    return judge r

structure Metadata where
  stars : Json
  branch : Json
  description : Json
  language : Json
  lastPush : Json

def Metadata.ofReply? : WebReply → Option Metadata
  | .answer status _ (.obj fields) =>
    if status ≥ 400 then none
    else
      let value (key : String) (standard : Json) : Json := ((Json.obj fields).get? key).getD standard
      some ⟨value "stargazers_count" (.int 0), value "default_branch" (.str "main"), value "description" (.str ""),
        value "language" (.str ""), value "pushed_at" (.str "")⟩
  | _ => none

def metadata (shared own : Option String) (owner name : String) : StateM WebService (Option Metadata) := do
  let r ← WebService.ask (question (chooseToken own shared) owner (String.ofList (trimName name.toList)) 10)
  return Metadata.ofReply? r

end GitHub

/-! ## Fetching -/

inductive GitReply where
  | done (code : Int) (out err : String) (files : List (String × List UInt8))
  | timeout
  | failure (message : String)

structure GitRun where
  branch : String
  url : String

/-- The version control program: the ends of the runs that lie ahead, and the runs so far, the latest first. -/
structure GitService where
  replies : List GitReply
  runs : List GitRun

/-- Runs the program. Beyond the ends that lie ahead, a run succeeds and writes nothing. -/
def GitService.run (r : GitRun) : StateM GitService GitReply := do
  let s ← get
  let s := { s with runs := r :: s.runs }
  match s.replies with
  | [] =>
    set s
    return .done 0 "" "" []
  | x :: rest =>
    set { s with replies := rest }
    return x

namespace GitHub

def cloneUrl (token : Option String) (owner name : String) : String :=
  match token with
  | some t => "https://" ++ t ++ "@github.com/" ++ owner ++ "/" ++ name ++ ".git"
  | none => "https://github.com/" ++ owner ++ "/" ++ name ++ ".git"

def branches (preferred : String) : List String := preferred :: ["main", "master", "develop"].filter (· != preferred)

structure Fetched where
  problem : Option String
  branch : String
  files : List (String × List UInt8)

def saysMissing (message : String) : Bool :=
  let low := Text.lower message.toList
  Text.contains "not found".toList low || Text.contains "does not exist".toList low

def overlay (old new : List (String × List UInt8)) : List (String × List UInt8) :=
  old.filter (fun f => !new.any (·.1 == f.1)) ++ new

/-- Tries the branches in turn. A missing branch or a failure to run leads to the next one; any other error ends the
search. -/
def tryBranches (url : String) (limit : Int) (all : List String) (lastError : String)
    (files : List (String × List UInt8)) :
    List String → StateM GitService Fetched
  | [] => return ⟨some ("Failed to clone any branch. Tried: " ++ ", ".intercalate all ++ ". Last error: " ++ lastError),
      all.headD "", files⟩
  | b :: rest => do
    match ← GitService.run ⟨b, url⟩ with
    | .done code out err new =>
      let files := overlay files new
      if code == 0 then return ⟨none, b, files⟩
      else
        let message := if err.isEmpty then out else err
        if saysMissing message then tryBranches url limit all message files rest
        else return ⟨some message, b, files⟩
    | .timeout => return ⟨some ("Git clone timed out after " ++ toString limit ++ " seconds"), b, files⟩
    | .failure m => tryBranches url limit all m files rest

def fetch (url preferred : String) (limit : Int) : StateM GitService Fetched :=
  tryBranches url limit (branches preferred) "None" [] (branches preferred)

structure Clone where
  url : String
  branch : String
  depth : Nat
  directory : String

def cloneOf (shared own : Option String) (owner name branch : String) (directory : Option String) : Clone :=
  let name := String.ofList (trimName name.toList)
  ⟨cloneUrl (chooseToken own shared) owner name, branch, 1,
    directory.getD ("/tmp/github_clone_" ++ owner ++ "_" ++ name)⟩

def shortCommit : Option String → String
  | some s => String.ofList (s.toList.take 7)
  | none => "unknown"

end GitHub

end CodeSurvey
