/-
The service: its settings, its store and its disk, and the partners outside that it talks to.
-/
import CodeSurvey.Ai.Question
import CodeSurvey.Disk
import CodeSurvey.Gate.Notice
import CodeSurvey.GitHub.Remote
import CodeSurvey.Store.Basic
import CodeSurvey.Store.Column

namespace CodeSurvey

structure Service where
  settings : Settings
  hasAi : Bool
  store : Store := {}
  disk : Disk := {}
  database : Database := .lenient
  ai : AiService
  web : WebService := ⟨[], []⟩
  git : GitService := ⟨[], []⟩
  vectors : VectorRows := .error ""
  chat : WebReply := .answer 200 [] (.obj [])
  /-- Does the mail server let the sender in? -/
  mailLogin : Settings → Bool
  today : String
  posts : List Gate.ChatPost := []
  mails : List Gate.Mail := []

abbrev Work (α : Type) := StateM Service α

namespace Service

def current : Work Store := do return (← get).store

def commit (change : Store → Store) : Work Unit := modify fun s => { s with store := change s.store }

def withAi {α : Type} (talk : StateM AiService α) : Work α :=
  modifyGet fun s =>
    let (a, ai) := talk.run s.ai
    (a, { s with ai := ai })

def withWeb {α : Type} (talk : StateM WebService α) : Work α :=
  modifyGet fun s =>
    let (a, web) := talk.run s.web
    (a, { s with web := web })

def withGit {α : Type} (talk : StateM GitService α) : Work α :=
  modifyGet fun s =>
    let (a, git) := talk.run s.git
    (a, { s with git := git })

def post (p : Gate.ChatPost) : Work Bool :=
  modifyGet fun s =>
    let taken := match s.chat with
      | .answer status _ _ => status == 200
      | _ => false
    (taken, { s with posts := p :: s.posts })

def send (m : Gate.Mail) : Work Bool :=
  modifyGet fun s => if s.mailLogin s.settings && m.isWritable then (true, { s with mails := m :: s.mails })
    else (false, s)

end Service

end CodeSurvey
