/-
Scenarios: a service is led through steps, each of which has an outcome. Rows may be given labels, by which they can be
named afterwards.
-/
import CodeSurvey.Api.Route
import CodeSurvey.Store.Entry
import CodeSurvey.Task.Ingest

namespace CodeSurvey

/-- Labels of rows with the written form of the rows' identifiers, the latest first. -/
abbrev Labels := List (String × String)

structure Script where
  ai : Option (List AiReply) := none
  web : Option (List WebReply) := none
  git : Option (List GitReply) := none
  chat : Option WebReply := none
  vectors : Option VectorRows := none

def Script.apply (script : Script) (s : Service) : Service :=
  { s with
    ai := (script.ai.map fun l => { s.ai with replies := l }).getD s.ai
    web := (script.web.map fun l => { s.web with replies := l }).getD s.web
    git := (script.git.map fun l => { s.git with replies := l }).getD s.git
    chat := script.chat.getD s.chat
    vectors := script.vectors.getD s.vectors }

inductive Step where
  | add (table : Table) (label : Option String) (row : Json)
  | write (path : List Char) (bytes : List UInt8)
  | set (change : Settings → Settings)
  | script (script : Script)
  | request (r : Request) (label : Option String) (statusOnly : Bool)
  | parse (repository : String) (archive : Option Archive) (trees : List (String × SyntaxTree))
  | extractCalls (repository : String)
  | embed (repository : String)
  | importFrom (repository : String) (order : ImportOrder)
  | parseFile (file : Option String) (name : String) (bytes : Option (List UInt8))
  | ingest (directory : List Char) (files : Archive) (name : Option String)
  | summaries (table : Table)
  | startup
  | dump (table : Table)

inductive Outcome where
  | noted (word : String)
  | response (r : Response) (statusOnly : Bool)
  | result (r : Except TaskError Json)
  | rows (l : List Json)
  | tables (names : List String)

structure Scenario where
  service : Service
  /-- The path of the directory in which the scenario keeps its files. -/
  directory : String
  labels : Labels := []

namespace Scenario

def place (s : Scenario) (name : String) : List (List Char) := Path.resolve (s.directory ++ "/" ++ name).toList

/-- The identifier of a repository in a step. One that is not written in the regular form stands for no repository. -/
def repositoryId (s : String) : Id := (Id.ofRegular? s).getD ⟨0⟩

def namingFields : List String := ["repository_id", "run.id", "run_id", "id"]

def namedField? (body : Json) : Option String :=
  namingFields.findSome? fun key => (body.get? key).bind Json.asText?

def label (s : Scenario) (name : Option String) (id : Option String) : Scenario :=
  match name, id with
  | some n, some i => { s with labels := (n, i) :: s.labels }
  | _, _ => s

def lastAdded (before after : Store) (t : Table) : String :=
  if t == .call then toString before.nextCall
  else if before.issued < after.issued then before.nextId.text else ""

def doing {α : Type} (s : Scenario) (work : Work α) : α × Scenario :=
  let (a, v) := work.run s.service
  (a, { s with service := v })

def done (r : Json × Scenario) : Outcome × Scenario := (.result (.ok r.1), r.2)

def parse (repository : String) (archive : Option Archive)
    (trees : List (String × SyntaxTree)) : Work (Except TaskError Json) := do
  return (← parseRepository (repositoryId repository) archive trees).map (·.record repository)

def extractCalls (repository : String) : Work Json := do
  let (run, s) := (← Service.current).extractCalls (repositoryId repository)
  Service.commit fun _ => s
  return run.record repository

def embed (repository : String) : Work (Except TaskError Json) := do
  match ← embedRepository (repositoryId repository) with
  | .ok run => return .ok (run.record repository)
  | .error e => return .error (.fault e.fault)

def importFrom (repository : String) (order : ImportOrder) : Work (Except TaskError Json) := do
  let id := repositoryId repository
  match ← importRepository id order with
  | .ok run => return .ok (run.record (← Service.current) id repository order)
  | .error e => return .error e

def parseFile (file : Option String) (path : String) (bytes : Option (List UInt8)) : Work Json := do
  let n ← parseLargeFile (file.bind Id.ofRegular?) path.toList bytes none
  return .obj [("file_id", .ofText? file), ("file_path", .str path), ("symbols_extracted", .int n),
    ("status", .str "completed")]

def takeIn (place : List (List Char)) (files : Archive) (name : Option String) : Work Json := do
  modify fun s => { s with disk := (s.disk.unpack place files).2 }
  return (← ingest place name).json

def step (s : Scenario) : Step → Outcome × Scenario
  | .add table name row =>
    let before := s.service.store
    let after := before.enter table row
    let s := { s with service := { s.service with store := after } }
    (.noted "added", s.label name (some (lastAdded before after table)))
  | .write path bytes =>
    let disk := s.service.disk.write (s.place "disk" ++ Path.resolve path) bytes
    (.noted "written", { s with service := { s.service with disk := disk } })
  | .set change => (.noted "set", { s with service := { s.service with settings := change s.service.settings } })
  | .script script => (.noted "scripted", { s with service := script.apply s.service })
  | .request r name statusOnly =>
    let (response, s) := s.doing (respond r)
    (.response response statusOnly, s.label name (response.body.bind namedField?))
  | .parse repository archive trees =>
    let (r, s) := s.doing (parse repository archive trees)
    (.result r, s)
  | .extractCalls repository => done (s.doing (extractCalls repository))
  | .embed repository =>
    let (r, s) := s.doing (embed repository)
    (.result r, s)
  | .importFrom repository order =>
    let (r, s) := s.doing (importFrom repository order)
    (.result r, s)
  | .parseFile file name bytes => done (s.doing (parseFile file (s.directory ++ "/" ++ name) bytes))
  | .ingest directory files name => done (s.doing (takeIn (s.place "ingest" ++ Path.segments directory) files name))
  | .summaries table => (.rows (s.service.store.shown table), s)
  | .startup => (.tables ((Table.all.map Table.name).mergeSort fun a b => !(b < a)), s)
  | .dump table => (.rows (s.service.store.records table), s)

end Scenario

end CodeSurvey
