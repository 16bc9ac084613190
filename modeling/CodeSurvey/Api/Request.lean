/-
Requests to the service and its responses, and how the parts of a request are read.
-/
import CodeSurvey.Store.Column
import CodeSurvey.Task.Parse

namespace CodeSurvey

inductive Body where
  | empty
  | bytes (l : List UInt8)
  | upload (name : String) (files : Archive)

structure Request where
  method : String
  path : List Char
  query : List (String × String)
  headers : List (String × String)
  body : Body

structure Response where
  status : Nat
  body : Option Json

abbrev Answering (α : Type) := ExceptT Refusal (StateM Service) α

def shaped {α : Type} : Option α → Answering α
  | some a => pure a
  | none => throw .malformed

/-- Refuses a request with a value that is invalid, and comes to grief over one that cannot be worked on at all. -/
def accepted {α : Type} : Except Fault α → Answering α
  | .ok a => pure a
  | .error .invalid => throw .malformed
  | .error f => throw (.broken f)

def found {α : Type} (detail : String) : Option α → Answering α
  | some a => pure a
  | none => throw (.refused 404 detail)

def Answering.store : Answering Store := do return (← get).store

def Answering.settings : Answering Settings := do return (← get).settings

def Answering.commit (change : Store → Store) : Answering Unit := modify fun s => { s with store := change s.store }

def Answering.doing {α : Type} (work : Work α) : Answering α := ExceptT.lift work

def unbroken {α : Type} : Except Fault α → Answering α
  | .ok a => pure a
  | .error f => throw (.broken f)

namespace Request

/-- A header, whose name may be written in any case; of several of one name, the first counts. -/
def header? (r : Request) (name : String) : Option String :=
  (r.headers.find? fun h => h.1.map Char.toLower == name).map (·.2)

/-- A parameter of the query; of several of one name, the last counts. -/
def param? (r : Request) (key : String) : Option String := r.query.reverse.lookup key

def param {α : Type} (r : Request) (key : String) (read : List Char → Option α) (standard : α) : Answering α :=
  match r.param? key with
  | some s => shaped (read s.toList)
  | none => pure standard

def limit (r : Request) (key : String) (standard : Int) (most : Option Int) : Answering Int := do
  let n ← r.param key Text.int? standard
  if most.any (· < n) then throw .malformed
  return n

def rowCount (n : Int) : Answering Int := if Column.isStorable n then pure n else throw (.broken .badValue)

/-- Is the body to be read as a value? It is if the header says so or says nothing. -/
def saysJson (r : Request) : Bool :=
  match (r.header? "content-type").getD "" with
  | "" => true
  | s =>
    let kind := Text.strip (Text.lower (s.toList.takeWhile (· != ';')))
    match Text.splitOnChar '/' kind with
    | [family, sort] =>
      String.ofList family == "application" && (String.ofList sort == "json" || Text.endsWith "+json".toList sort)
    | _ => false

/-- The value that bytes write. Bytes that are no text at all are told apart from those that are no JSON. -/
def valueOf (l : List UInt8) : Except (Option Json.ParseError) Json :=
  match CodePoint.decode? l with
  | none => .error none
  | some t => (Json.parseCodes t).mapError some

def record (r : Request) : Answering Json :=
  match r.body with
  | .bytes l =>
    if !r.saysJson then throw .malformed
    else match valueOf l with
      | .ok j => accepted j.looseRecord
      | .error e =>
        throw (if e.all (·.complaint.isLimit) then .refused 400 "There was an error parsing the body" else .malformed)
  | _ => throw .malformed

def value (r : Request) : Answering Json :=
  match r.body with
  | .bytes l =>
    match valueOf l with
    | .ok j => pure j
    | .error _ => throw (.broken .badValue)
  | _ => throw (.broken .badValue)

end Request

def idInPath (t : String) : Answering Id := shaped (Id.ofText? t.toList)

def repositoryNamed (t : String) : Answering RepositoryRow := do
  found "Repository not found" ((Id.ofRegular? t).bind (← Answering.store).repository?)

def repositoryOf (id : Id) : Answering RepositoryRow := do
  found "Repository not found" ((← Answering.store).repository? id)

/-- The response to a request that has been worked on. -/
def Response.ofResult : Except Refusal Json → Response
  | .ok body => if body.isSendable then ⟨200, some body⟩ else ⟨500, none⟩
  | .error (.refused status detail) => ⟨status, some (.obj [("detail", .str detail)])⟩
  | .error .malformed => ⟨422, none⟩
  | .error (.broken _) => ⟨500, none⟩

end CodeSurvey
