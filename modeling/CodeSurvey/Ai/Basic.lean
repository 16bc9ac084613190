/-
The language model service, as an outside partner: what it is asked, and what it answers. It makes vectors of texts: of
one text, of many texts in batches, and of the text that stands for a symbol; between two vectors there is an angle.
-/
import CodeSurvey.Json.Loose
import CodeSurvey.Json.Printer

namespace CodeSurvey

inductive AiReply where
  | text (content : Option String)
  | failure (message : String)

inductive AiCall where
  | chat (model : String) (temperature : Float) (maxTokens : Nat) (messages : List (String × String))
  | embedding (model : String) (texts : List (List Char))

/-- The service: the answers that lie ahead, the vector it gives to a text, and the requests made so far, the latest
first. -/
structure AiService where
  replies : List AiReply
  vectorOf : List Char → List Float
  calls : List AiCall

namespace AiService

abbrev Asking (α : Type) := ExceptT String (StateM AiService) α

/-- Continues a conversation. Beyond the answers that lie ahead, the service says "ok". -/
def chat (model : String) (temperature : Float) (maxTokens : Nat) (messages : List (String × String)) :
    Asking (Option String) := do
  let s ← get
  let s := { s with calls := .chat model temperature maxTokens messages :: s.calls }
  match s.replies with
  | [] =>
    set s
    return some "ok"
  | .text t :: r =>
    set { s with replies := r }
    return t
  | .failure m :: r =>
    set { s with replies := r }
    throw m

/-- Turns texts into vectors. The next answer decides only whether that fails. -/
def embed (model : String) (texts : List (List Char)) : Asking (List (List Float)) := do
  let s ← get
  let s := { s with calls := .embedding model texts :: s.calls }
  match s.replies with
  | .failure m :: r =>
    set { s with replies := r }
    throw m
  | l =>
    set { s with replies := l.tail }
    return texts.map s.vectorOf

end AiService

end CodeSurvey

namespace CodeSurvey.Embedding

inductive Error where
  | notConfigured
  | emptyText
  | service (message : String)
deriving DecidableEq

namespace Error

def message : Error → String
  | notConfigured => "OpenAI API key not configured"
  | emptyText => "Text cannot be empty"
  | service m => m

def fault : Error → Fault
  | service _ => .outside
  | _ => .badValue

end Error

abbrev Making (α : Type) := ExceptT Error (StateM AiService) α

def ask {α : Type} (a : AiService.Asking α) : Making α := do
  match ← a.run with
  | .ok x => return x
  | .error m => throw (.service m)

def batchSize : Nat := 2048

def textLimit : Nat := 8191 * 4

/-- The vector of a text. `hasClient` tells whether the service can be reached at all. -/
def one (hasClient : Bool) (model : String) (text : List Char) : Making (List Float) := do
  if !hasClient then throw .notConfigured
  if Text.isBlankText text then throw .emptyText
  let vectors ← ask (AiService.embed model [text])
  return vectors.head?.getD []

/-- A text made fit for a request: blank texts get a stand-in, long ones are cut. -/
def cleaned (text : Option (List Char)) : List Char :=
  match text with
  | some t => if Text.isBlankText t then "[empty]".toList else (Text.strip t).take textLimit
  | none => "[empty]".toList

def many (hasClient : Bool) (model : String) (texts : List (Option (List Char))) : Making (List (List Float)) := do
  if !hasClient then throw .notConfigured
  let vectors ← (chunks batchSize (texts.map cleaned)).mapM fun batch => ask (AiService.embed model batch)
  return vectors.flatten

def symbolText (name kind : String) (signature : Option String) : String :=
  match signature with
  | some s => if s.isEmpty then kind ++ ": " ++ name else kind ++ ": " ++ name ++ " | " ++ s
  | none => kind ++ ": " ++ name

def looseSymbolText (name kind signature : Json) : Except Fault String :=
  if !signature.truthy then .ok (symbolText name.display kind.display none)
  else match signature with
    | .str s => .ok (symbolText name.display kind.display (some s))
    | _ => .error .wrongType

def dot (a b : List Float) : Float := (List.zipWith (· * ·) a b).foldl (· + ·) 0

/-- The cosine of the angle between two vectors; zero if one of them has no length. -/
def cosine (a b : List Float) : Except Fault Float :=
  if a.length != b.length then .error .badValue
  else
    let m := (dot a a).sqrt
    let n := (dot b b).sqrt
    if m == 0 || n == 0 then .ok 0 else .ok (dot a b / (m * n))

/-- The cosine of the angle between two vectors as listed: their lengths are compared before their components are looked
at. -/
def looseCosine (a b : List Json) : Except Fault Float := do
  if a.length != b.length then throw .badValue
  cosine (← a.mapM Json.double) (← b.mapM Json.double)

def vectorText (v : List Float) : String := "[" ++ String.intercalate "," (v.map Decimal.floatText) ++ "]"

end CodeSurvey.Embedding
