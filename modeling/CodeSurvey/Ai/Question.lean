/-
Questions about a code base: the rows found by vector search become the context of a conversation.
-/
import CodeSurvey.Ai.Basic
import CodeSurvey.Text.Piece

namespace CodeSurvey

abbrev VectorRows := Except String (List Json)

namespace VectorRow

def column (row : Json) (name : String) : Except Fault Json :=
  match row.get? name with
  | some v => .ok v
  | none => .error .noText

def intColumn (row : Json) (name : String) : Except Fault Int := do
  match ← column row name with
  | .int n => return n
  | .bool b => return if b then 1 else 0
  | _ => throw .wrongType

def floatColumn (row : Json) (name : String) : Except Fault Float := do
  match ← column row name with
  | .float x => return x
  | .int n => return Decimal.ofInt n
  | .bool b => return if b then 1 else 0
  | .str s =>
    match Text.float? s.toList with
    | some x => return x
    | none => throw .badValue
  | _ => throw .wrongType

end VectorRow

namespace Question

open VectorRow

structure Source where
  file : Json
  symbol : Json
  kind : Json
  lines : String
  similarity : Float

/-- The lines shown before and after a symbol. -/
def reach : Int := 50

def contextOf (row : Json) : Except Fault (Option (String × Source)) := do
  let source ← column row "source"
  if !source.truthy then return none
  let ls ← match source with
    | .str s => pure (Text.lines s.toList)
    | _ => throw .noText
  let first ← intColumn row "line_start"
  let start := max 0 (first - reach)
  let ended ← column row "line_end"
  let last ← if ended.truthy then intColumn row "line_end" else pure first
  let stop := min (ls.length : Int) (last + reach)
  let segment := String.ofList (Text.unlines (Text.slice start stop ls))
  let file ← column row "file_path"
  let kind ← column row "type"
  let name ← column row "name"
  let similarity ← floatColumn row "similarity"
  let path := file.display
  let head := s!"\n--- FILE: {path} ({kind.display}: {name.display}) ---\n"
  let tail := s!"\n--- END OF CONTEXT FROM {path} ---\n"
  return some (head ++ segment ++ "\n" ++ tail, ⟨file, name, kind, s!"{start}-{stop}", Decimal.roundTo 2 similarity⟩)

def role : String :=
  String.intercalate "\n" [
    "You are an expert software architect analyzing a codebase.",
    "",
    "Rules:",
    "- Answer questions based ONLY on the provided code context",
    "- If the answer is not in the context, say \"I don't have enough context to answer that\"",
    "- Quote specific code lines when explaining logic",
    "- Be concise but thorough",
    "- Suggest related areas to explore if applicable",
    ""]

def prompt (context question : String) : String := s!"Code Context:\n{context}\n\nQuestion: {question}\n"

def nothingFound : String :=
  "I couldn't find any relevant code in this repository to answer your question. " ++
    "Try being more specific about function names or logic."

structure Answer where
  text : String
  sources : List Source

structure Outcome where
  vector : Option String
  result : Except Refusal Answer

def answerFrom (rows : List Json) (question : String) (history : List (String × String)) :
    StateM AiService (Except Refusal Answer) := do
  if rows.isEmpty then return .ok ⟨nothingFound, []⟩
  match rows.mapM contextOf with
  | .error f => return .error (.broken f)
  | .ok contexts =>
    let found := contexts.filterMap id
    let context := String.join (found.map (·.1))
    let messages := [("system", role)] ++ Text.slice (-4) history.length history ++ [("user", prompt context question)]
    match ← (AiService.chat "gpt-4o-mini" 0.2 2000 messages).run with
    | .ok (some text) => return .ok ⟨text, found.map (·.2)⟩
    | _ => return .error (.refused 500 "Failed to generate answer from AI")

def ask (hasChat hasClient : Bool) (model : String) (rows : VectorRows) (question : String)
    (history : List (String × String)) :
    StateM AiService Outcome := do
  if !hasChat then return ⟨none, .error (.refused 503 "OpenAI API key not configured")⟩
  match ← (Embedding.one hasClient model question.toList).run with
  | .error e => return ⟨none, .error (.refused 500 ("Embedding generation failed: " ++ e.message))⟩
  | .ok vector =>
    match rows with
    | .error m => return ⟨none, .error (.refused 500 ("Vector search failed: " ++ m))⟩
    | .ok rows => return ⟨some (Embedding.vectorText vector), ← answerFrom rows question history⟩

end Question

end CodeSurvey
