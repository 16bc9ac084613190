/-
The coding assistant: code is explained, carried over to another language, improved, written and completed by the
language model, which answers with a record.
-/
import CodeSurvey.Api.Chat

namespace CodeSurvey.Assistant

structure Prompt where
  role : String
  text : String
  temperature : Float
  maxTokens : Nat := 2000

def model : String := "gpt-4o-mini"

def brace : String := "\x7b"

def endBrace : String := "\x7d"

def page (lines : List String) : String := "\n".intercalate (lines ++ [""])

/-! ## Prompts -/

def explainPrompt (language code : String) (context : Option String) : Prompt where
  role := "You are a senior software engineer explaining code to junior developers. Be clear and concise."
  temperature := 0.3
  text := page [
    "Explain this " ++ language ++ " code in simple terms:", "",
    "\x60\x60\x60" ++ language, code,
    ((context.filter fun c => !c.isEmpty).map fun c => "Context: " ++ c).getD "", "",
    "Provide:", "",
    "A clear explanation (2-3 sentences)", "",
    "Complexity assessment (Simple/Moderate/Complex)", "",
    "2-3 improvement suggestions (if any)", "",
    "Format as JSON:",
    brace,
    "\"explanation\": \"This function calculates...\",",
    "\"complexity\": \"Simple\",",
    "\"suggestions\": [\"Consider memoization\", \"Add input validation\"]",
    endBrace]

def conversionPrompt (source target code : String) (keepComments : Bool) : Prompt where
  role := "You are an expert polyglot programmer specializing in accurate code translation."
  temperature := 0.2
  text := page [
    "Translate this code from " ++ source ++ " to " ++ target ++ ".",
    "Source code (" ++ source ++ "): " ++ code,
    "Requirements:", "",
    "Preserve logic exactly", "",
    "Use idiomatic " ++ target ++ " patterns", "",
    if keepComments then "Keep comments" else "Remove comments", "",
    "Add brief migration notes if syntax differs significantly", "",
    "Return JSON:",
    brace,
    "\"translated_code\": \"... complete " ++ target ++ " code ...\",",
    "\"notes\": [\"Added header includes\", \"Changed loop syntax\"]",
    endBrace]

def refactorPrompt (language code focus : String) : Prompt where
  role := "You are a code refactoring expert focusing on " ++ focus ++ ". Suggest practical improvements."
  temperature := 0.3
  maxTokens := 3000
  text := page [
    "Refactor this " ++ language ++ " code focusing on " ++ focus ++ ".",
    "Original code: " ++ code,
    "Provide:", "",
    "Refactored code (complete, executable)", "",
    "List of changes with line numbers", "",
    "Rationale for major changes", "",
    "Format as JSON:",
    brace,
    "\"refactored_code\": \"... improved code ...\",",
    "\"changes\": [",
    brace ++ "\"type\": \"rename\", \"line\": 1, \"description\": \"Renamed 'calc' to 'calculate_distance'\"" ++
    endBrace ++ ",",
    brace ++ "\"type\": \"extract\", \"line\": 5, \"description\": \"Extracted validation logic\"" ++ endBrace,
    "],",
    "\"rationale\": \"Improved naming makes the function's purpose clearer...\"",
    endBrace]

def styleText (style : String) : String :=
  if style == "documented" then "Include comprehensive docstrings, type hints, and inline comments."
  else if style == "optimized" then "Focus on performance and memory efficiency. Use optimal algorithms."
  else "Follow clean code principles with descriptive names. Minimal comments."

def generatePrompt (language wish style : String) : Prompt where
  role := "You are an expert " ++ language ++ " developer who writes production-quality code."
  temperature := 0.4
  maxTokens := 3000
  text := page [
    "Generate " ++ language ++ " code for this request:",
    "\"" ++ wish ++ "\"",
    "Style: " ++ styleText style, "",
    "Return JSON:",
    brace,
    "\"code\": \"... complete implementation ...\",",
    "\"explanation\": \"Brief explanation of the approach and key decisions\"",
    endBrace]

def linesBefore (code : String) (line : Int) : String :=
  String.ofList (Text.unlines (Text.slice (max 0 (line - 10)) line (Text.lines code.toList)))

def completionPrompt (language code : String) (line column : Int) : Prompt where
  role := "You are an AI code completion assistant. Suggest 1-3 intelligent completions based on context."
  temperature := 0.2
  text := page [
    "Given this " ++ language ++ " code, suggest the next completion(s):",
    "    " ++ linesBefore code line,
    "    █  <-- cursor here (line " ++ toString line ++ ", col " ++ toString column ++ ")",
    "    Provide 1-3 suggestions (function calls, variable names, control flow).",
    "Return JSON:",
    brace,
    "\"suggestions\": [",
    brace ++ "\"text\": \"numbers:\", \"type\": \"keyword\", \"description\": \"Start for loop iteration\"" ++
    endBrace ++ ",",
    brace ++ "\"text\": \"range(len(numbers)):\", \"type\": \"function\", \"description\": \"Index-based iteration\"" ++
    endBrace, "]",
    endBrace]

/-! ## Answers -/

def consult (p : Prompt) : Answering Json := do
  if !(← get).hasAi then throw (.refused 503 "OpenAI API key not configured")
  let messages := [("system", p.role), ("user", p.text)]
  match ← Answering.doing (Service.withAi (AiService.chat model p.temperature p.maxTokens messages).run) with
  | .error m => throw (.refused 500 ("AI request failed: " ++ m))
  | .ok none => throw (.refused 500 "AI request failed: ")
  | .ok (some text) =>
    match Json.parse text.toList with
    | .ok j => return j
    | .error e => throw (.refused 500 ("AI request failed: " ++ e.message text.toList))

def textOf (j : Json) (key : String) : Answering Json := unbroken ((j.needField key Json.looseText).map Json.str)

def textsOf (j : Json) (key : String) : Answering Json :=
  unbroken ((j.needField key (Json.looseList Json.looseText)).map Json.ofTexts)

def needText (j : Json) (key : String) : Answering String := accepted (j.needField key Json.looseText)

end CodeSurvey.Assistant

namespace CodeSurvey.Api

open Assistant

def explain (r : Request) : Answering Json := do
  let body ← r.record
  let code ← needText body "code"
  let language ← needText body "language"
  let context ← accepted (body.optField "context" Json.looseText)
  let answer ← consult (explainPrompt language code context)
  return .obj [("explanation", ← textOf answer "explanation"), ("complexity", ← textOf answer "complexity"),
    ("suggestions", ← textsOf answer "suggestions")]

def convert (r : Request) : Answering Json := do
  let body ← r.record
  let code ← needText body "code"
  let source ← needText body "from_language"
  let target ← needText body "to_language"
  let keepComments ← accepted (body.defaultField "preserve_comments" Json.looseBool true)
  let answer ← consult (conversionPrompt source target code keepComments)
  return .obj [("translated_code", ← textOf answer "translated_code"), ("notes", ← textsOf answer "notes")]

def refactor (r : Request) : Answering Json := do
  let body ← r.record
  let code ← needText body "code"
  let language ← needText body "language"
  let focus ← accepted (body.defaultField "focus" Json.looseText "readibility")
  let answer ← consult (refactorPrompt language code focus)
  return .obj [("refactored_code", ← textOf answer "refactored_code"), ("changes", ← textsOf answer "changes"),
    ("rationale", ← textOf answer "rationale")]

def generate (r : Request) : Answering Json := do
  let body ← r.record
  let wish ← needText body "prompt"
  let language ← needText body "language"
  let style ← accepted (body.defaultField "style" Json.looseText "clean")
  let answer ← consult (generatePrompt language wish style)
  return .obj [("code", ← textOf answer "code"), ("explanation", ← textOf answer "explanation")]

def completionsOf (j : Json) : Except Fault (List Json) := j.needField "suggestions" (Json.looseList Json.looseTable)

/-- Completes code. Without a fitting answer there are no completions. -/
def complete (r : Request) : Answering Json := do
  let body ← r.record
  let code ← needText body "code"
  let language ← needText body "language"
  let line ← accepted (body.needField "cursor_line" Json.looseInt)
  let column ← accepted (body.needField "cursor_column" Json.looseInt)
  let found ← Answering.doing (consult (completionPrompt language code line column)).run
  let completions := match found with
    | .ok answer => (completionsOf answer).toOption.getD []
    | .error _ => []
  return .obj [("suggestions", .arr completions)]

def assistantStatus : Answering Json := do
  let s ← get
  let skills := ["explain", "translate", "refactor", "generate", "autocomplete", "chat"]
  return .obj [("available", .bool s.hasAi), ("model", if s.hasAi then .str s.settings.openaiModel else .null),
    ("features", .obj (skills.map fun f => (f, .bool true))),
    ("limits", .obj [("rate_limit", .str "60 requests/minute"), ("max_code_length", .int 8000),
      ("max_tokens", .int 4000)])]

end CodeSurvey.Api
