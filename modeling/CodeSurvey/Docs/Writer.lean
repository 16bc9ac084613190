/-
Documentation written by the language model for symbols that have none. Whether a piece of code carries documentation at
all is seen by marks that each family of languages uses.
-/
import CodeSurvey.Ai.Basic
import CodeSurvey.Pattern
import CodeSurvey.Text.Piece

namespace CodeSurvey.Docs

open Pattern

def aliases : List (String × String) :=
  [("asm", "assembly"), ("nasm", "assembly"), ("yasm", "assembly"), ("gas", "assembly"), ("cob", "cobol"),
    ("py", "python"), ("js", "javascript"), ("ts", "typescript"), ("c++", "cpp")]

def fullName (language : List Char) : String :=
  let l := String.ofList (Text.strip (Text.lower language))
  ((aliases.find? (·.1 == l)).map (·.2)).getD l

def enclosed (opening closing : String) : Pattern := lit opening ++ lazyStar (fun _ => true) ++ lit closing

def tripleQuoted : Pattern := enclosed "\"\"\"" "\"\"\"" <|> enclosed "'''" "'''"

def blockComment : Pattern := enclosed "/**" "*/"

/-- A COBOL comment: a mark at the start of a line, or a star in its seventh column. -/
def cobolComment : Pattern :=
  (lineStart ++ blanks ++ lit "*>") <|> (lineStart ++ times 6 (one (· != '\n')) ++ lit "*")

def assemblyComment : Pattern := lineStart ++ blanks ++ one (fun c => c == ';' || c == '#')

def isDocumented (code : List Char) (language : List Char) : Bool :=
  let l := fullName language
  if l == "python" then tripleQuoted.occursIn code
  else if ["javascript", "typescript", "java", "c", "cpp", "go"].contains l then blockComment.occursIn code
  else if l == "cobol" then cobolComment.occursIn code
  else if l == "assembly" then assemblyComment.occursIn code
  else false

def writerModel : String := "gpt-4o-mini"

def writerRole : String :=
  "You are a technical documentation expert. Output only the raw docstring/comment block."

def writerPrompt (name : String) (code : List Char) (language : String) (context : Option String) : String :=
  let source := String.ofList code
  let more := match context with
    | some c => if c.isEmpty then "" else "Additional context: " ++ c
    | none => ""
  String.intercalate "\n" [
    s!"Generate documentation for the following {language} function.",
    "",
    s!"Function name: {name}",
    "",
    "Code:",
    s!"```{language}",
    source,
    "```",
    more,
    "",
    s!"Generate a concise, clear docstring that follows {language} conventions.",
    "- For Python: Google style or Sphinx style docstring.",
    "- For C/C++: Doxygen style (/** ... */).",
    "- For Assembly/COBOL: Comment block above function.",
    "",
    "Include:",
    "1. Brief description",
    "2. Parameters (if any)",
    "3. Return value (if any)",
    "",
    "Return ONLY the docstring text. Do not include markdown code blocks around it unless it's part of the syntax."]

def fence : List Char := ['`', '`', '`']

def unfenced (answer : List Char) : List Char :=
  let t := Text.strip answer
  if Text.startsWith fence t then
    let body := match Text.lines t with
      | _ :: l :: r => Text.unlines (l :: r)
      | _ => t
    Text.strip (if Text.endsWith fence body then body.take (body.length - 3) else body)
  else t

/-- What an answer of the model makes of the documentation; where the model failed, a note that says so. -/
def noteOf : Except String (Option String) → List Char
  | .ok answer => unfenced (answer.getD "").toList
  | .error m => s!"TODO: Add documentation (Auto-generation failed: {m})".toList

def write (name : String) (code : List Char) (language : String)
    (context : Option String) : StateM AiService (List Char) := do
  let messages := [("system", writerRole), ("user", writerPrompt name code language context)]
  return noteOf (← (AiService.chat writerModel 0.3 500 messages).run)

/-! ## Symbols and files -/

structure Target where
  kind : String
  name : Option Json
  id : Option Json
  fileId : Option Json
  startLine : Option Int
  endLine : Option Int

structure Documentation where
  symbolId : Json
  symbolName : Json
  docstring : List Char
  insertLine : Int
  fileId : Json
  path : Json

abbrev Writing (α : Type) := ExceptT Fault (StateM AiService) α

def writtenKinds : List String := ["function", "method", "class", "procedure"]

/-- The lines of a symbol: at most two hundred, and fifty if its end is not known. -/
def targetCode (ls : List (List Char)) (start : Int) (stop : Option Int) : List Char :=
  let n : Int := ls.length
  let first := max 0 (start - 1)
  let last := match stop with
    | some e => if e == 0 then min n (first + 50) else min n e
    | none => min n (first + 50)
  let last := if 200 < last - first then first + 200 else last
  Text.unlines (Text.slice first last ls)

/-- Documents one symbol, unless it is of another kind, outside of the file, or documented already. -/
def document? (fileId path : Json) (ls : List (List Char)) (language : Json)
    (t : Target) : Writing (Option Documentation) := do
  if !writtenKinds.contains t.kind then return none
  let start ← match t.startLine with
    | some n => pure n
    | none => throw .wrongType
  if start < 1 || (ls.length : Int) < start then return none
  let code := targetCode ls start t.endLine
  let languageName := if language.truthy then language.display else ""
  if isDocumented code languageName.toList then return none
  let docstring ← write ((t.name.map Json.display).getD "unknown") code language.display none
  return some ⟨t.id.getD .null, t.name.getD .null, docstring, start, t.fileId.getD fileId, path⟩

structure FileEntry where
  id : Option Json
  path : Option Json
  content : List Char
  symbols : List Target
  language : Option Json

def FileEntry.document (f : FileEntry) : Writing (List Documentation) := do
  if f.content.isEmpty || f.symbols.isEmpty then return []
  match f.id, f.path with
  | some id, some path =>
    let ls := Text.boundaryLines f.content
    let docs ← f.symbols.mapM (document? id path ls (f.language.getD (.str "python")))
    return docs.filterMap (·)
  | _, _ => throw .missingField

def documentFiles (files : List FileEntry) (limit : Int) : Writing (List Documentation) := do
  let docs ← (Text.slice 0 limit files).mapM FileEntry.document
  return docs.flatten

end CodeSurvey.Docs
