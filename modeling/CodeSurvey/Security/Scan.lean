/-
The security scan: each line of a file is held against the rules of its language, unless the line is known to be
harmless.
-/
import CodeSurvey.Security.Rule

namespace CodeSurvey.Security

open Pattern

/-! ## Harmless lines -/

def isPreprocessorLine (line : List Char) : Bool :=
  (blanks ++ lit "#" ++ blanks ++ anyLit ["include", "define", "if", "endif", "pragma", "undef"]).startsMatch line

def isAssemblyDirective (line : List Char) : Bool :=
  (blanks ++ anyLit ["%include", ".include", "INCLUDE", ".data", ".text", ".bss", ";"]).startsMatch line

def isCobolComment (line : List Char) : Bool :=
  ((blanks ++ lit "*") <|> (times 6 (one (· != '\n')) ++ lit "*")).startsMatch line

/-- Marks of queries through an object mapper, and of texts meant for debugging. -/
def safeQuery : Pattern :=
  anyLit [".query(", ".filter(", ".filter_by(", "mapped_column(", "relationship(", "Mapped[", "__repr__", "__str__"] <|>
    (lit "f" ++ quote ++ lit "<" ++ rest ++ lit ">" ++ rest ++ quote)

def isSafeQuery (line : List Char) : Bool := safeQuery.occursIn line

def isDirective (language : String) (line : List Char) : Bool :=
  (cFamily.contains language && isPreprocessorLine line) || (language == "assembly" && isAssemblyDirective line) ||
    (language == "cobol" && isCobolComment line)

def looksLikeComment (line : List Char) : Bool :=
  let s := Text.strip line
  ["#", "//", "/*", "*"].any fun mark => Text.startsWith mark.toList s

def pretenceMarks : List String :=
  ["example", "test", "dummy", "placeholder", "xxx", "sample", "default", "todo", "fixme", "your_",
    "<your", "SECRET_KEY", "os.environ", "getenv"]

def isPretence (line : List Char) : Bool :=
  let low := Text.lower line
  pretenceMarks.any fun mark => Text.contains mark.toList low

def isSuppressed (w : Weakness) (language : String) (line : List Char) : Bool :=
  match w with
  | .sqlInjection => isDirective language line || isSafeQuery line
  | .hardcodedSecret => looksLikeComment line || isDirective language line || isPretence line
  | .xss => isSafeQuery line
  | _ => isDirective language line

def isRelevant (w : Weakness) (language : String) : Bool :=
  match w with
  | .bufferOverflow => ["c", "cpp", "assembly", "cobol"].contains language
  | .xss => ["python", "javascript", "typescript"].contains language
  | _ => true

/-! ## Findings -/

structure Issue where
  weakness : Weakness
  line : Nat
  snippet : String
  description : String

def secretText : Pattern :=
  quote ++ atLeast 12 (fun c => c.isAlphanum || c == '_' || c == '-') ++ quote

def redact (t : List Char) : List Char := secretText.replaceAll "\"***REDACTED***\"".toList t

def snippetOf (w : Weakness) (line : List Char) : String :=
  let s := Text.strip line
  String.ofList (match w with
    | .hardcodedSecret => redact s
    | _ => s)

def lineIssues (w : Weakness) (language : String) (n : Nat) (line : List Char) : List Issue :=
  if isSuppressed w language line then []
  else ((rules w).filter fun r => r.isFor language && r.pattern.occursIn line).map fun r =>
    ⟨w, n, snippetOf w line, w.describe r.description⟩

def check (w : Weakness) (language : String) (ls : List (List Char)) : List Issue :=
  if isRelevant w language then (ls.zipIdx 1).flatMap fun (line, n) => lineIssues w language n line else []

/-- The items whose key differs from those of all items before. -/
def distinctBy {α κ : Type} [BEq κ] (key : α → κ) (l : List α) : List α :=
  (l.foldl (fun (acc : List α × List κ) a =>
    if acc.2.contains (key a) then acc else (a :: acc.1, key a :: acc.2)) ([], [])).1.reverse

def Issue.key (i : Issue) : Nat × String × String := (i.line, i.weakness.name, i.description)

def order : List Weakness :=
  [.sqlInjection, .hardcodedSecret, .commandInjection, .pathTraversal, .bufferOverflow, .xss]

def scan (t : List Char) (language : List Char) : List Issue :=
  let lang := String.ofList (Text.lower language)
  distinctBy Issue.key (order.flatMap fun w => check w lang (Text.lines t))

end CodeSurvey.Security
