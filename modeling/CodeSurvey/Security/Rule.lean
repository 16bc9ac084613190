/-
The rules of the security scan: kinds of weakness, the patterns that point to them, and the languages they apply to.
-/
import CodeSurvey.Pattern
import CodeSurvey.Text.Piece

namespace CodeSurvey.Security

open Pattern

inductive Weakness where
  | sqlInjection
  | hardcodedSecret
  | commandInjection
  | pathTraversal
  | bufferOverflow
  | xss
deriving DecidableEq

namespace Weakness

def name : Weakness → String
  | sqlInjection => "SQL Injection"
  | hardcodedSecret => "Hardcoded Secret"
  | commandInjection => "Command Injection"
  | pathTraversal => "Path Traversal"
  | bufferOverflow => "Buffer Overflow"
  | xss => "XSS"

def severity : Weakness → String
  | sqlInjection => "critical"
  | hardcodedSecret => "high"
  | commandInjection => "critical"
  | pathTraversal => "high"
  | bufferOverflow => "critical"
  | xss => "high"

def confidence : Weakness → String
  | sqlInjection => "high"
  | _ => "medium"

/-- The number of the kind in the common list of weaknesses. -/
def cwe : Weakness → String
  | sqlInjection => "CWE-89"
  | hardcodedSecret => "CWE-798"
  | commandInjection => "CWE-78"
  | pathTraversal => "CWE-22"
  | bufferOverflow => "CWE-120"
  | xss => "CWE-79"

/-- The category of the kind among the ten gravest risks. -/
def owasp : Weakness → String
  | hardcodedSecret => "A07:2021 - Identification and Authentication Failures"
  | pathTraversal => "A01:2021 - Broken Access Control"
  | _ => "A03:2021 - Injection"

def recommendation : Weakness → String
  | sqlInjection =>
    "Use parameterized queries or prepared statements. Never concatenate user input into SQL strings."
  | hardcodedSecret =>
    "Store secrets in environment variables or secure vaults (e.g., AWS Secrets Manager, HashiCorp Vault)."
  | commandInjection =>
    "Avoid shell=True. Use subprocess with argument lists. Validate and sanitize all user input. " ++
      "For execve(), ensure arguments are properly validated."
  | pathTraversal =>
    "Validate file paths. Use os.path.abspath() and check if path starts with allowed directory. " ++
      "In C, use realpath() and validate paths."
  | bufferOverflow =>
    "Use safe string functions (strncpy, snprintf, fgets). Always check buffer bounds. " ++
      "In Assembly, validate all memory operations."
  | xss => "Always escape user input before rendering in HTML. Use templating engines with auto-escaping."

def describe (w : Weakness) (text : String) : String :=
  match w with
  | sqlInjection => "Potential SQL injection: " ++ text
  | hardcodedSecret => "Hardcoded " ++ text ++ " detected"
  | commandInjection => "Potential command injection: " ++ text
  | xss => "Potential XSS: " ++ text
  | _ => text

end Weakness

/-- A rule: a pattern looked for in each line, and the languages it is for; none means all. -/
structure Rule where
  pattern : Pattern
  description : String
  languages : List String

def Rule.isFor (r : Rule) (language : String) : Bool := r.languages.isEmpty || r.languages.contains language

/-! ## Pieces of patterns -/

def isQuote (c : Char) : Bool := c == '"' || c == '\''

def quote : Pattern := one isQuote

def unquoted (c : Char) : Bool := !isQuote c

def isKeyChar (c : Char) : Bool := Text.isNameCharAnyCase c || c == '-'

def insideBrackets : Pattern := star (· != ')')

def called (name : String) : Pattern := litAnyCase name ++ blanks ++ lit "("

def assigned (key : Pattern) (value : Pattern) : Pattern :=
  key ++ blanks ++ lit "=" ++ blanks ++ quote ++ group 1 value ++ quote

def sqlWord : Pattern :=
  wordEdge ++ anyLitAnyCase ["SELECT", "INSERT", "UPDATE", "DELETE", "DROP", "ALTER"] ++ wordEdge

def executes : Pattern :=
  anyLitAnyCase ["execute", "cursor.execute", "executemany"] ++ blanks ++ lit "(" ++ blanks

def words : Pattern := plus Text.isWord

/-! ## Rules -/

def cFamily : List String := ["c", "cpp"]

def webFamily : List String := ["javascript", "typescript"]

def sqlRules : List Rule :=
  [⟨executes ++ quote ++ rest ++ litAnyCase "%s" ++ rest ++ quote, "Python SQL string formatting", ["python"]⟩,
    ⟨executes ++ rest ++ lit "+" ++ blanks, "Python SQL string concatenation", ["python"]⟩,
    ⟨executes ++ litAnyCase "f" ++ quote, "Python SQL f-string", ["python"]⟩,
    ⟨called "sprintf" ++ insideBrackets ++ sqlWord, "C SQL injection via sprintf", cFamily⟩,
    ⟨called "strcat" ++ insideBrackets ++ sqlWord, "C SQL injection via strcat", cFamily⟩,
    ⟨litAnyCase "EXEC" ++ blanks1 ++ litAnyCase "SQL" ++ rest ++ lit ":" ++ words,
      "COBOL dynamic SQL variable", ["cobol"]⟩,
    ⟨litAnyCase "STRING" ++ blanks1 ++ rest ++ wordEdge ++ litAnyCase "SELECT" ++ wordEdge ++ rest ++ litAnyCase "INTO",
      "COBOL SQL string concatenation", ["cobol"]⟩,
    ⟨litAnyCase "EXEC" ++ blanks1 ++ litAnyCase "SQL" ++ blanks1 ++ litAnyCase "PREPARE" ++ rest ++ litAnyCase "FROM" ++
      blanks1 ++ lit ":" ++ words, "COBOL prepared statement with variable", ["cobol"]⟩]

def cobolSecret (names : List String) (least : Nat) : Pattern :=
  anyLitAnyCase names ++ blanks1 ++ litAnyCase "PIC" ++ blanks1 ++ litAnyCase "X" ++ rest ++ litAnyCase "VALUE" ++
    blanks1 ++ quote ++ group 2 (atLeast least unquoted)

def assemblySecret (names : List String) (least : Nat) : Pattern :=
  anyLitAnyCase names ++ rest ++ litAnyCase "db" ++ blanks1 ++ quote ++ group 2 (atLeast least unquoted)

def secretRules : List Rule :=
  [⟨quote ++ group 1 (atLeast 40 isKeyChar) ++ quote, "API Key", []⟩,
    ⟨assigned (litAnyCase "api" ++ optional (one fun c => c == '_' || c == '-') ++ litAnyCase "key") (plus unquoted),
      "API Key assignment", []⟩,
    ⟨assigned (litAnyCase "password") (atLeast 8 unquoted), "Hardcoded password", []⟩,
    ⟨assigned (litAnyCase "passwd") (atLeast 8 unquoted), "Hardcoded password", []⟩,
    ⟨assigned (litAnyCase "pwd") (atLeast 8 unquoted), "Hardcoded password", []⟩,
    ⟨litAnyCase "AKIA" ++ times 16 (one fun c => Text.isLetterAnyCase c || c.isDigit), "AWS Access Key", []⟩,
    ⟨assigned (litAnyCase "aws_secret_access_key") (plus unquoted), "AWS Secret Key", []⟩,
    ⟨anyLitAnyCase ["postgresql", "mysql", "mongodb"] ++ lit "://" ++ plus (· != ':') ++ lit ":" ++
      group 2 (plus (· != '@')) ++ lit "@", "Database password in connection string", []⟩,
    ⟨litAnyCase "-----BEGIN " ++ optional (anyLitAnyCase ["RSA ", "DSA "]) ++ litAnyCase "PRIVATE KEY-----",
      "Private key", []⟩,
    ⟨assigned (litAnyCase "token") (atLeast 30 isKeyChar), "Hardcoded token", []⟩,
    ⟨litAnyCase "bearer" ++ blanks1 ++ atLeast 30 isKeyChar, "Bearer token", []⟩,
    ⟨cobolSecret ["PASSWORD", "PASSWD", "PWD"] 8, "COBOL hardcoded password", ["cobol"]⟩,
    ⟨cobolSecret ["API-KEY", "APIKEY", "TOKEN"] 20, "COBOL hardcoded API key", ["cobol"]⟩,
    ⟨assemblySecret ["password", "passwd", "pwd"] 8, "Assembly hardcoded password in .data", ["assembly"]⟩,
    ⟨assemblySecret ["api_key", "apikey", "token"] 20, "Assembly hardcoded API key", ["assembly"]⟩]

def cobolCall (program : String) : Pattern := litAnyCase "CALL" ++ blanks1 ++ quote ++ litAnyCase program ++ quote

def commandRules : List Rule :=
  [⟨called "os.system" ++ rest ++ lit "+", "os.system with string concatenation", ["python"]⟩,
    ⟨called "os.system" ++ blanks ++ litAnyCase "f" ++ quote, "os.system with f-string", ["python"]⟩,
    ⟨litAnyCase "subprocess." ++ anyLitAnyCase ["call", "run", "Popen"] ++ blanks ++ lit "(" ++ rest ++
      litAnyCase "shell" ++
      blanks ++ lit "=" ++ blanks ++ litAnyCase "True", "subprocess with shell=True", ["python"]⟩,
    ⟨called "exec", "exec() with dynamic code", ["python"]⟩,
    ⟨called "eval", "eval() with dynamic code", ["python", "javascript"]⟩,
    ⟨called "system", "C system() call", cFamily⟩,
    ⟨called "popen", "C popen() call", cFamily⟩,
    ⟨litAnyCase "execv" ++ optional (litAnyCase "e") ++ blanks ++ lit "(" ++ insideBrackets ++ litAnyCase "argv",
      "execve() with potentially unsafe input", cFamily⟩,
    ⟨cobolCall "SYSTEM" ++ blanks1 ++ litAnyCase "USING", "COBOL CALL SYSTEM with parameter", ["cobol"]⟩,
    ⟨cobolCall "CBL_EXEC_RUN_CMD" ++ rest ++ litAnyCase "USING", "COBOL execute command with parameter", ["cobol"]⟩,
    ⟨litAnyCase "int" ++ blanks1 ++ litAnyCase "0x80" ++ rest ++ litAnyCase "eax" ++ rest ++ litAnyCase "0xb",
      "Assembly execve syscall (potential command injection)", ["assembly"]⟩,
    ⟨litAnyCase "syscall" ++ rest ++ litAnyCase "__NR_execve", "Assembly execve syscall (potential command injection)",
      ["assembly"]⟩]

def pathRules : List Rule :=
  [⟨anyLitAnyCase ["fopen", "open", "fread", "fwrite", "remove", "unlink"] ++ blanks ++ lit "(" ++
    insideBrackets ++ lit "..",
      "File operation with path traversal (../)", cFamily⟩,
    ⟨called "open" ++ rest ++ lit "+", "File open with concatenation (potential path traversal)", ["python"]⟩,
    ⟨anyLitAnyCase ["OPEN", "READ", "WRITE"] ++ blanks1 ++ anyLitAnyCase ["INPUT", "OUTPUT"] ++ blanks1 ++
      words ++ rest ++
      lit "..", "COBOL file operation with path traversal (../)", ["cobol"]⟩,
    ⟨litAnyCase "SELECT" ++ blanks1 ++ words ++ blanks1 ++ litAnyCase "ASSIGN" ++ rest ++
      litAnyCase "STRING" ++ blanks1 ++
      rest ++ lit "+", "COBOL dynamic file path (potential traversal)", ["cobol"]⟩,
    ⟨litAnyCase "int" ++ blanks1 ++ litAnyCase "0x80" ++ rest ++ litAnyCase "eax" ++ rest ++
      anyLitAnyCase ["0x5", "0x3", "0x4"] ++ rest ++ litAnyCase "ebx" ++ rest ++ lit "..",
      "Assembly file syscall with path traversal", ["assembly"]⟩]

def overflowRules : List Rule :=
  [⟨called "gets", "Unsafe gets() - buffer overflow risk", cFamily⟩,
    ⟨called "strcpy", "Unsafe strcpy() - no bounds checking", cFamily⟩,
    ⟨called "strcat", "Unsafe strcat() - no bounds checking", cFamily⟩,
    ⟨called "sprintf", "Unsafe sprintf() - use snprintf instead", cFamily⟩,
    ⟨called "scanf" ++ insideBrackets ++ litAnyCase "%s", "Unsafe scanf with %s - buffer overflow risk", cFamily⟩,
    ⟨litAnyCase "rep" ++ blanks1 ++ litAnyCase "movs" ++ anyLitAnyCase ["b", "w", "d"],
      "Assembly unchecked memory copy (rep movs)", ["assembly"]⟩,
    ⟨anyLitAnyCase ["push", "pop"] ++ blanks1 ++ rest ++ litAnyCase "esp" ++ rest ++ litAnyCase "add" ++ rest ++
      litAnyCase "esp", "Assembly manual stack manipulation (potential overflow)", ["assembly"]⟩,
    ⟨litAnyCase "STRING" ++ blanks1 ++ rest ++ litAnyCase "DELIMITED" ++ rest ++ litAnyCase "INTO" ++
      blanks1 ++ words ++
      blanks1 ++ litAnyCase "ON" ++ blanks1 ++ litAnyCase "OVERFLOW",
      "COBOL STRING operation without overflow handling", ["cobol"]⟩]

/-- Rules for pages built from input. Their words are looked for as they are spelled. -/
def xssRules : List Rule :=
  [⟨anyLit ["render_template", "render_to_string"] ++ blanks ++ lit "(" ++ rest ++ one (· == '{') ++ rest ++
    one (· == '}'),
      "Template rendering with unsafe variables", ["python"]⟩,
    ⟨lit "innerHTML" ++ blanks ++ lit "=", "Direct innerHTML assignment", webFamily⟩,
    ⟨lit "document.write" ++ blanks ++ lit "(", "document.write (XSS risk)", webFamily⟩,
    ⟨lit "eval" ++ blanks ++ lit "(" ++ rest ++ lit "request.", "eval with user input", webFamily⟩,
    ⟨lit ".html" ++ blanks ++ lit "(" ++ rest ++ lit "+", "jQuery .html() with concatenation", webFamily⟩,
    ⟨lit "dangerouslySetInnerHTML", "React dangerouslySetInnerHTML", webFamily⟩]

def rules : Weakness → List Rule
  | .sqlInjection => sqlRules
  | .hardcodedSecret => secretRules
  | .commandInjection => commandRules
  | .pathTraversal => pathRules
  | .bufferOverflow => overflowRules
  | .xss => xssRules

end CodeSurvey.Security
