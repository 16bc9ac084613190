/-
The rows that are kept: repositories with their files, symbols and calls, findings about them, and the checks of their
quality. Their identifiers are numbers of 128 bits, written as 32 hexadecimal digits in five groups.
-/
import CodeSurvey.Json.Parser
import CodeSurvey.Smell.Basic
import CodeSurvey.Symbol.Basic
import CodeSurvey.Text.Piece

namespace CodeSurvey

inductive Table where
  | repository
  | file
  | symbol
  | call
  | vulnerability
  | smell
  | duplication
  | snapshot
  | gate
  | run
  | embedding
deriving DecidableEq

namespace Table

def all : List Table :=
  [repository, file, symbol, call, vulnerability, smell, duplication, snapshot, gate, run, embedding]

def word : Table → String
  | repository => "repository"
  | file => "file"
  | symbol => "symbol"
  | call => "call"
  | vulnerability => "vulnerability"
  | smell => "smell"
  | duplication => "duplication"
  | snapshot => "snapshot"
  | gate => "gate"
  | run => "run"
  | embedding => "embedding"

def ofWord? (s : String) : Option Table := all.find? (·.word == s)

def name : Table → String
  | repository => "repositories"
  | file => "files"
  | symbol => "symbols"
  | call => "call_relationships"
  | vulnerability => "vulnerabilities"
  | smell => "code_smells"
  | duplication => "code_duplication"
  | snapshot => "metrics_snapshots"
  | gate => "quality_gates"
  | run => "cicd_runs"
  | embedding => "embeddings"

end Table

/-! ## Identifiers -/

structure Id where
  value : Nat
deriving DecidableEq

namespace Id

/-- The `n`-th identifier that a store hands out. -/
def nth (n : Nat) : Id := ⟨0x6b8f02c4d1e74a5f9c3e000000000000 + n⟩

def digits (i : Id) : List Char :=
  let l := Nat.toDigits 16 i.value
  List.replicate (32 - l.length) '0' ++ l

/-- The written form: groups of 8, 4, 4, 4 and 12 digits with dashes between them. -/
def chars (i : Id) : List Char :=
  let d := i.digits
  d.take 8 ++ '-' :: (d.drop 8).take 4 ++ '-' :: (d.drop 12).take 4 ++ '-' :: (d.drop 16).take 4 ++ '-' :: d.drop 20

def text (i : Id) : String := String.ofList i.chars

def json (i : Id) : Json := .str i.text

/-- The value of a hexadecimal digit; digits of any script count. -/
def digitValue? (c : Char) : Option Nat := (Json.hexValue? c).orElse fun _ => Text.decimalValue? c

/-- Reads digits, between which single underscores may stand. -/
def readDigits? (acc : Nat) (gap : Bool) : List Char → Option Nat
  | [] => if gap then none else some acc
  | '_' :: r => if gap then none else readDigits? acc true r
  | c :: r => (digitValue? c).bind fun d => readDigits? (acc * 16 + d) false r

def dropMark : List Char → List Char
  | '0' :: 'x' :: '_' :: r => r
  | '0' :: 'X' :: '_' :: r => r
  | '0' :: 'x' :: r => r
  | '0' :: 'X' :: r => r
  | t => t

/-- Reads a hexadecimal number with blanks around it, a sign and a mark in front. -/
def readHex? (t : List Char) : Option Nat :=
  let t := Text.strip t
  let t := match t with
    | '+' :: r => r
    | _ => t
  readDigits? 0 true (dropMark t)

/-- Reads an identifier in any of its written forms: dashes may stand anywhere, braces around it, and `urn:uuid:` in
front. -/
def ofText? (t : List Char) : Option Id :=
  let t := Text.replace "uuid:".toList [] (Text.replace "urn:".toList [] t)
  let t := (Text.stripBy (fun c => c == '\x7b' || c == '\x7d') t).filter (· != '-')
  if t.length == 32 then (readHex? t).map Id.mk else none

/-- Reads an identifier in its one regular form. -/
def ofRegular? (s : String) : Option Id := (ofText? s.toList).filter fun i => i.text == s

end Id

/-! ## Rows -/

/-- A point in time: microseconds since the start of 2024. -/
abbrev Moment := Int

inductive RepoStatus where
  | pending
  | processing
  | completed
  | failed
deriving DecidableEq

namespace RepoStatus

def name : RepoStatus → String
  | pending => "pending"
  | processing => "processing"
  | completed => "completed"
  | failed => "failed"

def ofName? (s : String) : Option RepoStatus := [pending, processing, completed, failed].find? (·.name == s)

end RepoStatus

inductive RepoSource where
  | upload
  | github
deriving DecidableEq

namespace RepoSource

def name : RepoSource → String
  | upload => "upload"
  | github => "github"

def ofName? (s : String) : Option RepoSource := [upload, github].find? (·.name == s)

end RepoSource

structure RepositoryRow where
  id : Id
  name : String
  uploadPath : Option String
  source : RepoSource
  githubUrl : Option String
  githubOwner : Option String
  githubRepo : Option String
  githubBranch : Option String
  /-- A whole number as a rule; another plain value stays as it was given. -/
  githubStars : Json
  githubLanguage : Option String
  status : RepoStatus
  fileCount : Int
  symbolCount : Int
  created : Moment

/-- A repository that nothing is known of but its name. -/
def RepositoryRow.blank (name : String) : Id → Moment → RepositoryRow := fun id now => {
  id := id
  name := name
  uploadPath := none
  source := .upload
  githubUrl := none
  githubOwner := none
  githubRepo := none
  githubBranch := some "main"
  githubStars := .null
  githubLanguage := none
  status := .pending
  fileCount := 0
  symbolCount := 0
  created := now }

structure FileRow where
  id : Id
  repositoryId : Id
  path : String
  language : String
  lineCount : Int
  source : Option String
  created : Moment

structure SymbolRow where
  id : Id
  fileId : Id
  name : String
  kind : SymbolKind
  lineStart : Int
  lineEnd : Option Int
  signature : Option String
  complexity : Option Int
  maintainability : Option Float
  codeLines : Option Int
  commentLines : Option Int
  docstring : Option String
  hasDocstring : Bool
  docstringLength : Option Int
  created : Moment

structure CallRow where
  number : Nat
  repositoryId : Id
  callerId : Id
  callerName : String
  callerFile : String
  calleeName : String
  calleeFile : Option String
  calleeId : Option Id
  line : Int
  isExternal : Bool

structure VulnerabilityRow where
  id : Id
  repositoryId : Id
  kind : String
  severity : String
  cwe : Option String
  owasp : Option String
  path : String
  line : Int
  snippet : Option String
  description : String
  recommendation : Option String
  confidence : String
  created : Moment

structure SmellRow where
  id : Id
  repositoryId : Option Id
  fileId : Option Id
  symbolId : Option Id
  kind : SmellKind
  severity : Severity
  title : String
  description : String
  suggestion : Option String
  startLine : Int
  endLine : Int
  value : Option Int
  threshold : Option Int
  created : Moment

structure DuplicationRow where
  id : Id
  repositoryId : Option Id
  file1Id : Option Id
  file1Start : Int
  file1End : Int
  file2Id : Option Id
  file2Start : Int
  file2End : Int
  similarity : Float
  lines : Int
  tokens : Int
  snippet : Option String
  digest : String
  created : Moment

structure Figures where
  files : Int := 0
  lines : Int := 0
  symbols : Int := 0
  averageComplexity : Float := 0
  maxComplexity : Int := 0
  highComplexity : Int := 0
  duplications : Int := 0
  duplicateLines : Int := 0
  duplicationPercentage : Float := 0
  smells : Int := 0
  criticalSmells : Int := 0
  highSmells : Int := 0
  mediumSmells : Int := 0
  lowSmells : Int := 0
  vulnerabilities : Int := 0
  criticalVulnerabilities : Int := 0
  highVulnerabilities : Int := 0
  qualityScore : Float := 0

structure SnapshotRow where
  id : Id
  repositoryId : Option Id
  figures : Figures
  note : Json
  created : Moment

/-- The limits of a gate, each of which may be missing. -/
structure GateLimits where
  complexity : Option Int := some 10
  smells : Option Int := some 20
  criticalSmells : Option Int := some 0
  vulnerabilities : Option Int := some 5
  criticalVulnerabilities : Option Int := some 0
  qualityScore : Option Float := some 70
  duplicationPercentage : Option Float := some 10
  blocks : Option Bool := some true

structure GateRow where
  id : Id
  repositoryId : Id
  limits : GateLimits

structure RunRow where
  id : Id
  repositoryId : Id
  branch : Option String
  commit : Option String
  pullNumber : Json
  pullTitle : Option String
  trigger : String
  status : String
  passed : Option Bool
  details : Json
  report : Option String
  created : Moment
  completed : Option Moment

structure EmbeddingRow where
  id : Id
  symbolId : Id
  vector : List Float
  model : String
  dimensions : Int
  created : Moment

end CodeSurvey
