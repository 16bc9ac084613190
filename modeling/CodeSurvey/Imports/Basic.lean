/-
What a source file imports: modules, headers, included files and copybooks, by patterns. Two readings are in use, one
for the graph of dependencies between files and one for the overview of a repository.
-/
import CodeSurvey.Language
import CodeSurvey.Pattern

namespace CodeSurvey.Imports

open Pattern

def captured (p : Pattern) (t : List Char) : List (List Char) := (p.findAll t).map (·.group 1)

def quote : Pattern := one fun c => c == '"' || c == '\''

/-- A text in quotes of either sort; group 1 is the text. -/
def quoted : Pattern := quote ++ group 1 (plus fun c => c != '"' && c != '\'') ++ quote

def plainName : Pattern := group 1 (one Text.isNameStartAnyCase ++ star Text.isNameCharAnyCase)

/-! ## For the dependency graph -/

/-- A Python import: group 1 is the module of a `from`, group 2 the names after `import`. -/
def pythonImport : Pattern :=
  lineStart ++ blanks ++
    optional (lit "from" ++ blanks1 ++ group 1 (plus fun c => c.isAlphanum || c == '_' || c == '.') ++ blanks1) ++
    lit "import" ++ blanks1 ++ group 2 (plus fun c => c.isAlphanum || c == '_' || c == ',' || c == ' ')

/-- The module that a Python import names: that of the `from`, else the first of the list. -/
def importedModule (m : Found) : List Char :=
  match m.group 1 with
  | [] => Text.strip (Text.upToFirst [','] (m.group 2))
  | t => t

/-- A C include; group 1 is the header. -/
def cInclude : Pattern :=
  lit "#include" ++ blanks1 ++ one (fun c => c == '<' || c == '"') ++ group 1 (plus fun c => c != '>' && c != '"') ++
    one (fun c => c == '>' || c == '"')

def assemblyIncludes : List Pattern :=
  [litAnyCase ".include" ++ blanks1 ++ quoted,
    litAnyCase "%include" ++ blanks1 ++ quoted,
    litAnyCase ".import" ++ blanks1 ++ plainName,
    lineStart ++ blanks ++ litAnyCase "include" ++ blanks1 ++
      group 1 (plus fun c => Text.isNameCharAnyCase c || c == '.' || c == '/'),
    litAnyCase ".extern" ++ blanks1 ++ plainName,
    litAnyCase ".global" ++ blanks1 ++ plainName]

def copybook : Pattern := group 1 (plus fun c => Text.isNameCharAnyCase c || c == '-')

def copyWord : Pattern := wordEdge ++ litAnyCase "COPY" ++ blanks1

def cobolCopies : List Pattern :=
  [copyWord ++ quoted,
    copyWord ++ copybook ++ lit ".",
    copyWord ++ copybook ++ blanks1 ++ litAnyCase "IN" ++ blanks1,
    copyWord ++ copybook ++ blanks1 ++ litAnyCase "REPLACING"]

def copyWords : List String := ["REPLACING", "SUPPRESS"]

/-- What a source text imports, each name once. -/
def ofSource (lang : Language) (t : List Char) : List String :=
  let found := match lang with
    | .python => (pythonImport.findAll t).map importedModule
    | .c => captured cInclude t
    | .assembly => assemblyIncludes.flatMap fun p => captured p t
    | .cobol => (cobolCopies.flatMap fun p => captured p t).filter fun n => !copyWords.contains (String.ofList n)
  (found.map String.ofList).eraseDups

/-! ## For the overview -/

def dottedName : Pattern := group 1 (plus fun c => Text.isWord c || c == '.')

def fileName : Pattern := group 1 (plus fun c => Text.isWord c || c == '.' || c == '/')

def overviewPatterns : Language → List Pattern
  | .python =>
    [lineStart ++ blanks ++ lit "import" ++ blanks1 ++ dottedName,
      lineStart ++ blanks ++ lit "from" ++ blanks1 ++ dottedName ++ blanks1 ++ lit "import"]
  | .c => [lit "#include" ++ blanks1 ++ one (fun c => c == '<' || c == '"') ++ fileName ++
    one (fun c => c == '>' || c == '"')]
  | .assembly =>
    [litAnyCase "%include" ++ blanks1 ++ lit "\"" ++ fileName ++ lit "\"",
      wordEdge ++ litAnyCase "INCLUDE" ++ blanks1 ++ fileName]
  | .cobol => [copyWord ++ group 1 (plus fun c => Text.isWord c || c == '-')]

def overview (lang : Language) (t : List Char) : List String :=
  (((overviewPatterns lang).flatMap fun p => captured p t).map String.ofList).eraseDups

end CodeSurvey.Imports
