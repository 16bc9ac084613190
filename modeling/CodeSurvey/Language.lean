/-
The programming languages that are analysed, and the language of a file by its path. Repositories look at the end of the
path in any case, large files at the exact extension, and the multi-language reader at the suffix of the file name in
lower case.
-/
import CodeSurvey.Path
import CodeSurvey.Text.Letter

namespace CodeSurvey

inductive Language where
  | python
  | c
  | assembly
  | cobol
deriving DecidableEq

namespace Language

def name : Language → String
  | python => "python"
  | c => "c"
  | assembly => "assembly"
  | cobol => "cobol"

def ofName? (s : String) : Option Language :=
  if s == "python" then some python
  else if s == "c" then some c
  else if s == "assembly" then some assembly
  else if s == "cobol" then some cobol
  else none

def ofLooseName? (s : String) : Option Language :=
  ofName? (String.ofList (Text.lower (Text.strip s.toList)))

end Language

end CodeSurvey

namespace CodeSurvey.Language

def all : List Language := [python, c, assembly, cobol]

def icon : Language → String
  | python => "🐍"
  | c => "⚡"
  | assembly => "🔧"
  | cobol => "📊"

def endings : Language → List String
  | python => [".py"]
  | c => [".c", ".h"]
  | assembly => [".asm", ".s"]
  | cobol => [".cob", ".cbl"]

/-- The language of a file of a repository: by the end of its path in any case. -/
def ofPath? (path : List Char) : Option Language :=
  let low := Text.lower path
  all.find? fun l => l.endings.any fun e => Text.endsWith e.toList low

def extensions : Language → List String
  | python => [".py"]
  | c => [".c", ".h"]
  | assembly => [".asm", ".s", ".S"]
  | cobol => [".cob", ".cbl", ".COB", ".CBL"]

/-- The language of a large file: by its exact extension. -/
def ofExtension? (path : List Char) : Option Language :=
  let ext := String.ofList (Path.extension path)
  all.find? fun l => l.extensions.contains ext

def suffixes : List (String × Language) :=
  [(".py", python), (".c", c), (".h", c), (".asm", assembly), (".s", assembly), (".S", assembly), (".cbl", cobol),
    (".cob", cobol), (".cpy", cobol)]

/-- The language of a file for the multi-language reader: by the suffix of its name in lower case. -/
def ofSuffix? (path : List Char) : Option Language :=
  let ext := String.ofList (Text.lower (Path.suffix path))
  (suffixes.find? (·.1 == ext)).map (·.2)

end CodeSurvey.Language
