/-
Tokens of source text for the comparison of code: words and the like in lower case, without comments. Each family of
languages has its own comments and its own idea of a word.
-/
import CodeSurvey.Pattern
import CodeSurvey.Text.Piece

namespace CodeSurvey.Duplicate

open Pattern

/-- Families of languages with the same tokens. -/
inductive Dialect where
  | python
  | c
  | assembly
  | cobol
  | other
deriving DecidableEq

namespace Dialect

def ofLanguage (language : List Char) : Dialect :=
  let l := String.ofList (Text.lower language)
  if l == "python" then python
  else if ["c", "cpp", "c++"].contains l then c
  else if ["assembly", "asm", "x86", "arm"].contains l then assembly
  else if l == "cobol" then cobol
  else other

end Dialect

/-! ## Comments -/

def cutLines (mark : String) (t : List Char) : List Char :=
  Text.unlines ((Text.lines t).map (Text.upToFirst mark.toList))

def between (opening closing : String) : Pattern := lit opening ++ lazyStar (fun _ => true) ++ lit closing

/-- A line with a star in front, with the blank lines before it. -/
def starredLine : Pattern := lineStart ++ blanks ++ lit "*" ++ rest

def withoutComments : Dialect → List Char → List Char
  | .python, t => (between "\"\"\"" "\"\"\"" <|> between "'''" "'''").replaceAll [] (cutLines "#" t)
  | .c, t => (between "/*" "*/").replaceAll [] (cutLines "//" t)
  | .assembly, t => cutLines "#" (cutLines "//" (cutLines ";" t))
  | .cobol, t => cutLines "*>" (starredLine.replaceAll [] t)
  | .other, t => t

/-! ## Words -/

def inRun : Dialect → Char → Bool
  | .c, c => Text.isWord c || c == '#'
  | .cobol, c => Text.isWord c || c == '-'
  | _, c => Text.isWord c

def hexNumber : Pattern := lit "0x" ++ plus fun c => c.isDigit || ('a' ≤ c && c ≤ 'f') || ('A' ≤ c && c ≤ 'F')

def assemblyWord : Pattern :=
  (wordEdge ++ one Text.isNameStart ++ star Text.isWord ++ wordEdge) <|> hexNumber <|>
    (wordEdge ++ plus Text.isDecimal ++ wordEdge)

def cobolWord : Pattern :=
  (wordEdge ++ plus (fun c => c.isUpper || c.isDigit || c == '-') ++ wordEdge) <|> plus Text.isDecimal

def cWord : Pattern := (lit "#" ++ plus Text.isWord) <|> plus Text.isWord

def texts (p : Pattern) (t : List Char) : List (List Char) := (p.findAll t).map (·.text)

def cobolNoise : List String :=
  ["DIVISION", "SECTION", "PROCEDURE", "DATA", "WORKING-STORAGE", "FILE", "IDENTIFICATION", "ENVIRONMENT",
    "CONFIGURATION"]

def runWords : Dialect → List Char → List (List Char)
  | .c, run => texts cWord run
  | .assembly, run => texts assemblyWord run
  | .cobol, run => (texts cobolWord run).filter fun w => !cobolNoise.contains (String.ofList (Text.upper w))
  | _, run => [run]

/-- The tokens of a source text: its words of at least two characters, in lower case. -/
def tokens (d : Dialect) (t : List Char) : List (List Char) :=
  let words := (Text.wordsBy (fun c => !inRun d c) (withoutComments d t)).flatMap (runWords d)
  (words.filter fun w => 1 < w.length).map Text.lower

def pathLanguages : List (String × String) :=
  [("py", "python"), ("c", "c"), ("h", "c"), ("cpp", "cpp"), ("cc", "cpp"), ("cxx", "cpp"), ("hpp", "cpp"),
    ("asm", "assembly"), ("s", "assembly"), ("cob", "cobol"), ("cbl", "cobol"), ("cpy", "cobol")]

/-- The language of a file, by what follows the last point of its path; Python if that tells nothing. -/
def languageOf (path : List Char) : String :=
  let ext := String.ofList ((Text.splitOnChar '.' (Text.lower path)).getLast?.getD [])
  ((pathLanguages.find? (·.1 == ext)).map (·.2)).getD "python"

end CodeSurvey.Duplicate
