/-
Symbols of whole files: the reader of each language, large files read in batches, and the multi-language reader.
-/
import CodeSurvey.Language
import CodeSurvey.Symbol.Tree

namespace CodeSurvey

namespace Symbol

/-- The symbols of a source text. A C source has none without a syntax tree, and a tree that does not fit the text gives
none either: `none`. -/
def ofSource? (lang : Language) (t : List Char) (tree : Option SyntaxTree) : Option (List Symbol) :=
  match lang with
  | .python => some (Python.symbols t)
  | .c => tree.bind (C.treeSymbols? (Text.Utf8.encode t))
  | .assembly => some (Assembly.symbols t)
  | .cobol => some (Cobol.symbols t)

end Symbol

/-- The text of a file: what is not well formed is left out, and line ends are unified. -/
def fileText (bytes : List UInt8) : List Char := Text.unifyNewlines (Text.Utf8.decodeValid bytes)

namespace LargeFile

/-- The most lines of a file that is not large. -/
def lineLimit : Nat := 100000

def batchSize : Nat := 1000

/-- The number of lines of a text, counted on from `n`; `started` tells whether the last line has begun. -/
def countLinesFrom (n : Nat) (started : Bool) : List Char → Nat
  | [] => if started then n + 1 else n
  | c :: r => if c == '\n' then countLinesFrom (n + 1) false r else countLinesFrom n true r

/-- The number of lines of a text. A line feed at the very end starts no further line. -/
def lineCount (t : List Char) : Nat := countLinesFrom 0 false t

/-- Has the text more than `n` lines? Reads no further than it must. -/
def hasMoreLinesThan (n : Nat) (started : Bool) : List Char → Bool
  | [] => started && n == 0
  | c :: r =>
    if c == '\n' then
      match n with
      | 0 => true
      | m + 1 => hasMoreLinesThan m false r
    else hasMoreLinesThan n true r

def shouldStream (bytes : List UInt8) : Bool := hasMoreLinesThan lineLimit false (fileText bytes)

structure Stats where
  lineCount : Nat
  sizeBytes : Nat
  isLarge : Bool
  language : Option Language

def stats (path : List Char) (bytes : List UInt8) : Stats :=
  let n := lineCount (fileText bytes)
  ⟨n, bytes.length, lineLimit < n, Language.ofExtension? path⟩

/-- The symbols of a large file in batches. A file that cannot be read as source has none. -/
def batches (path : List Char) (bytes : List UInt8) (tree : Option SyntaxTree) : List (List Symbol) :=
  match (Language.ofExtension? path).bind fun lang => Symbol.ofSource? lang (fileText bytes) tree with
  | some l => chunks batchSize l
  | none => []

end LargeFile

namespace MultiReader

/-- The symbols that the multi-language reader finds: only COBOL has a reader there. -/
def symbols (path : List Char) (bytes : List UInt8) : List Symbol :=
  match Language.ofSuffix? path with
  | some .cobol => Cobol.symbols (fileText bytes)
  | _ => []

def languageName (path : List Char) : String :=
  match Language.ofSuffix? path with
  | some l => l.name
  | none => "unknown"

def languageNames : List String := ([.assembly, .c, .cobol, .python] : List Language).map Language.name

end MultiReader

end CodeSurvey
