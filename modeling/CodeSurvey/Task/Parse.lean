/-
Reading a repository: its source files are taken out of an archive, and each is kept with its symbols, their metrics and
their documentation. The calls and vectors of the symbols follow.
-/
import CodeSurvey.Docs.Docstring
import CodeSurvey.Metrics.Quality
import CodeSurvey.Symbol.File
import CodeSurvey.Task.Calls
import CodeSurvey.Task.Embeddings

namespace CodeSurvey

/-! ## Source files -/

def skippedDirectories : List String := [".git", "__pycache__", "node_modules", ".venv", "venv", "build", "dist"]

def isVisited (place : List (List Char)) : Bool :=
  place.dropLast.all fun d => !skippedDirectories.contains (String.ofList d)

structure SourceFile where
  language : Language
  path : String
  bytes : List UInt8

/-- The source files below a directory: language by language, and in the order of a walk. -/
def sourceFiles (files : List (List (List Char) × List UInt8)) : List SourceFile :=
  let visited := (files.filter fun f => isVisited f.1).mergeSort fun a b => Path.walkLe a.1 b.1
  let known := visited.filterMap fun f =>
    let path := Text.joinWith ['/'] f.1
    (Language.ofPath? path).map fun lang => SourceFile.mk lang (String.ofList path) f.2
  [Language.python, .c, .assembly, .cobol].flatMap fun lang => known.filter (·.language == lang)

/-! ## Symbols -/

/-- Which lines belong to a symbol: those from the first index on, and before the last one. -/
def Symbol.lineRange (count : Nat) (y : Symbol) : Nat × Nat :=
  let first := y.lineStart - 1
  (first, max first (min y.lineEnd count))

def Symbol.text (lines : List (List Char)) (y : Symbol) : List Char :=
  let (first, last) := y.lineRange lines.length
  Text.unlines ((lines.take last).drop first)

/-- The last line that is kept of a symbol: the last one of its text, unless that ends the file. -/
def Symbol.keptEnd (count : Nat) (y : Symbol) : Nat :=
  let last := (y.lineRange count).2
  if last != count then last else y.lineEnd

/-- The documentation of a symbol. Only that of functions and procedures is looked for. -/
def Symbol.documentation (lang : Language) (t : List Char) (y : Symbol) : Except Fault (Option (List Char)) :=
  match y.kind with
  | .function | .procedure => Docstring.extract t lang.name.toList (some y.lineStart)
  | _ => .ok none

def Symbol.draft (file : Id) (lang : Language) (lines : List (List Char)) (y : Symbol) (doc : Option (List Char)) :
    Id → Moment → SymbolRow :=
  let quality := Metrics.quality (some lang) (y.text lines)
  fun id now => {
    id := id
    fileId := file
    name := y.name
    kind := y.kind.stored
    lineStart := y.lineStart
    lineEnd := some (y.keptEnd lines.length)
    signature := some y.signature
    complexity := some quality.complexity
    maintainability := some quality.maintainability
    codeLines := some quality.codeLines
    commentLines := some quality.commentLines
    docstring := doc.map String.ofList
    hasDocstring := doc.isSome
    docstringLength := some ((doc.map List.length).getD 0)
    created := now }

/-- Symbols with their documentation, up to the first one whose documentation cannot be looked for. -/
def Symbol.withDocumentation (lang : Language) (t : List Char) : List Symbol → List (Symbol × Option (List Char))
  | [] => []
  | y :: rest =>
    match y.documentation lang t with
    | .ok doc => (y, doc) :: withDocumentation lang t rest
    | .error _ => []

/-- The symbols that are found in a source file, with their documentation. If the symbols cannot be read, there are
none; what ends the work on the file later leaves those before it. -/
def SourceFile.found (f : SourceFile) (tree : Option SyntaxTree) : List (Symbol × Option (List Char)) :=
  let t := fileText f.bytes
  match Symbol.ofSource? f.language t tree with
  | none => []
  | some symbols => Symbol.withDocumentation f.language t symbols

namespace Store

def keepFile (s : Store) (repository : Id) (f : SourceFile) : Store :=
  let t := fileText f.bytes
  s.addFile fun id now => {
    id := id
    repositoryId := repository
    path := f.path
    language := f.language.name
    lineCount := (Text.boundaryLines t).length
    source := some (String.ofList t)
    created := now }

def keepSource (s : Store) (repository : Id) (f : SourceFile) (found : List (Symbol × Option (List Char))) : Store :=
  let lines := Text.boundaryLines (fileText f.bytes)
  (s.keepFile repository f).addSymbols (found.map fun p => p.1.draft s.nextId f.language lines p.2)

end Store

/-! ## Archives -/

abbrev Archive := List (String × List UInt8)

/-- Where a file of an archive is written: names that lead nowhere or back are dropped. -/
def archivePlace (path : String) : List (List Char) :=
  (Text.splitOnChar '/' path.toList).filter fun s => !s.isEmpty && s != ['.'] && s != ['.', '.']

def unpackPlace (repository : Id) : List (List Char) := ["tmp".toList, "code_intel_".toList ++ repository.chars]

/-- What keeps a file, or a directory, from being made at a place below a directory. -/
def Disk.obstacle? (d : Disk) (isFile : Bool) (directory place : List (List Char)) : Option TaskError :=
  if place.any isTooLong then some .nameTooLong
  else if d.isBlocked (directory ++ place) then some .notDirectory
  else if isFile && (place.isEmpty || d.isDirectory (directory ++ place)) then some .notFile
  else if !isFile && (d.read? (directory ++ place)).isSome then some .fileInPlace
  else none

/-- Unpacks an archive into a directory up to the first entry that cannot be written. An entry that ends with a slash is
a directory. -/
def Disk.unpack (d : Disk) (directory : List (List Char)) : Archive → Option TaskError × Disk
  | [] => (none, d)
  | f :: rest =>
    let place := archivePlace f.1
    let isFile := !f.1.endsWith "/"
    match d.obstacle? isFile directory place with
    | some e => (some e, d)
    | none => (if isFile then d.write (directory ++ place) f.2 else d.makeDirectory (directory ++ place)).unpack
      directory rest

/-! ## The task -/

inductive ParseRun where
  | unknown
  | done (files symbols documented : Nat)

def ParseRun.record (repository : String) : ParseRun → Json
  | unknown => .obj [("error", .str "Repository not found")]
  | done files symbols documented => .obj [("repository_id", .str repository), ("files_processed", .int files),
      ("symbols_extracted", .int symbols), ("symbols_documented", .int documented), ("status", .str "completed")]

def Store.keepSources (s : Store) (repository : Id)
    (read : List (SourceFile × List (Symbol × Option (List Char)))) : Store :=
  read.foldl (fun s f => s.keepSource repository f.1 f.2) s

def Store.setStatus (s : Store) (repository : Id) (status : RepoStatus) : Store :=
  s.updateRepository repository fun r => { r with status := status }

/-- Reads the source files into the store and closes the work on the repository. Symbols are counted as they are found.
-/
def Store.parse (s : Store) (repository : Id) (trees : List (String × SyntaxTree)) (files : List SourceFile) :
    ParseRun × Store :=
  let read := files.map fun f => (f, f.found (trees.lookup f.path))
  let symbols := total (read.map (·.2.length))
  let documented := total (read.map (·.2.countP (·.2.isSome)))
  (.done files.length symbols documented,
    (s.keepSources repository read).updateRepository repository fun r =>
      { r with fileCount := files.length, symbolCount := symbols, status := .completed })

/-- What follows when a repository has been read: its calls and, if the service makes vectors, those of its symbols. -/
def afterParse (repository : Id) : Work Unit := do
  Service.commit fun s => (s.extractCalls repository).2
  let s := (← get).settings
  if s.enableEmbeddings && !s.openaiKey.isEmpty then
    let _ ← embedRepository repository

/-- Reads a repository from an archive; none is an archive that cannot be opened. -/
def parseRepository (repository : Id) (archive : Option Archive) (trees : List (String × SyntaxTree)) :
    Work (Except TaskError ParseRun) := do
  if ((← Service.current).repository? repository).isNone then return .ok .unknown
  Service.commit fun s => s.setStatus repository .processing
  match archive with
  | none =>
    Service.commit fun s => s.setStatus repository .failed
    return .error .badArchive
  | some files =>
    let place := unpackPlace repository
    let (obstacle, disk) := (← get).disk.unpack place files
    modify fun s => { s with disk := disk }
    if let some e := obstacle then
      Service.commit fun s => s.setStatus repository .failed
      return .error e
    let s ← Service.current
    let (run, s) := s.parse repository trees (sourceFiles (disk.below place))
    Service.commit fun _ => s
    afterParse repository
    return .ok run

end CodeSurvey
