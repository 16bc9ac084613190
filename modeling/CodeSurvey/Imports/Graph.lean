/-
Dependencies between the files of a repository: a file depends on another if an import of it is the end of the other's
path. In the overview of what is stored, a file is imported by those that name its whole path.
-/
import CodeSurvey.Basic
import CodeSurvey.Imports.Basic
import CodeSurvey.Store.Basic

namespace CodeSurvey.Imports

structure FileNode where
  path : String
  language : Option String
  imports : List String
  importedBy : List String := []

def modulePath (name : String) : List Char := Text.replace ['.'] ['/'] name.toList ++ ".py".toList

def leadsTo (language : Option String) (name : String) (path : String) : Bool :=
  let guess := if language == some "python" then modulePath name else name.toList
  Text.endsWith guess path.toList || Text.endsWith name.toList path.toList

def FileNode.note (n : FileNode) (importer : String) : FileNode :=
  if n.importedBy.contains importer then n else { n with importedBy := n.importedBy ++ [importer] }

def noteImport (f : FileNode) (files : List FileNode) (name : String) : List FileNode :=
  files.map fun g => if leadsTo f.language name g.path then g.note f.path else g

def noteImports (files : List FileNode) (f : FileNode) : List FileNode := f.imports.foldl (noteImport f) files

def link (files : List FileNode) : List FileNode := files.foldl noteImports files

/-- Sets the node of a path: a known path keeps its place. -/
def putNode (files : List FileNode) (n : FileNode) : List FileNode :=
  if files.any (·.path == n.path) then files.map fun f => if f.path == n.path then n else f else files ++ [n]

structure FileEntry where
  path : Option String
  /-- The language: missing, null or a text. -/
  language : Option (Option String)
  source : Option (Option (List Char))

/-- The node of a listed file; a language without patterns imports nothing. -/
def FileEntry.node (e : FileEntry) : Except Fault FileNode :=
  match e.path, e.language, e.source with
  | some path, some language, some source =>
    match language.bind Language.ofName?, source with
    | none, _ => .ok { path := path, language := language, imports := [] }
    | some lang, some t => .ok { path := path, language := language, imports := ofSource lang t }
    | some _, none => .error .wrongType
  | _, _, _ => .error .missingField

/-- The nodes of a list of files, one for each path, with the files that import each. -/
def nodes (entries : List FileEntry) : Except Fault (List FileNode) := do
  return link ((← entries.mapM FileEntry.node).foldl putNode [])

def declared (files : List FileNode) : Nat := CodeSurvey.total (files.map (·.imports.length))

structure StoredFile where
  path : String
  language : String
  imports : List String

/-- What a file imports. A file without a text is left out, and one in another language imports nothing. -/
def storedFile? (f : FileRow) : Option StoredFile :=
  f.source.map fun t =>
    ⟨f.path, f.language, ((Language.ofName? f.language).map fun lang => overview lang t.toList).getD []⟩

def storedFiles (files : List FileRow) : List StoredFile := files.filterMap storedFile?

def putFile (files : List StoredFile) (f : StoredFile) : List StoredFile :=
  if files.any (·.path == f.path) then files.map fun g => if g.path == f.path then f else g else files ++ [f]

def distinctFiles (files : List StoredFile) : List StoredFile := files.foldl putFile []

def namers (files : List StoredFile) (path : String) : List String :=
  (files.filter fun f => f.imports.contains path).map (·.path)

def importCount (files : List StoredFile) : Nat := total (files.map (·.imports.length))

end CodeSurvey.Imports
