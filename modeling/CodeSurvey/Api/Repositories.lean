/-
Repositories with their files and symbols.
-/
import CodeSurvey.Api.Request
import CodeSurvey.Store.Record

namespace CodeSurvey

namespace Api

def repositoryFields (r : RepositoryRow) : List (String × Json) :=
  [("id", r.id.json), ("name", .str r.name), ("status", .str r.status.name), ("file_count", .int r.fileCount),
    ("symbol_count", .int r.symbolCount), ("created_at", Moment.mark (some r.created))]

def listRepositories (r : Request) : Answering Json := do
  let limit ← r.limit "limit" 10 (some 100)
  let offset ← r.limit "offset" 0 none
  if offset < 0 then throw .malformed
  let offset ← Request.rowCount offset
  let limit ← Request.rowCount limit
  let rows := (← Answering.store).repositories
  let shown := limited limit ((latestFirst (·.created) rows).drop offset.toNat)
  return .obj [("total", .int rows.length), ("limit", .int limit), ("offset", .int offset),
    ("repositories", .arr (shown.map fun row => .obj (repositoryFields row)))]

def importPlace : Answering Json := throw (.refused 404 "This is a frontend route, not an API endpoint.")

def getRepository (id : String) : Answering Json := do
  let row ← repositoryNamed id
  return .obj (repositoryFields row ++ [("upload_path", .ofText? row.uploadPath)])

def keeps (filter : Option String) (value : String) : Bool := filter.all fun f => f.isEmpty || f == value

def listFiles (r : Request) (id : String) : Answering Json := do
  let limit ← r.limit "limit" 50 (some 100)
  let language := r.param? "language"
  let row ← repositoryNamed id
  let limit ← Request.rowCount limit
  let files := limited limit (((← Answering.store).filesOf row.id).filter fun f => keeps language f.language)
  return .obj [("repository_id", .str id), ("total_files", .int files.length),
    ("files", .arr (files.map fun f => .obj [("id", f.id.json), ("file_path", .str f.path),
      ("language", .str f.language), ("line_count", .int f.lineCount), ("created_at", Moment.mark (some f.created))]))]

def listSymbols (r : Request) (id : String) : Answering Json := do
  let limit ← r.limit "limit" 50 (some 500)
  let language := r.param? "language"
  let kind := r.param? "type"
  let row ← repositoryNamed id
  let limit ← Request.rowCount limit
  let symbols := limited limit (((← Answering.store).symbolsOf row.id).filter fun p =>
    keeps language p.2.language && keeps kind p.1.kind.code)
  return .obj [("repository_id", .str id), ("total_symbols", .int symbols.length),
    ("filters", .obj [("language", .ofText? language), ("type", .ofText? kind)]),
    ("symbols", .arr (symbols.map fun p => .obj [("symbol_id", p.1.id.json), ("name", .str p.1.name),
      ("type", .str p.1.kind.word), ("file_path", .str p.2.path), ("line_start", .int p.1.lineStart),
      ("line_end", .ofInt? p.1.lineEnd), ("signature", .ofText? p.1.signature)]))]

end Api

/-! ## The text of a file -/

/-- The text of a file: as it is encoded or, if it is not well encoded, with a character for each byte. -/
def shownText (bytes : List UInt8) : List Char :=
  Text.unifyNewlines ((Text.Utf8.decode? bytes).getD (bytes.map fun b => Char.ofNat b.toNat))

inductive ContentError where
  | outside
  | tooLong
  | notFound
  | notAFile

/-- The bytes of a file below a directory. The place of the file, written out, must begin like that of the directory. -/
def Disk.content (d : Disk) (directory file : List Char) : Except ContentError (List UInt8) :=
  let place := d.placeOf (Path.join directory file)
  if !(Path.placeText (d.placeOf directory)).isPrefixOf (Path.placeText place) then .error .outside
  else if place.any isTooLong then .error .tooLong
  else
    match d.read? place with
    | some bytes => .ok bytes
    | none => if d.isDirectory place then .error .notAFile else .error .notFound

namespace Api

def contentRefusal (file : String) : ContentError → Refusal
  | .outside => .refused 400 "Invalid file path: "
  | .tooLong => .broken .outside
  | .notFound => .refused 404 ("File not found on disk: " ++ file)
  | .notAFile => .refused 400 ("Path is not a file: " ++ file)

def shown (file : String) : Except ContentError (List UInt8) → Answering (List UInt8)
  | .ok bytes => pure bytes
  | .error e => throw (contentRefusal file e)

def contentRecord (id file : String) (f : FileRow) (bytes : List UInt8) : Json :=
  .obj [("repository_id", .str id), ("file_path", .str file), ("content", .str (String.ofList (shownText bytes))),
    ("language", .str f.language), ("line_count", .int f.lineCount), ("size_bytes", .int bytes.length),
    ("file_id", f.id.json)]

def uploadDirectory (row : RepositoryRow) : Answering String :=
  match row.uploadPath.filter fun p => !p.isEmpty with
  | some p => pure p
  | none => throw (.refused 400 "Repository does not have an upload path")

def fileContent (id file : String) : Answering Json := do
  let row ← repositoryNamed id
  let directory ← uploadDirectory row
  let f ← found ("File '" ++ file ++ "' not found in repository")
    (((← Answering.store).filesOf row.id).find? (·.path == file))
  let bytes ← shown file ((← get).disk.content directory.toList file.toList)
  return contentRecord id file f bytes

end Api

end CodeSurvey
