/-
Uploading a repository as an archive.
-/
import CodeSurvey.Api.Request

namespace CodeSurvey

namespace Api

def isAllowed (s : Settings) (name : String) : Bool :=
  s.allowedExtensions.contains (String.ofList (Text.lower (Path.extension name.toList)))

/-- The name of a file as it arrives: quotes and line ends are escaped, and of a path with a drive or a host in front
only the last part is left. -/
def arrivedName (name : String) : String :=
  let escaped := name.toList.flatMap fun c =>
    if c == '"' then ['%', '2', '2'] else if c == '\n' then ['%', '0', 'A'] else if c == '\r' then
      ['%', '0', 'D'] else [c]
  let isPath := (escaped.drop 1).take 2 == [':', '\\'] || escaped.take 2 == ['\\', '\\']
  String.ofList (if isPath then (Text.splitOnChar '\\' escaped).getLast?.getD [] else escaped)

def upload (r : Request) : Answering Json := do
  match r.body with
  | .upload name files =>
    let name := arrivedName name
    if name.isEmpty then throw (.refused 400 "Filename is missing")
    let s ← Answering.settings
    if !isAllowed s name then
      throw (.refused 400 ("Only " ++ ", ".intercalate s.allowedExtensions ++ " files supported"))
    let id := (← Answering.store).nextId
    Answering.commit fun t => t.addRepository (RepositoryRow.blank name)
    let _ ← parseRepository id (some files) []
    let path := s.uploadPath (id.text ++ ".zip")
    Answering.commit fun t => t.updateRepository id fun row => { row with uploadPath := some path }
    return .obj [("repository_id", id.json), ("filename", .str name), ("status", .str "processing"),
      ("task_id", .str "<id>"), ("message", .str "Upload successful. Processing in background.")]
  | _ => throw .malformed

end Api

end CodeSurvey
