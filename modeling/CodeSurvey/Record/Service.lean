/-
Records of what the service exchanges with its partners: the language model, the web, chats and mails.
-/
import CodeSurvey.Ai.Search
import CodeSurvey.Docs.Writer
import CodeSurvey.Gate.Notice
import CodeSurvey.GitHub.Remote
import CodeSurvey.Record.Code

namespace CodeSurvey

/-- The record of a request to the language model: of texts for vectors, their number and the start of the first fifty.
-/
def AiCall.record : AiCall → Json
  | .chat model temperature maxTokens messages =>
    .obj [("model", .str model), ("temperature", .float temperature), ("max_tokens", .int maxTokens),
      ("messages", .arr (messages.map fun m => .arr [.str m.1, .str m.2]))]
  | .embedding model texts =>
    let head := texts.take 50
    .obj [("model", .str model), ("count", .int texts.length), ("lengths", .arr (head.map fun t => .int t.length)),
      ("first", .arr (head.map fun t => .ofChars (t.take 60)))]

def AiService.record (s : AiService) : Json := .arr (s.calls.reverse.map AiCall.record)

def Docs.Documentation.record (d : Docs.Documentation) : Json :=
  .obj [("symbol_id", d.symbolId), ("symbol_name", d.symbolName), ("docstring", .ofChars d.docstring),
    ("insert_line", .int d.insertLine), ("file_id", d.fileId), ("file_path", d.path)]

def Question.Answer.record (a : Question.Answer) : Json :=
  let source (s : Question.Source) : Json :=
    .obj [("file", s.file), ("symbol", s.symbol), ("type", s.kind), ("lines", .str s.lines),
      ("similarity", .float s.similarity)]
  .obj [("answer", .str a.text), ("sources", .arr (a.sources.map source))]

def Search.Hit.record (h : Search.Hit) : Json :=
  .obj [("symbol_id", .str h.symbolId), ("name", h.name), ("type", h.kind), ("signature", h.signature),
    ("file_path", h.file), ("repository_id", .str h.repository), ("language", h.language),
    ("similarity", .float h.similarity), ("lines", .str h.lines), ("cyclomatic_complexity", h.complexity),
    ("maintainability_index", h.maintainability)]

def Search.record (s : Settings) (q : Search.Query) (hits : List Search.Hit) : Json :=
  .obj [("query", .str q.text), ("threshold", Search.thresholdOf s q.threshold), ("language", .ofText? q.language),
    ("repository_id", .ofText? q.repository), ("total_results", .int hits.length),
    ("results", .arr (hits.map Search.Hit.record))]

def Search.Parameters.record (p : Search.Parameters) : Json :=
  let more := (p.repository.map fun r => ("repository_id", Json.str r)).toList ++
    (p.language.map fun l => ("language", Json.str l)).toList
  .obj ([("query_embedding", .str p.vector), ("threshold", p.threshold), ("limit", .int p.limit)] ++ more)

def Search.Response.record (r : Search.Response) : Json :=
  let one (x : Search.Result) : Json :=
    .obj [("symbo_id", .str x.symbolId), ("name", .str x.name), ("type", .str x.kind), ("signature", .str x.signature),
      ("file_path", .str x.file), ("repository_id", .str x.repository), ("language", .str x.language),
      ("similiarity", .ofFloat? x.similarity), ("lines", .ofText? x.lines),
      ("cyclomatic_complexity", .ofInt? x.complexity), ("maintainability_index", .ofFloat? x.maintainability)]
  .obj [("query", .str r.query), ("threshold", .float r.threshold), ("total_results", .int r.total),
    ("results", .arr (r.results.map one))]

def WebRequest.record (r : WebRequest) : Json :=
  .obj [("url", .str r.url), ("headers", .obj (r.headers.map fun p => (p.1, .str p.2))), ("timeout", .int r.timeout)]

def GitHub.Metadata.record : Option GitHub.Metadata → Json
  | none => .obj []
  | some m =>
    .obj [("stars", m.stars), ("default_branch", m.branch), ("description", m.description), ("language", m.language),
      ("last_push", m.lastPush)]

def Gate.ChatPost.record (p : Gate.ChatPost) : Json :=
  .obj [("url", .str p.url), ("json", p.message), ("timeout", .float Gate.chatTimeout)]

def Gate.Mail.record (m : Gate.Mail) : Json :=
  .obj [("host", .str m.host), ("port", .int m.port), ("sender", .str m.sender), ("to", .str m.recipient),
    ("subject", .str m.subject), ("parts", .arr (m.parts.map fun p => .arr [.str p.1, .str p.2]))]

end CodeSurvey
