/-
Vectors for the symbols of a repository that have none yet.
-/
import CodeSurvey.Service

namespace CodeSurvey

inductive EmbeddingRun where
  | skipped (reason : String)
  | nothingNew
  | done (symbols : Nat) (model : String)

def EmbeddingRun.record (repository : String) : EmbeddingRun → Json
  | skipped reason => .obj [("status", .str "skipped"), ("reason", .str reason)]
  | nothingNew => .obj [("repository_id", .str repository), ("symbols_processed", .int 0), ("status", .str "completed")]
  | done n model => .obj [("repository_id", .str repository), ("symbols_processed", .int n), ("model", .str model),
      ("status", .str "completed")]

def Store.bareSymbols (s : Store) (repository : Id) : List SymbolRow :=
  ((s.symbolsOf repository).map (·.1)).filter fun y => !s.embeddings.any (·.symbolId == y.id)

def SymbolRow.embeddingText (y : SymbolRow) : String := Embedding.symbolText y.name y.kind.word y.signature

def Store.keepVectors (s : Store) (model : String) (dimensions : Int) (symbols : List SymbolRow)
    (vectors : List (List Float)) :
    Store :=
  s.addEmbeddings ((symbols.zip vectors).map fun p id now => ⟨id, p.1.id, p.2, model, dimensions, now⟩)

/-- Makes the vectors of a repository's symbols. A failed request leaves the store as it was. -/
def embedRepository (repository : Id) : Work (Except Embedding.Error EmbeddingRun) := do
  let s ← get
  if !s.settings.enableEmbeddings then return .ok (.skipped "Embeddings disabled in settings")
  if s.settings.openaiKey.isEmpty then return .ok (.skipped "OpenAI API key not configured")
  let symbols := s.store.bareSymbols repository
  if symbols.isEmpty then return .ok .nothingNew
  let texts := symbols.map fun y => some y.embeddingText.toList
  match ← Service.withAi (Embedding.many s.hasAi s.settings.openaiModel texts).run with
  | .error e => return .error e
  | .ok vectors =>
    Service.commit fun t => t.keepVectors s.settings.openaiModel s.settings.embeddingDimensions symbols vectors
    return .ok (.done vectors.length s.settings.openaiModel)

end CodeSurvey
