/-
What should be looked at first: the most complex functions, the ones that are hard to maintain, and the quality at
large.
-/
import CodeSurvey.Api.Request

namespace CodeSurvey

/-! ## The quality at large -/

namespace Quality

structure Measure where
  complexity : Int
  maintainability : Option Float

inductive Grade where
  | simple
  | moderate
  | complex
  | veryComplex
deriving DecidableEq

def isGraded : Grade → Int → Bool
  | .simple, n => n ≤ 10
  | .moderate, n => 11 ≤ n && n ≤ 20
  | .complex, n => 21 ≤ n && n ≤ 50
  | .veryComplex, n => 50 < n

def isRated : Metrics.Rating → Float → Bool
  | .excellent, x => 85 ≤ x
  | .good, x => 65 ≤ x && x ≤ 84.99
  | .fair, x => 50 ≤ x && x ≤ 64.99
  | .poor, x => x < 50

def graded (p : Int → Bool) (l : List Measure) : Nat := l.countP fun m => p m.complexity

def indexed (p : Float → Bool) (l : List Measure) : Nat := l.countP fun m => m.maintainability.any p

def average (l : List Float) : Float := if l.isEmpty then 0 else l.foldl (· + ·) 0 / Decimal.ofInt l.length

def meanComplexity (l : List Measure) : Float := Decimal.roundTo 2 (average (l.map fun m => Decimal.ofInt m.complexity))

def meanIndex (l : List Measure) : Float := Decimal.roundTo 2 (average (l.filterMap (·.maintainability)))

end Quality

def SymbolRow.measure? (y : SymbolRow) : Option Quality.Measure := y.complexity.map fun c => ⟨c, y.maintainability⟩

namespace Store

def scope (s : Store) : Option Id → List SymbolRow
  | some id => (s.symbolsOf id).map (·.1)
  | none => s.symbols

def measures (s : Store) (repository : Option Id) : List Quality.Measure :=
  (s.scope repository).filterMap SymbolRow.measure?

end Store

namespace Api

def repositoryParam (r : Request) : Answering (Option Id) :=
  r.param "repository_id" (fun t => (Id.ofText? t).map some) none

def qualityRecord (measures : List Quality.Measure) : Json :=
  let graded (g : Quality.Grade) : Json := .int (Quality.graded (Quality.isGraded g) measures)
  let rated (r : Metrics.Rating) : Json := .int (Quality.indexed (Quality.isRated r) measures)
  .obj [("total_symbols", .int measures.length),
    ("average_complexity", .float (Quality.meanComplexity measures)),
    ("average_maintainability", .float (Quality.meanIndex measures)),
    ("high_complexity_count", .int (Quality.graded (20 < ·) measures)),
    ("low_maintainability_count", .int (Quality.indexed (· < 65) measures)),
    ("complexity_distribution", .obj [("simple (1-10)", graded .simple), ("moderate (11-20)", graded .moderate),
      ("complex (21-50)", graded .complex), ("very_complex (50+)", graded .veryComplex)]),
    ("maintainability_distribution", .obj [("excellent (85-100)", rated .excellent), ("good (65-84)", rated .good),
      ("fair (50-64)", rated .fair), ("poor (<50)", rated .poor)])]

def dashboard (r : Request) : Answering Json := do
  let repository ← repositoryParam r
  let measures := (← Answering.store).measures repository
  return if measures.isEmpty then .obj [("message", .str "No quality metrics available")] else qualityRecord measures

def adviceRecord (p : SymbolRow × FileRow) : Json :=
  .obj [("symbol_id", p.1.id.json), ("name", .str p.1.name), ("complexity", .ofInt? p.1.complexity),
    ("maintainability", .ofFloat? p.1.maintainability), ("lines", .ofInt? p.1.codeLines), ("file_path", .str p.2.path),
    ("signature", .ofText? p.1.signature)]

def complexFunctions (r : Request) : Answering Json := do
  let least ← r.param "min_complexity" Text.int? 20
  let limit ← r.limit "limit" 50 none
  let repository ← repositoryParam r
  let least ← Request.rowCount least
  let limit ← Request.rowCount limit
  let rows := (← Answering.store).placedSymbols.filter fun p =>
    p.1.kind == .function && p.1.complexity.any (least ≤ ·) && repository.all (· == p.2.repositoryId)
  let worse (a b : SymbolRow × FileRow) : Bool := b.1.complexity.getD 0 ≤ a.1.complexity.getD 0
  return .arr ((limited limit (rows.mergeSort worse)).map adviceRecord)

/-- The functions that are hard to maintain, the worst first. They cannot be asked for by repository. -/
def hardFunctions (r : Request) : Answering Json := do
  let most ← r.param "max_index" Text.float? 65
  let limit ← r.limit "limit" 50 none
  let repository ← repositoryParam r
  if repository.isSome then throw (.broken .badValue)
  let limit ← Request.rowCount limit
  let rows :=
    (← Answering.store).placedSymbols.filter fun p => p.1.kind == .function && p.1.maintainability.any (· ≤ most)
  let worse (a b : SymbolRow × FileRow) : Bool := a.1.maintainability.getD 0 ≤ b.1.maintainability.getD 0
  return .arr ((limited limit (rows.mergeSort worse)).map adviceRecord)

/-- Code that is similar to a symbol. The search for it cannot be carried out. -/
def similarCode (r : Request) (id : String) : Answering Json := do
  let id ← idInPath id
  let _ ← r.limit "limit" 10 none
  let _ ← r.param "threshold" Text.float? 0.7
  let _ ← found "Symbol or embeddings not found" ((← Answering.store).embeddings.find? (·.symbolId == id))
  throw (.broken .noText)

end Api

end CodeSurvey
