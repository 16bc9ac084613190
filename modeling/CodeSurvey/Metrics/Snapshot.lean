/-
Snapshots: the figures of a repository as its rows give them, with the quality score: a hundred points, of which each of
four groups of shortcomings takes at most 25.
-/
import CodeSurvey.Basic
import CodeSurvey.Store.Basic

namespace CodeSurvey.Metrics

structure ScoreInput (α : Type) where
  averageComplexity : α
  duplicationPercentage : α
  smells : α
  criticalVulnerabilities : α
  highVulnerabilities : α

section

variable {α : Type} [Add α] [Sub α] [Mul α] [Div α] [LT α] [DecidableLT α] [(n : Nat) → OfNat α n]

/-- No group takes more than 25 points. -/
def capped (x : α) : α := if x < 25 then x else 25

/-- Points taken for what goes beyond an allowance, `weight` for each unit. -/
def excess (allowance weight x : α) : α := if allowance < x then capped ((x - allowance) * weight) else 0

/-- Points taken for code smells: half a point each. -/
def smellPenalty (x : α) : α := if 0 < x then capped (x / 2) else 0

/-- The score, never below zero. -/
def qualityScore (m : ScoreInput α) : α :=
  let score := 100 - excess 10 2 m.averageComplexity - excess 3 5 m.duplicationPercentage - smellPenalty m.smells -
    capped (m.criticalVulnerabilities * 5 + m.highVulnerabilities * 2)
  if 0 < score then score else 0

end

end CodeSurvey.Metrics

namespace CodeSurvey.Store

def highComplexities (s : Store) (repository : Id) : List Int :=
  ((s.symbolsOf repository).filterMap fun p => p.1.complexity).filter (10 < ·)

def mean (l : List Int) : Float := if l.isEmpty then 0 else Decimal.ofInt (intTotal l) / Decimal.ofInt l.length

def greatest (l : List Int) : Int := l.max?.getD 0

def percentage (part whole : Int) : Float := if 0 < whole then Decimal.ofInt part / Decimal.ofInt whole * 100 else 0

def smellCount (s : Store) (repository : Id) (severity : Severity) : Nat :=
  ((s.smellsOf repository).filter (·.severity == severity)).length

def vulnerabilityCount (s : Store) (repository : Id) (severity : String) : Nat :=
  ((s.vulnerabilitiesOf repository).filter (·.severity == severity)).length

/-- The figures of a repository. Complexity is measured on the symbols above ten, and symbols are not counted. -/
def figures (s : Store) (repository : Id) : Figures :=
  let files := s.filesOf repository
  let lines := intTotal (files.map (·.lineCount))
  let complexities := s.highComplexities repository
  let duplications := s.duplicationsOf repository
  let duplicateLines := intTotal (duplications.map (·.lines))
  let smells := (s.smellsOf repository).length
  let critical := s.vulnerabilityCount repository "critical"
  let high := s.vulnerabilityCount repository "high"
  let average := mean complexities
  let duplicated := percentage duplicateLines lines
  { files := files.length
    lines := lines
    averageComplexity := average
    maxComplexity := greatest complexities
    highComplexity := complexities.length
    duplications := duplications.length
    duplicateLines := duplicateLines
    duplicationPercentage := duplicated
    smells := smells
    criticalSmells := s.smellCount repository .critical
    highSmells := s.smellCount repository .high
    mediumSmells := s.smellCount repository .medium
    lowSmells := s.smellCount repository .low
    vulnerabilities := (s.vulnerabilitiesOf repository).length
    criticalVulnerabilities := critical
    highVulnerabilities := high
    qualityScore :=
      Metrics.qualityScore ⟨average, duplicated, Decimal.ofInt smells, Decimal.ofInt critical, Decimal.ofInt high⟩ }

def takeSnapshot (s : Store) (repository : Id) : Store :=
  s.addSnapshot fun id now => ⟨id, some repository, s.figures repository, .null, now⟩

end CodeSurvey.Store
