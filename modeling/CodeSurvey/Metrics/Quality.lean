/-
Quality of a piece of code: cyclomatic complexity, by counting the words and signs that open a further path, the numbers
of code and comment lines, and the maintainability index with its rating.
-/
import CodeSurvey.Json.Loose
import CodeSurvey.Language
import CodeSurvey.Pattern

/-! ## Complexity -/

namespace CodeSurvey.Metrics

open Pattern

structure Decision where
  label : String
  pattern : Pattern

def wordDecision (w : String) : Decision := ⟨w, word w⟩

/-- The decisions of a language. COBOL and assembly are matched in upper case. -/
def decisions : Language → List Decision
  | .python => ["if", "elif", "for", "while", "except", "case", "and", "or"].map wordDecision
  | .c => ["if", "for", "while", "do", "case"].map wordDecision ++
      [⟨"ternary_?", lit "?"⟩, ⟨"logical_and_&&", lit "&&"⟩, ⟨"logical_or_||", lit "||"⟩]
  | .cobol =>
    [wordDecision "IF", wordDecision "EVALUATE",
      ⟨"PERFORM_UNTIL", wordEdge ++ lit "PERFORM" ++ blanks1 ++ lit "UNTIL" ++ wordEdge⟩,
      wordDecision "AND", wordDecision "OR"]
  | .assembly =>
    [⟨"Jxx", wordEdge ++ lit "J" ++ plus (fun c => 'A' ≤ c && c ≤ 'Z') ++ wordEdge⟩,
      wordDecision "CALL", wordDecision "RET", wordDecision "LOOP"]

def decisionText (lang : Language) (t : List Char) : List Char :=
  match lang with
  | .python | .c => t
  | .cobol | .assembly => Text.upper t

/-- A bracket that holds a loop and, after it, a condition. -/
def filteredComprehension : Pattern :=
  one (fun c => c == '[' || c == '(' || c == '{') ++ lazyStar (fun _ => true) ++ word "for" ++
    lazyStar (fun _ => true) ++ word "if" ++ lazyStar (fun _ => true) ++ one (fun c => c == ']' || c == ')' || c == '}')

def decisionCounts (lang : Language) (t : List Char) : List (String × Nat) :=
  let t := decisionText lang t
  (decisions lang).map fun d => (d.label, d.pattern.count t)

def complexity (lang : Option Language) (t : List Char) : Nat :=
  match lang with
  | none => 1
  | some lang => 1 + total ((decisionCounts lang t).map (·.2))

/-- The counts behind a complexity by label. The comprehensions are listed, but do not add to the complexity. -/
def complexityBreakdown (lang : Option Language) (t : List Char) : List (String × Nat) :=
  ("base", 1) :: match lang with
    | none => []
    | some lang =>
      decisionCounts lang t ++
        (if lang = .python then [("comprehensions_for_if", filteredComprehension.count t)] else [])

/-! ## Lines -/

open Text

inductive LineKind where
  | ignored
  | code
  | comment
deriving DecidableEq

def doubleTriple : List Char := ['"', '"', '"']

def singleTriple : List Char := ['\'', '\'', '\'']

/-- The kind of a line and whether a comment block is open after it, given whether one is open before it. Python toggles
its blocks at triple quotes. In C the line that opens a block also ends it. In COBOL column seven marks a comment, and
lines of fewer than seven characters are ignored. -/
def lineKind (lang : Option Language) (inside : Bool) (line : List Char) : LineKind × Bool :=
  let s := strip line
  match lang with
  | some .python =>
    if s.isEmpty then (.ignored, inside)
    else if contains doubleTriple s || contains singleTriple s then
      if countOf doubleTriple s ≥ 2 || countOf singleTriple s ≥ 2 then (.comment, inside) else (.comment, !inside)
    else if inside || startsWith ['#'] s then (.comment, inside)
    else (.code, inside)
  | some .c =>
    if s.isEmpty then (.ignored, inside)
    else
      let opens := contains ['/', '*'] s
      if inside || opens then (.comment, if opens then false else true)
      else if startsWith ['/', '/'] s then (.comment, inside)
      else (.code, inside)
  | some .cobol =>
    match line.drop 6 with
    | [] => (.ignored, inside)
    | c :: _ =>
      if c == '*' then (.comment, inside)
      else if s.isEmpty then (.ignored, inside)
      else (.code, inside)
  | some .assembly =>
    if s.isEmpty then (.ignored, inside)
    else if startsWith [';'] s || startsWith ['#'] s then (.comment, inside)
    else (.code, inside)
  | none => if s.isEmpty then (.ignored, inside) else (.code, inside)

def lineKinds (lang : Option Language) (ls : List (List Char)) : List LineKind :=
  (ls.foldl (fun (acc : List LineKind × Bool) l =>
    let r := lineKind lang acc.2 l
    (r.1 :: acc.1, r.2)) ([], false)).1.reverse

structure LineCount where
  code : Nat
  comments : Nat

def countLines (lang : Option Language) (t : List Char) : LineCount :=
  let kinds := lineKinds lang (lines t)
  ⟨kinds.count .code, kinds.count .comment⟩

/-! ## Maintainability -/

/-- The maintainability index from complexity, code lines and comment lines: between 0 and 100 with two decimal places,
and higher for code that is easier to maintain. No code at all has the best index. -/
def maintainabilityOf (complexity codeLines commentLines : Float) : Float :=
  if codeLines ≤ 0 then 100
  else
    let atLeast (bound x : Float) : Float := if x < bound then bound else x
    let volume := codeLines * (atLeast 2 codeLines).log
    let mi : Float := 171.0 - 5.2 * (atLeast 1 volume).log
    let mi := mi - 0.23 * atLeast 1 complexity
    let mi := mi - 16.2 * (atLeast 1 codeLines).log
    let mi := mi + 50.0 * (commentLines / codeLines)
    let mi := if mi < 100 then mi else 100
    Decimal.roundTo 2 (if 0 < mi then mi else 0)

def maintainability (complexity codeLines commentLines : Int) : Float :=
  maintainabilityOf (Decimal.ofInt complexity) (Decimal.ofInt codeLines) (Decimal.ofInt commentLines)

/-- The maintainability index from numbers as listed. Without code the other numbers are not looked at. -/
def looseMaintainability (complexity codeLines commentLines : Json) : Except Fault Float := do
  let n ← codeLines.double
  if n ≤ 0 then return 100
  return maintainabilityOf (← complexity.double) n (← commentLines.double)

inductive Rating where
  | excellent
  | good
  | fair
  | poor
deriving DecidableEq

namespace Rating

def name : Rating → String
  | excellent => "excellent"
  | good => "good"
  | fair => "fair"
  | poor => "poor"

def ofIndex {α : Type} [OfNat α 85] [OfNat α 65] [OfNat α 50] [LE α] [DecidableLE α] (mi : α) : Rating :=
  if (85 : α) ≤ mi then excellent
  else if (65 : α) ≤ mi then good
  else if (50 : α) ≤ mi then fair
  else poor

end Rating

structure Quality where
  complexity : Nat
  breakdown : List (String × Nat)
  maintainability : Float
  codeLines : Nat
  commentLines : Nat
  rating : Rating

def quality (lang : Option Language) (t : List Char) : Quality :=
  let cc := complexity lang t
  let n := countLines lang t
  let mi := maintainability cc n.code n.comments
  ⟨cc, complexityBreakdown lang t, mi, n.code, n.comments, Rating.ofIndex mi⟩

end CodeSurvey.Metrics
