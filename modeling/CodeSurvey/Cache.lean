/-
Remembering the answers of functions under a key made from their arguments. Keys are forgotten by wildcard patterns: a
star stands for any text, a question mark for any character, and a bracket for one character of a set.
-/
import CodeSurvey.Digest
import CodeSurvey.Json.Printer

namespace CodeSurvey.Text.Glob

inductive Part where
  | many
  | one (p : Char → Bool)

/-- The characters and ranges of a set. A hyphen between two characters makes a range. -/
def ranges : List Char → List (Char × Char)
  | a :: '-' :: b :: r => (a, b) :: ranges r
  | a :: r => (a, a) :: ranges r
  | [] => []

def inRanges (l : List (Char × Char)) (c : Char) : Bool := l.any fun r => r.1 ≤ c && c ≤ r.2

/-- The class of a bracket's content; an exclamation mark in front turns it around. -/
def setOf : List Char → Char → Bool
  | '!' :: r, c => !inRanges (ranges r) c
  | r, c => inRanges (ranges r) c

/-- The content of a bracket and what follows it. A closing bracket that comes first belongs to the content. -/
def bracket? (t : List Char) : Option (List Char × List Char) :=
  let (head, t) := match t with
    | '!' :: ']' :: r => (['!', ']'], r)
    | '!' :: r => (['!'], r)
    | ']' :: r => ([']'], r)
    | r => ([], r)
  match t.span (· != ']') with
  | (body, _ :: r) => some (head ++ body, r)
  | (_, []) => none

/-- Reads a pattern; an opening bracket that is never closed stands for itself. -/
def parts : (fuel : Nat) → List Char → List Part
  | 0, _ => []
  | _ + 1, [] => []
  | n + 1, '*' :: r => .many :: parts n r
  | n + 1, '?' :: r => .one (fun _ => true) :: parts n r
  | n + 1, '[' :: r =>
    match bracket? r with
    | some (body, rest) => .one (setOf body) :: parts n rest
    | none => .one (· == '[') :: parts n r
  | n + 1, c :: r => .one (· == c) :: parts n r

def ends : List Char → List (List Char)
  | [] => [[]]
  | c :: r => (c :: r) :: ends r

def fits : List Part → List Char → Bool
  | [], t => t.isEmpty
  | .many :: ps, t => (ends t).any (fits ps)
  | .one p :: ps, c :: r => p c && fits ps r
  | .one _ :: _, [] => false

def «matches» (pattern text : List Char) : Bool := fits (parts pattern.length pattern) text

end CodeSurvey.Text.Glob

namespace CodeSurvey

/-- The store of answers. It can be out of reach, and it can refuse changes. -/
structure Cache where
  isAvailable : Bool
  isFailing : Bool
  entries : List (String × Json)

namespace Cache

def empty : Cache := ⟨true, false, []⟩

def sortedArguments (named : List (String × Json)) : List (String × Json) := named.mergeSort fun a b => a.1 ≤ b.1

def key (group function : String) (arguments : List Json) (named : List (String × Json)) : String :=
  let pairs := (sortedArguments named).map fun p => Json.tupleLiteral [.str p.1, p.2]
  let text := Json.tupleLiteral arguments ++ "[" ++ ", ".intercalate pairs ++ "]"
  group ++ ":" ++ function ++ ":" ++ Digest.Md5.hexOfText text

def get? (c : Cache) (k : String) : Option Json := c.entries.lookup k

def put (c : Cache) (k : String) (v : Json) : Cache :=
  if c.isFailing then c else { c with entries := Json.setField k v c.entries }

def call {σ : Type} (k : String) (f : σ → Json × σ) (s : σ) (c : Cache) : Json × σ × Cache :=
  if !c.isAvailable then
    let (v, s) := f s
    (v, s, c)
  else
    match c.get? k with
    | some v => (v, s, c)
    | none =>
      let (v, s) := f s
      (v, s, c.put k v)

def forget (pattern : String) (c : Cache) : Cache :=
  if !c.isAvailable || c.isFailing then c
  else { c with entries := c.entries.filter fun e => !Text.Glob.matches pattern.toList e.1.toList }

end Cache

end CodeSurvey
