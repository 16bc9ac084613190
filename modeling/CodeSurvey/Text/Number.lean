/-
Numbers written by people: integers and doubles with white space around them, a sign, and single underscores between
digits.
-/
import CodeSurvey.Json.Parser
import CodeSurvey.Text.Letter
import CodeSurvey.Text.Lines

namespace CodeSurvey.Text

/-- The digits of a number in which single underscores may stand between digits; `none` if there are no digits. -/
def groupedDigits? (t : List Char) : Option (List Nat) :=
  let groups := splitOnChar '_' t
  if groups.any (·.isEmpty) then none else groups.flatten.mapM decimalValue?

def signOf : List Char → Bool × List Char
  | '-' :: r => (true, r)
  | '+' :: r => (false, r)
  | t => (false, t)

def natOf (ds : List Nat) : Nat := ds.foldl (fun n d => n * 10 + d) 0

def int? (t : List Char) : Option Int := do
  let (neg, r) := signOf (strip t)
  let digits ← groupedDigits? r
  if Decimal.digitLimit < digits.length then none
  else
    let n : Int := natOf digits
    return if neg then -n else n

/-- Splits off an exponent: its value, zero if there is none. -/
def exponent? (t : List Char) : Option (List Char × Int) :=
  match t.span fun c => c != 'e' && c != 'E' with
  | (m, []) => some (m, 0)
  | (m, _ :: e) => do
    let (neg, r) := signOf e
    let n : Int := natOf (← groupedDigits? r)
    return (m, if neg then -n else n)

def sideDigits? (t : List Char) : Option (List Nat) := if t.isEmpty then some [] else groupedDigits? t

def float? (t : List Char) : Option Float := do
  let (neg, r) := signOf (strip t)
  let low := String.ofList (lower r)
  if low == "inf" || low == "infinity" then return if neg then -1.0 / 0.0 else 1.0 / 0.0
  if low == "nan" then return 0.0 / 0.0
  let (m, e) ← exponent? r
  let (whole, rest) := m.span (· != '.')
  let frac := rest.drop 1
  if whole.isEmpty && frac.isEmpty then none
  else
    let a ← sideDigits? whole
    let b ← sideDigits? frac
    return Json.scaledFloat neg (natOf (a ++ b)) (e - b.length)

end CodeSurvey.Text
