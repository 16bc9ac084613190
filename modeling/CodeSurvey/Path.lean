/-
File paths with slashes between their segments.
-/
import CodeSurvey.Text.Piece

namespace CodeSurvey.Path

/-- The segments of a path that lead somewhere: empty segments and single points do not. -/
def segments (p : List Char) : List (List Char) :=
  (Text.splitOnChar '/' p).filter fun s => !s.isEmpty && s != ['.']

def name (p : List Char) : List Char := (segments p).getLast?.getD []

def baseName (p : List Char) : List Char := (Text.splitOnChar '/' p).getLast?.getD []

/-- Splits at the last point: what stands before it, and the rest from it on. -/
def splitAtLastPoint? (t : List Char) : Option (List Char × List Char) :=
  let tail := (t.reverse.takeWhile (· != '.')).reverse
  if tail.length < t.length then
    let n := t.length - tail.length - 1
    some (t.take n, t.drop n)
  else none

/-- The extension with its point: from the last point of the base name on, unless only points stand before it. -/
def extension (p : List Char) : List Char :=
  match splitAtLastPoint? (baseName p) with
  | some (stem, ext) => if stem.all (· == '.') then [] else ext
  | none => []

/-- The suffix of the last segment: from its last point on, unless that point is the first or the last character. -/
def suffix (p : List Char) : List Char :=
  match splitAtLastPoint? (name p) with
  | some (stem, ext) => if stem.isEmpty || ext.length ≤ 1 then [] else ext
  | none => []

/-- One step of a walk along a path: two points lead back, and from the top they lead nowhere. -/
def follow (place : List (List Char)) (step : List Char) : List (List Char) :=
  if step == ['.', '.'] then place.dropLast else place ++ [step]

def resolve (p : List Char) : List (List Char) := (segments p).foldl follow []

/-- Does the path start at the top? -/
def isAbsolute (p : List Char) : Bool := ['/'].isPrefixOf p

/-- The path of a file below a directory. A path that starts at the top stays as it is. -/
def join (directory p : List Char) : List Char := if isAbsolute p then p else directory ++ '/' :: p

def placeText (place : List (List Char)) : List Char := place.flatMap fun s => '/' :: s

/-- Comes a file before another in a walk? The files of a directory come before those below it, and names are in order.
-/
def walkLe : List (List Char) → List (List Char) → Bool
  | [], _ => true
  | _ :: _, [] => false
  | [a], [b] => !(String.ofList b < String.ofList a)
  | [_], _ :: _ :: _ => true
  | _ :: _ :: _, [_] => false
  | a :: r, b :: t => if a == b then walkLe r t else String.ofList a < String.ofList b

end CodeSurvey.Path
