/-
Lists of items, with sums and pieces of equal length, and why requests and tasks fail: a request over loosely structured
records cannot be answered, a request to the service gets no regular answer, and a task does not come to its end.
-/

namespace CodeSurvey

def total (counts : List Nat) : Nat := counts.foldr (· + ·) 0

def intTotal (numbers : List Int) : Int := numbers.foldr (· + ·) 0

/-- Cuts a list into pieces of `size` items, the last of which may be shorter; `fuel` bounds their number. -/
def chunksFrom {α : Type} (size : Nat) : (fuel : Nat) → List α → List (List α)
  | 0, _ => []
  | fuel + 1, l => if l.isEmpty then [] else l.take size :: chunksFrom size fuel (l.drop size)

def chunks {α : Type} (size : Nat) (l : List α) : List (List α) := chunksFrom size l.length l

inductive Fault where
  | missingField
  | wrongType
  /-- A null value stands where a text is needed. -/
  | noText
  | divisionByZero
  | badValue
  | tooLarge
  | undecodable
  /-- A structured value does not fit the expected shape. -/
  | invalid
  | badAddress
  | noDialect
  | noDriver
  | outside
  | tooManyLevels
  | nestedTooDeeply
deriving DecidableEq

inductive Refusal where
  | refused (status : Nat) (detail : String)
  | malformed
  | broken (fault : Fault)
deriving DecidableEq

inductive TaskError where
  | badArchive
  | fetchFailed (message : String)
  /-- A change could not be kept, and no further change is taken until that is undone. -/
  | unsettled
  | notDirectory
  | notFile
  /-- A file lies where a directory is to be made. -/
  | fileInPlace
  | nameTooLong
  | fault (f : Fault)
deriving DecidableEq

end CodeSurvey
