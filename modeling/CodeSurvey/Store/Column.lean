/-
Values of columns, and points in time written as a date and a time of day. A column takes plain values that are close to
its type, and turns them into it.
-/
import CodeSurvey.Json.Loose
import CodeSurvey.Store.Row

namespace CodeSurvey.Moment

/-- Days from the start of the year 0 to a day of the Gregorian calendar; a year is taken to start in March. -/
def dayNumber (year month day : Int) : Int :=
  let y := if month ≤ 2 then year - 1 else year
  let m := if month ≤ 2 then month + 9 else month - 3
  365 * y + y / 4 - y / 100 + y / 400 + (153 * m + 2) / 5 + day - 1

/-- The microseconds of a fraction of a second, of which six digits count. -/
def fraction (t : List Char) : Int :=
  let d := (t.takeWhile Char.isDigit).take 6
  ((Text.int? (d ++ List.replicate (6 - d.length) '0')).getD 0)

/-- The microseconds of a time of day: hours, minutes, seconds and a fraction, of which the last ones may be missing. -/
def timeOfDay (t : List Char) : Int :=
  let part (n : Nat) : Int := (Text.int? ((t.drop n).take 2)).getD 0
  (part 0 * 3600 + part 3 * 60 + part 6) * 1000000 + (if t[8]? == some '.' then fraction (t.drop 9) else 0)

def ofText? (t : List Char) : Option Moment := do
  let year ← Text.int? (t.take 4)
  let month ← Text.int? ((t.drop 5).take 2)
  let day ← Text.int? ((t.drop 8).take 2)
  return (dayNumber year month day - dayNumber 2024 1 1) * 86400000000 + timeOfDay (t.drop 11)

end CodeSurvey.Moment

namespace CodeSurvey.Column

/-- The whole numbers that a column can hold. -/
def isStorable (n : Int) : Bool := -9223372036854775808 ≤ n && n < 9223372036854775808

def fits : Json → Bool
  | .int n => isStorable n
  | _ => true

/-! ## Numbers as text -/

/-- Up to fifteen digits stand in front of the point, and there is always a fractional part. -/
def style : Decimal.Style := ⟨15, true⟩

def digitCount : Nat := 15

/-- The text of a double, rounded to fifteen digits; zero has no sign. What is not a number has no text. -/
def floatText? (x : Float) : Option String :=
  match Decimal.Binary.ofFloat? x with
  | none => if x.isNaN then none else some (if x < 0 then "-Inf" else "Inf")
  | some b =>
    if b.mant == 0 then some "0.0"
    else
      let body := Decimal.notate style ((Decimal.rounded digitCount b).trim 400)
      some (String.ofList (if b.neg then '-' :: body else body))

/-- The value as a text column keeps it: numbers are written out, and lists and records have no place. -/
def text? : Json → Option (Option String)
  | .null => some none
  | .str s => some (some s)
  | .int n => some (some (toString n))
  | .bool b => some (some (if b then "1" else "0"))
  | .float x => some (floatText? x)
  | _ => none

/-! ## Text as numbers -/

def isGap (c : Char) : Bool := c == ' ' || ('\t' ≤ c && c ≤ '\r')

/-- The exponent behind a number: zero if there is none, and `none` if the text is no exponent. -/
def exponent? : List Char → Option Int
  | [] => some 0
  | e :: r =>
    let (neg, digits) := Text.signOf r
    if (e == 'e' || e == 'E') && !digits.isEmpty && digits.all Char.isDigit then
      let n : Int := Json.natOfDigits digits
      some (if neg then -n else n)
    else none

/-- A double as a column of whole numbers keeps it: as a whole number if it is one that fits, and as nothing if it is
not a number. -/
def ofFloat (x : Float) : Json :=
  if x.isNaN then .null
  else if x == x.floor && x.abs < 9223372036854775808 then .int (Decimal.truncate x)
  else .float x

/-- The number that a text writes: a sign, digits with a point or without, and an exponent. -/
def number? (t : List Char) : Option Json :=
  let (neg, body) := Text.signOf (((t.dropWhile isGap).reverse.dropWhile isGap).reverse)
  let (whole, r) := body.span Char.isDigit
  let (fraction, r) := match r with
    | '.' :: s => s.span Char.isDigit
    | _ => ([], r)
  if whole.isEmpty && fraction.isEmpty then none
  else if whole.length == body.length then
    let n : Int := Json.natOfDigits whole
    let n := if neg then -n else n
    some (if isStorable n then .int n else .float (Decimal.ofInt n))
  else (exponent? r).map fun e =>
    ofFloat (Json.scaledFloat neg (Json.natOfDigits (whole ++ fraction)) (e - fraction.length))

/-- The value as a column of whole numbers keeps it: what is no number stays as it is, and lists and records have no
place. -/
def whole? : Json → Option Json
  | .null => some .null
  | .int n => some (.int n)
  | .bool b => some (.int (if b then 1 else 0))
  | .float x => some (ofFloat x)
  | .str s => some ((number? s.toList).getD (.str s))
  | _ => none

/-! ## Plain values -/

def int? (j : Json) : Option Int :=
  match whole? j with
  | some (.int n) => some n
  | _ => none

def float? : Json → Option Float
  | .float x => some x
  | .int n => some (Decimal.ofInt n)
  | .bool b => some (if b then 1 else 0)
  | .str s => Text.float? s.toList
  | _ => none

def bool? : Json → Option Bool
  | .bool b => some b
  | .int n => some (n != 0)
  | _ => none

def string? (j : Json) : Option String := (text? j).join

def id? (j : Json) : Option Id := j.asText?.bind fun s => Id.ofText? s.toList

/-- A double as a column keeps it: what is not a number is kept as nothing. -/
def double? (x : Float) : Option Float := if x.isNaN then none else some x

end CodeSurvey.Column

namespace CodeSurvey

/-- What a database makes of values from outside that are handed to its columns as they come, and which of its columns
must not be empty. -/
structure Database where
  /-- Can a column of whole numbers hold the number? -/
  holds : Int → Bool
  /-- The value as a column of whole numbers keeps it, if it takes it. -/
  whole? : Json → Option Json
  /-- The value as a column for so many characters keeps it, if it takes it. -/
  text? : (width : Nat) → Json → Option (Option String)
  /-- Must findings name their repository and their files, and snapshots their repository? -/
  bindsFindings : Bool

/-- A database that counts with eight bytes and does not mind the width of its columns. -/
def Database.lenient : Database where
  holds := Column.isStorable
  whole? j := if Column.fits j then Column.whole? j else none
  text? _ j := if Column.fits j then Column.text? j else none
  bindsFindings := true

end CodeSurvey
