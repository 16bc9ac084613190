/-
The reader of JSON texts. A text that cannot be read gives the complaint and the place of it, counted in characters.
Texts that go beyond the limits of the reader, by nested values or by long integers, are told apart from those that are
no JSON.
-/
import CodeSurvey.Json.Basic

namespace CodeSurvey.Json

inductive Complaint where
  | expectingValue
  | extraData
  | unterminatedString
  | controlCharacter
  | badEscape
  | badUnicodeEscape
  | expectingPropertyName
  | expectingColon
  | expectingComma
  | byteOrderMark
  | listTooDeep
  | recordTooDeep
  | integerTooLong (digits : Nat)

def Complaint.message : Complaint → String
  | expectingValue => "Expecting value"
  | extraData => "Extra data"
  | unterminatedString => "Unterminated string starting at"
  | controlCharacter => "Invalid control character at"
  | badEscape => "Invalid \\escape"
  | badUnicodeEscape => "Invalid \\uXXXX escape"
  | expectingPropertyName => "Expecting property name enclosed in double quotes"
  | expectingColon => "Expecting ':' delimiter"
  | expectingComma => "Expecting ',' delimiter"
  | byteOrderMark => "Unexpected UTF-8 BOM (decode using utf-8-sig)"
  | listTooDeep => "maximum recursion depth exceeded while decoding a JSON array from a unicode string"
  | recordTooDeep => "maximum recursion depth exceeded while decoding a JSON object from a unicode string"
  | integerTooLong n =>
    s!"Exceeds the limit ({Decimal.digitLimit} digits) for integer string conversion: value has {n} digits; use " ++
      "sys.set_int_max_str_digits() to increase the limit"

def Complaint.isLimit : Complaint → Bool
  | listTooDeep | recordTooDeep | integerTooLong _ => true
  | _ => false

structure ParseError where
  complaint : Complaint
  index : Nat

/-- The wording with line, column and offset of the place, where lines end with line feeds. A limit has no place. -/
def ParseError.message (e : ParseError) (t : List Char) : String :=
  if e.complaint.isLimit then e.complaint.message else
  let before := t.take e.index
  let line := before.count '\n' + 1
  let column := (before.reverse.takeWhile (· != '\n')).length + 1
  s!"{e.complaint.message}: line {line} column {column} (char {e.index})"

structure Rest where
  codes : List CodePoint
  index : Nat

abbrev Reading (α : Type) := Except ParseError (α × Rest)

def complain {α : Type} (c : Complaint) (index : Nat) : Reading α := .error ⟨c, index⟩

def isGap (c : Char) : Bool := c == ' ' || c == '\t' || c == '\n' || c == '\r'

def skipGap (cs : List CodePoint) (i : Nat) : Rest :=
  match cs with
  | .char c :: r => if isGap c then skipGap r (i + 1) else ⟨.char c :: r, i⟩
  | cs => ⟨cs, i⟩

def hexValue? (c : Char) : Option Nat :=
  if c.isDigit then some (c.toNat - '0'.toNat)
  else if 'a' ≤ c ∧ c ≤ 'f' then some (c.toNat - 'a'.toNat + 10)
  else if 'A' ≤ c ∧ c ≤ 'F' then some (c.toNat - 'A'.toNat + 10)
  else none

def hex4? : List CodePoint → Option Nat
  | .char a :: .char b :: .char c :: .char d :: _ => do
    let a ← hexValue? a
    let b ← hexValue? b
    let c ← hexValue? c
    let d ← hexValue? d
    return a * 4096 + b * 256 + c * 16 + d
  | _ => none

def simpleEscape? : Char → Option Char
  | '"' => some '"'
  | '\\' => some '\\'
  | '/' => some '/'
  | 'b' => some '\x08'
  | 'f' => some '\x0c'
  | 'n' => some '\n'
  | 'r' => some '\r'
  | 't' => some '\t'
  | _ => none

/-- Reads a string up to its closing quote. `start` is the offset of the opening quote, `acc` what was read, backwards.
Two escapes in a row may stand for one character. -/
def readString (start : Nat) :
    (fuel : Nat) → (acc : List CodePoint) → List CodePoint → (index : Nat) → Reading (List CodePoint)
  | 0, _, _, _ => complain .unterminatedString start
  | fuel + 1, acc, cs, i =>
    match cs with
    | [] | [.char '\\'] => complain .unterminatedString start
    | .char '"' :: r => .ok (acc.reverse, ⟨r, i + 1⟩)
    | .char '\\' :: .char 'u' :: r =>
      if (r.drop 4).isEmpty then complain .badUnicodeEscape (i + 1)
      else match hex4? r with
        | none => complain .badUnicodeEscape (i + 1)
        | some n =>
          let rest := r.drop 4
          let alone := fun (_ : Unit) => readString start fuel (.ofNat n :: acc) rest (i + 6)
          match rest with
          | .char '\\' :: .char 'u' :: r2 =>
            if !(0xd800 ≤ n && n < 0xdc00) || (r2.drop 4).isEmpty then alone ()
            else match hex4? r2 with
              | none => complain .badUnicodeEscape (i + 7)
              | some m =>
                match CodePoint.paired? n m with
                | some c => readString start fuel (.char c :: acc) (r2.drop 4) (i + 12)
                | none => alone ()
          | _ => alone ()
    | .char '\\' :: c :: r =>
      match c.char?.bind simpleEscape? with
      | none => complain .badEscape i
      | some d => readString start fuel (.char d :: acc) r (i + 2)
    | c :: r =>
      if c.toNat < 0x20 then complain .controlCharacter i else readString start fuel (c :: acc) r (i + 1)

def natOfDigits (ds : List Char) : Nat := ds.foldl (fun n d => n * 10 + (d.toNat - '0'.toNat)) 0

def digitRun : List CodePoint → List Char × List CodePoint
  | .char c :: r =>
    if c.isDigit then
      let (ds, s) := digitRun r
      (c :: ds, s)
    else ([], .char c :: r)
  | cs => ([], cs)

/-- The double `± n · 10 ^ e`. -/
def scaledFloat (neg : Bool) (n : Nat) (e : Int) : Float :=
  let x :=
    if n == 0 then 0
    else if e < -1000000 then 0
    else if 1000000 < e then Float.ofScientific 1 false 400
    else if e < 0 then Float.ofScientific n true e.natAbs
    else Float.ofScientific n false e.natAbs
  if neg then -x else x

def readInteger (neg : Bool) (digits : List Char) (rest : Rest) : Reading Json :=
  if Decimal.digitLimit < digits.length then complain (.integerTooLong digits.length) rest.index
  else
    let n : Int := natOfDigits digits
    .ok (int (if neg then -n else n), rest)

/-- Reads a number: an integer part without superfluous zeros, then an optional fraction and an optional exponent.
Without both the number is an integer. -/
def readNumber (cs : List CodePoint) (i : Nat) : Reading Json :=
  let (neg, body, j) := match cs with
    | .char '-' :: r => (true, r, i + 1)
    | _ => (false, cs, i)
  let (whole, r) := match body with
    | .char '0' :: r => (['0'], r)
    | _ => digitRun body
  if whole.isEmpty then complain .expectingValue i
  else
    let j := j + whole.length
    let (frac, r, j) := match r with
      | .char '.' :: s =>
        let (ds, s') := digitRun s
        if ds.isEmpty then ([], r, j) else (ds, s', j + 1 + ds.length)
      | _ => ([], r, j)
    let (exponent, r, j) : Option Int × List CodePoint × Nat := match r with
      | .char e :: s =>
        if e == 'e' || e == 'E' then
          let (eneg, s, k) := match s with
            | .char '-' :: s => (true, s, 2)
            | .char '+' :: s => (false, s, 2)
            | _ => (false, s, 1)
          let (ds, s') := digitRun s
          if ds.isEmpty then (none, r, j)
          else
            let n : Int := natOfDigits ds
            (some (if eneg then -n else n), s', j + k + ds.length)
        else (none, r, j)
      | _ => (none, r, j)
    if frac.isEmpty && exponent.isNone then readInteger neg whole ⟨r, j⟩
    else .ok (float (scaledFloat neg (natOfDigits (whole ++ frac)) (exponent.getD 0 - frac.length)), ⟨r, j⟩)

def literal? (word : String) (cs : List CodePoint) : Option (List CodePoint) :=
  if (word.toList.map CodePoint.char).isPrefixOf cs then some (cs.drop word.length) else none

/-- Reads the items of a list after its opening bracket; `value` reads one item, and `fuel` bounds their number. -/
def readItems (value : List CodePoint → Nat → Reading Json) :
    (fuel : Nat) → (acc : List Json) → List CodePoint → (index : Nat) → Reading Json
  | 0, _, _, i => complain .expectingValue i
  | fuel + 1, acc, cs, i =>
    match value cs i with
    | .error e => .error e
    | .ok (v, r) =>
      let r := skipGap r.codes r.index
      match r.codes with
      | .char ']' :: s => .ok (arr (v :: acc).reverse, ⟨s, r.index + 1⟩)
      | .char ',' :: s =>
        let s := skipGap s (r.index + 1)
        readItems value fuel (v :: acc) s.codes s.index
      | _ => complain .expectingComma r.index

/-- Reads the fields of a record after its opening brace; `value` reads one value, and `fuel` bounds their number. A
repeated field keeps its first place and its last value. -/
def readFields (value : List CodePoint → Nat → Reading Json) :
    (fuel : Nat) → (acc : List (String × Json)) → List CodePoint → (index : Nat) → Reading Json
  | 0, _, _, i => complain .expectingPropertyName i
  | fuel + 1, acc, cs, i =>
    match cs with
    | .char '"' :: r =>
      match readString i (fuel + 1) [] r (i + 1) with
      | .error e => .error e
      | .ok (key, r) =>
        let key := CodePoint.marked key
        let r := skipGap r.codes r.index
        match r.codes with
        | .char ':' :: s =>
          let s := skipGap s (r.index + 1)
          match value s.codes s.index with
          | .error e => .error e
          | .ok (v, r) =>
            let acc := if acc.any (·.1 == key) then acc.map fun f => if f.1 == key then (key, v) else f
              else (key, v) :: acc
            let r := skipGap r.codes r.index
            match r.codes with
            | .char '}' :: s => .ok (obj acc.reverse, ⟨s, r.index + 1⟩)
            | .char ',' :: s =>
              let s := skipGap s (r.index + 1)
              readFields value fuel acc s.codes s.index
            | _ => complain .expectingComma r.index
        | _ => complain .expectingColon r.index
    | _ => complain .expectingPropertyName i

/-- Reads a value that is neither a list nor a record; `size` bounds the length of a string. -/
def readPlain (size : Nat) (cs : List CodePoint) (i : Nat) : Reading Json :=
  match cs with
  | [] => complain .expectingValue i
  | .char '"' :: r =>
    match readString i size [] r (i + 1) with
    | .error e => .error e
    | .ok (s, r) => .ok (ofCodePoints s, r)
  | c :: _ =>
    if c == .char '-' || c.char?.any Char.isDigit then
      match literal? "-Infinity" cs with
      | some r => .ok (float (-1 / 0), ⟨r, i + 9⟩)
      | none => readNumber cs i
    else match literal? "null" cs with
      | some r => .ok (null, ⟨r, i + 4⟩)
      | none => match literal? "true" cs with
        | some r => .ok (bool true, ⟨r, i + 4⟩)
        | none => match literal? "false" cs with
          | some r => .ok (bool false, ⟨r, i + 5⟩)
          | none => match literal? "NaN" cs with
            | some r => .ok (float (0 / 0), ⟨r, i + 3⟩)
            | none => match literal? "Infinity" cs with
              | some r => .ok (float (1 / 0), ⟨r, i + 8⟩)
              | none => complain .expectingValue i

/-- Reads one value, in which lists and records are nested at most `levels` deep; `size` bounds the length of its parts.
-/
def readValue (size : Nat) : (levels : Nat) → List CodePoint → (index : Nat) → Reading Json
  | 0, cs, i =>
    match cs with
    | .char '[' :: _ => complain .listTooDeep i
    | .char '{' :: _ => complain .recordTooDeep i
    | _ => readPlain size cs i
  | levels + 1, cs, i =>
    match cs with
    | .char '[' :: r =>
      let r := skipGap r (i + 1)
      match r.codes with
      | .char ']' :: s => .ok (arr [], ⟨s, r.index + 1⟩)
      | _ => readItems (readValue size levels) size [] r.codes r.index
    | .char '{' :: r =>
      let r := skipGap r (i + 1)
      match r.codes with
      | .char '}' :: s => .ok (obj [], ⟨s, r.index + 1⟩)
      | _ => readFields (readValue size levels) size [] r.codes r.index
    | _ => readPlain size cs i

def parseWithin (levels : Nat) (t : List CodePoint) : Except ParseError Json :=
  if t.head? == some (.char '\ufeff') then .error ⟨.byteOrderMark, 0⟩
  else
    let s := skipGap t 0
    match readValue (t.length + 1) levels s.codes s.index with
    | .error e => .error e
    | .ok (v, r) =>
      let r := skipGap r.codes r.index
      if r.codes.isEmpty then .ok v else .error ⟨.extraData, r.index⟩

def nestingLimit : Nat := 970

def parseCodes (t : List CodePoint) : Except ParseError Json := parseWithin nestingLimit t

def parse (t : List Char) : Except ParseError Json := parseCodes (t.map .char)

end CodeSurvey.Json
