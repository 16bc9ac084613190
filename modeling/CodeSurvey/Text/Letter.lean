/-
Characters of source text: white space, and the removal of it at the ends of a text; word characters, decimal digits,
printable characters and the characters of identifiers; and letter case, with the folding under which two spellings of a
word that differ only in case are equal. ASCII is decided by its own rule, everything else by table.
-/
import CodeSurvey.Text.Table

/-! ## White space -/

namespace CodeSurvey.Text

/-- White space: the ASCII controls from tab to carriage return, the four information separators, the space, the
next-line control, and Unicode's space and line separators. -/
def isBlank (c : Char) : Bool :=
  let n := c.toNat
  (0x09 ≤ n && n ≤ 0x0d) || (0x1c ≤ n && n ≤ 0x20) || n == 0x85 || n == 0xa0 || n == 0x1680 ||
    (0x2000 ≤ n && n ≤ 0x200a) || n == 0x2028 || n == 0x2029 || n == 0x202f || n == 0x205f || n == 0x3000

def stripLeftBy (p : Char → Bool) (t : List Char) : List Char := t.dropWhile p

def stripRightBy (p : Char → Bool) (t : List Char) : List Char := (t.reverse.dropWhile p).reverse

def stripBy (p : Char → Bool) (t : List Char) : List Char := stripRightBy p (stripLeftBy p t)

def stripLeft (t : List Char) : List Char := stripLeftBy isBlank t

def stripRight (t : List Char) : List Char := stripRightBy isBlank t

def strip (t : List Char) : List Char := stripBy isBlank t

def isBlankText (t : List Char) : Bool := t.all isBlank

/-! ## Classes -/

def isAlphanumeric (c : Char) : Bool :=
  if c.toNat < 128 then c.isAlphanum else CharClass.alphanumeric.contains c

def isWord (c : Char) : Bool := isAlphanumeric c || c == '_'

def isDecimal (c : Char) : Bool :=
  if c.toNat < 128 then c.isDigit else decimalTable.contains c.toNat

def decimalValue? (c : Char) : Option Nat :=
  if c.toNat < 128 then
    if c.isDigit then some (c.toNat - '0'.toNat) else none
  else
    (decimalTable.find? fun r => r.1 ≤ c.toNat && c.toNat ≤ r.2).map fun r => (c.toNat - r.1) % 10

def isPrintable (c : Char) : Bool :=
  if c.toNat < 128 then 0x20 ≤ c.toNat && c.toNat < 0x7f else CharClass.printable.contains c

/-- Beyond ASCII these are the letters and, for the sake of older identifiers, four signs. -/
def isIdentifierStart (c : Char) : Bool :=
  if c.toNat < 128 then c.isAlpha || c == '_'
  else isAlphanumeric c && !isDecimal c && !CharClass.numeral.contains c ||
    [0x1885, 0x1886, 0x2118, 0x212E].contains c.toNat

def isIdentifierContinue (c : Char) : Bool :=
  if c.toNat < 128 then c.isAlphanum || c == '_'
  else isIdentifierStart c || isDecimal c || CharClass.continuing.contains c

/-- What may start a plain name: a Latin letter or an underscore. -/
def isNameStart (c : Char) : Bool := c == '_' || c.isAlpha

def isNameChar (c : Char) : Bool := isNameStart c || c.isDigit

/-! ## Case -/

namespace CaseRun

def image? (r : CaseRun) (n : Nat) : Option Nat :=
  if r.first ≤ n && n ≤ r.last && (n - r.first) % r.step == 0 then some (Int.ofNat n + r.shift).toNat else none

end CaseRun

def lowerChar (c : Char) : Char :=
  if c.toNat < 128 then c.toLower
  else match lowerRuns.findSome? (·.image? c.toNat) with
    | some m => Char.ofNat m
    | none => c

def capitalSigma : Char := Char.ofNat 0x3a3

/-- Is the nearest character that is not passed over a letter with a case? -/
def nextIsCased (t : List Char) : Bool :=
  match t.dropWhile CharClass.passed.contains with
  | [] => false
  | c :: _ => CharClass.cased.contains c

/-- The lower case of a capital sigma: its final form at the end of a word, with `before` in front of it backwards. -/
def lowerSigma (before after : List Char) : Char :=
  if nextIsCased before && !nextIsCased after then Char.ofNat 0x3c2 else Char.ofNat 0x3c3

/-- Copies a text in lower case backwards onto `acc`, with `before` in front of it backwards. -/
def lowerFrom (before acc : List Char) : List Char → List Char
  | [] => acc
  | c :: r =>
    if c == capitalSigma then lowerFrom (c :: before) (lowerSigma before r :: acc) r
    else if c.toNat == 0x130 then lowerFrom (c :: before) (Char.ofNat 0x307 :: 'i' :: acc) r
    else lowerFrom (c :: before) (lowerChar c :: acc) r

/-- The lower case of a text. The dotted capital I becomes an `i` and a combining dot, and a capital sigma at the end of
a word has a form of its own. -/
def lower (t : List Char) : List Char := (lowerFrom [] [] t).reverse

def upperChar (c : Char) : List Char :=
  if c.toNat < 128 then [c.toUpper]
  else match upperExpansions.find? (·.1 == c.toNat) with
    | some (_, l) => l.map Char.ofNat
    | none =>
      match upperRuns.findSome? (·.image? c.toNat) with
      | some m => [Char.ofNat m]
      | none => [c]

def upper (t : List Char) : List Char := t.flatMap upperChar

/-- The representative of a character among those that differ from it by case alone. The dotless `ı` and the long `ſ`
count as forms of `i` and `s`. -/
def foldChar (c : Char) : Char :=
  let d := lowerChar c
  if d.toNat == 0x131 then 'i' else if d.toNat == 0x17f then 's' else d

def isLetterAnyCase (c : Char) : Bool := (foldChar c).isAlpha

def isNameStartAnyCase (c : Char) : Bool := c == '_' || isLetterAnyCase c

def isNameCharAnyCase (c : Char) : Bool := isNameStartAnyCase c || c.isDigit

end CodeSurvey.Text
