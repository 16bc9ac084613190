/-
The shortest decimal that reads back as a given double, the nearest decimal of a given length, and how decimals are
written.
-/
import CodeSurvey.Decimal.Double

namespace CodeSurvey.Decimal

/-- A positive decimal `digits · 10 ^ exp`. -/
structure Digits where
  digits : Nat
  exp : Int

/-- Compares `a · 10 ^ p` with `b · 2 ^ q`, exactly. -/
def compareScaled (a : Nat) (p : Int) (b : Nat) (q : Int) : Ordering :=
  compare (a * tenTo p.toNat * twoTo (-q).toNat) (b * twoTo q.toNat * tenTo (-p).toNat)

/-- Does the decimal `a · 10 ^ p` round to the double `mant · 2 ^ exp`? The ends of the interval belong to it if the
mantissa is even. -/
def readsBack (mant : Nat) (exp : Int) (a : Nat) (p : Int) : Bool :=
  let low := if mant == twoTo 52 && exp > -1074 then 4 * mant - 1 else 4 * mant - 2
  let high := 4 * mant + 2
  let closed := mant % 2 == 0
  let above := match compareScaled a p low (exp - 2) with
    | .gt => true
    | .eq => closed
    | .lt => false
  let below := match compareScaled a p high (exp - 2) with
    | .lt => true
    | .eq => closed
    | .gt => false
  above && below

def digitCount (n : Nat) : Nat := (Nat.toDigits 10 n).length

/-- The power of ten of the leading digit of `num / den`. -/
def leadingPower (num den : Nat) : Int :=
  let guess : Int := (digitCount num : Int) - (digitCount den : Int)
  if num * tenTo (-guess).toNat < den * tenTo guess.toNat then guess - 1 else guess

/-- Looks for a decimal with `n` digits, then with more, that reads back; of two such neighbours the nearer is taken,
and in a tie the even one. -/
def shortestFrom (mant : Nat) (exp : Int) (num den : Nat) (top : Int) : (fuel n : Nat) → Digits
  | 0, n =>
    let p := top - (n : Int) + 1
    ⟨roundHalfEven (num * tenTo (-p).toNat) (den * tenTo p.toNat), p⟩
  | fuel + 1, n =>
    let p := top - (n : Int) + 1
    let scaledNum := num * tenTo (-p).toNat
    let scaledDen := den * tenTo p.toNat
    let lo := scaledNum / scaledDen
    let near := roundHalfEven scaledNum scaledDen
    let other := if near == lo then lo + 1 else lo
    if near > 0 && readsBack mant exp near p then ⟨near, p⟩
    else if other > 0 && readsBack mant exp other p then ⟨other, p⟩
    else shortestFrom mant exp num den top fuel (n + 1)

/-- The shortest decimal that reads back as `b`, for a positive `b`. Seventeen digits always suffice. -/
def shortest (b : Binary) : Digits :=
  shortestFrom b.mant b.exp b.num b.den (leadingPower b.num b.den) 16 1

def Digits.trim (d : Digits) : (fuel : Nat) → Digits
  | 0 => d
  | fuel + 1 => if d.digits % 10 == 0 && d.digits > 0 then Digits.trim ⟨d.digits / 10, d.exp + 1⟩ fuel else d

def zeros (n : Nat) : List Char := List.replicate n '0'

/-- The decimal of `n` digits nearest to `b`, for a positive `b`; a half goes to the larger neighbour. -/
def rounded (n : Nat) (b : Binary) : Digits :=
  let p := leadingPower b.num b.den - (n : Int) + 1
  ⟨roundHalfUp (b.num * tenTo (-p).toNat) (b.den * tenTo p.toNat), p⟩

structure Style where
  /-- The most digits in front of the point. -/
  wholeDigits : Nat
  /-- Has a number with an exponent always a fractional part? -/
  pointed : Bool

/-- Up to sixteen digits stand in front of the point, and with an exponent a fractional part is written if there is one.
-/
def Style.plain : Style := ⟨16, false⟩

/-- Writes a decimal positionally if its leading digit stands for a power of ten from -4 on that needs no more digits
than the style allows, otherwise with an exponent of at least two digits. A positional decimal always has a fractional
part. -/
def notate (style : Style) (d : Digits) : List Char :=
  let ds := Nat.toDigits 10 d.digits
  let n := ds.length
  let point : Int := d.exp + n
  if -4 < point && point ≤ style.wholeDigits then
    if point ≤ 0 then ['0', '.'] ++ zeros (-point).toNat ++ ds
    else if point.toNat < n then ds.take point.toNat ++ ['.'] ++ ds.drop point.toNat
    else ds ++ zeros (point.toNat - n) ++ ['.', '0']
  else
    let e := point - 1
    let mantissa := match ds with
      | [] => []
      | [a] => if style.pointed then [a, '.', '0'] else [a]
      | a :: r => a :: '.' :: r
    let eds := Nat.toDigits 10 e.natAbs
    mantissa ++ ['e', if e < 0 then '-' else '+'] ++ zeros (2 - eds.length) ++ eds

def floatText (x : Float) : String :=
  match Binary.ofFloat? x with
  | none => if x.isNaN then "nan" else if x < 0 then "-inf" else "inf"
  | some b =>
    let body := if b.mant == 0 then ['0', '.', '0'] else notate .plain ((shortest b).trim 400)
    String.ofList (if b.neg then '-' :: body else body)

def fixedText (places : Nat) (x : Float) : String :=
  match Binary.ofFloat? x with
  | none => if x.isNaN then "nan" else if x < 0 then "-inf" else "inf"
  | some b =>
    let ds := Nat.toDigits 10 (roundHalfEven (b.num * tenTo places) b.den)
    let ds := zeros (places + 1 - ds.length) ++ ds
    let cut := ds.length - places
    let body := if places == 0 then ds else ds.take cut ++ ['.'] ++ ds.drop cut
    String.ofList (if b.neg then '-' :: body else body)

end CodeSurvey.Decimal
