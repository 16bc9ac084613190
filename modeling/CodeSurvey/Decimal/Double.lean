/-
Doubles as exact numbers: the sign, the integer and the power of two that a finite double stands for, and rounding of
exact quotients. Also the limit of numbers written in decimal digits.
-/

namespace CodeSurvey.Decimal

/-- The most digits of a whole number that is read from a text. -/
def digitLimit : Nat := 4300

def twoTo (n : Nat) : Nat := Nat.pow 2 n

def tenTo (n : Nat) : Nat := Nat.pow 10 n

/-- A finite double: `± mant · 2 ^ exp`. -/
structure Binary where
  neg : Bool
  mant : Nat
  exp : Int

namespace Binary

/-- The exact value of a double; `none` for infinities and for what is not a number. -/
def ofFloat? (x : Float) : Option Binary :=
  let bits := x.toBits.toNat
  let neg := bits / twoTo 63 == 1
  let e := bits / twoTo 52 % 2048
  let f := bits % twoTo 52
  if e == 2047 then none
  else if e == 0 then some ⟨neg, f, -1074⟩
  else some ⟨neg, f + twoTo 52, Int.ofNat e - 1075⟩

/-- Numerator of the absolute value as a fraction over `den`. -/
def num (b : Binary) : Nat := b.mant * twoTo b.exp.toNat

def den (b : Binary) : Nat := twoTo (-b.exp).toNat

end Binary

def roundHalfEven (num den : Nat) : Nat :=
  let q := num / den
  let r := num % den
  if 2 * r < den then q
  else if den < 2 * r then q + 1
  else if q % 2 == 0 then q else q + 1

/-- The quotient rounded to the nearest integer, a half to the larger neighbour. -/
def roundHalfUp (num den : Nat) : Nat := (2 * num + den) / (2 * den)

/-- The double nearest to `± n / 10 ^ places`. -/
def ofScaled (neg : Bool) (n places : Nat) : Float :=
  let x := Float.ofScientific n true places
  if neg then -x else x

/-- The double rounded to decimal places: the nearest decimal of the exact value, a half to the even neighbour, and of
that decimal the nearest double. -/
def roundTo (places : Nat) (x : Float) : Float :=
  match Binary.ofFloat? x with
  | none => x
  | some b => ofScaled b.neg (roundHalfEven (b.num * tenTo places) b.den) places

def truncate (x : Float) : Int :=
  match Binary.ofFloat? x with
  | none => 0
  | some b =>
    let n := b.num / b.den
    if b.neg then -(n : Int) else n

def isInt (x : Float) (n : Int) : Bool :=
  match Binary.ofFloat? x with
  | none => false
  | some b => b.num == n.natAbs * b.den && (n == 0 || b.neg == decide (n < 0))

/-- The power of two by which a share is scaled to have the bits of a mantissa in front of the point. -/
def shareScale (part whole : Nat) : Nat :=
  let k := 52 + whole.log2 - part.log2
  min 1074 (if part * twoTo k < whole * twoTo 52 then k + 1 else k)

/-- The double nearest to `part / whole`, for a part that is not larger than the whole. -/
def ofShare (part whole : Nat) : Float :=
  if part == 0 then 0
  else
    let k := shareScale part whole
    -- a mantissa rounded up to the next power of two is carried into the exponent
    Float.ofBits (UInt64.ofNat ((1074 - k) * twoTo 52 + roundHalfEven (part * twoTo k) whole))

def ofInt (n : Int) : Float :=
  if n < 0 then -(Float.ofScientific n.natAbs false 0) else Float.ofScientific n.natAbs false 0

end CodeSurvey.Decimal
