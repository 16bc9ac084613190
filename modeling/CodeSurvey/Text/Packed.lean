/-
Texts in packed form. A text is made of few signs, each of which stands for six answers of yes or no. Packed, it is a
number between nought and one: each answer narrows an interval in proportion to its chance, and the number lies in all
of the intervals. The chances are learnt from the signs before, so that what is expected takes little room.
-/

namespace CodeSurvey.Text.Packed

def signs : Array Char := " -0123456789ABCDEFGHIJKLMNOPQRSTUVWXYZabcdefghijkl+.=:".toList.toArray

def digits : List Char :=
  "!$%&()*+,./0123456789:;<=>?@ABCDEFGHIJKLMNOPQRSTUVWXYZ[]^_abcdefghijklmnopqrstuvwxyz|~".toList

/-! ## Chances -/

/-- Chances in 4096ths, at every half of a unit of the logarithm of the odds from minus eight to eight. -/
def chancePoints : Array Nat := #[
  1, 2, 3, 6, 10, 16, 27, 45, 73, 120, 194, 310, 488, 747, 1101, 1546, 2047, 2549, 2994, 3348, 3607, 3785, 3901, 3975,
  4022, 4050, 4068, 4079, 4085, 4089, 4092, 4093, 4094]

/-- The chance in 4096ths that belongs to a logarithm of odds in 256ths. -/
def chanceOf (odds : Int) : Nat :=
  let x := (max (-2047) (min 2047 odds) + 2048).toNat
  let between := x % 128
  (chancePoints.getD (x / 128) 0 * (128 - between) + chancePoints.getD (x / 128 + 1) 0 * between + 64) / 128

def oddsTable : Array Int :=
  (List.range 4095).foldl (fun table (i : Nat) =>
    let odds := (i : Int) - 2047
    table ++ Array.replicate (chanceOf odds + 1 - table.size) odds) #[]

/-- What is known of questions of a kind: 64 times the chance of a yes in 65536ths, and how often they have been asked,
up to sixty times. -/
def learnt (yes : Bool) (known : Nat) : Nat :=
  let asked := known % 64
  let chance := known / 64
  let share := 2 * asked + 3
  let chance := if yes then chance + (65535 - chance) * 2 / share else chance - chance * 2 / share
  chance * 64 + min (asked + 1) 60

/-- The last seven answers to a question, as binary digits behind a leading one. -/
def recalled (yes : Bool) (answers : Nat) : Nat :=
  let answers := 2 * answers + if yes then 1 else 0
  if answers < 256 then answers else answers % 128 + 128

/-- The logarithm of the odds of a yes, even as long as the question has not been asked. -/
def oddsOf (answers known : Nat) : Int := if answers == 1 then 0 else oddsTable.getD (known / 1024) 2047

/-- What has been learnt: the answers to each question, what follows from such answers, by opinion, and how much the
opinions count that are asked for the same answer. -/
structure Experience where
  answers : ByteArray
  known : Array Nat
  weights : Array Int

def opinions : Nat := 12

def Experience.none : Experience :=
  ⟨(List.range 25).foldl (fun b _ => b ++ b) ⟨#[1]⟩, Array.replicate (256 * opinions) (32768 * 64),
    Array.replicate (512 * opinions) 10000⟩

/-- The place of a question among the answers. Few questions share one. -/
def placeOf (node ground : Nat) : Nat := (ground + node) % 33554393

/-! ## What has been read -/

/-- What was read last, as far as the chances depend on it. Words are told apart by numbers. -/
structure Context where
  recent : Nat
  marks : Nat
  word : Nat
  words : Array Nat
  latest : Array Nat
  inName : Bool

def joint (a b : Nat) : Nat := (a * 8191 + b + 1) % 16777213

def Context.pass (c : Context) (sign : Nat) : Context :=
  let recent := (c.recent * 64 + sign) % 68719476736
  if sign < 2 then { c with recent := recent, word := 0, words := c.words.push c.word }
  else if sign < 38 then { c with recent := recent, word := joint c.word sign }
  else
    let latest := if c.inName then c.words.push c.word else c.latest
    { recent := recent, marks := (c.marks * 32 + (sign - 38)) % 1048576, word := 0, latest := latest,
      inName := sign < 50
      words := if sign < 50 then latest.take (sign - 38) else #[] }

/-- What each opinion on the next sign rests on. -/
def Context.grounds (c : Context) : List Nat :=
  [0, c.recent % 64, c.recent % 4096, c.recent % 262144, c.recent % 16777216, c.recent, c.word,
    joint (c.words.back?.getD 0) c.word, joint (c.latest.getD c.words.size 0) c.word, joint (c.words.getD 0 7) c.word,
    joint c.words.size (c.recent % 4096), joint (c.marks % 32768) (if c.word == 0 then 0 else 1)]

def Context.weighing (c : Context) (node : Nat) : Nat :=
  (node + 64 * (min c.words.size 3 + if c.word == 0 then 0 else 4)) * opinions

/-! ## Reading -/

/-- The interval, and the number in it as far as its digits have been taken from the text. -/
structure Interval where
  low : Nat
  high : Nat
  number : Nat
  rest : List Nat

/-- The weight of the first of the five digits that are held: each digit counts 86 times as much as the next one. -/
def firstDigit : Nat := 54700816

/-- Drops the digits in which both ends of the interval agree, of which there are at most `fuel`. -/
def Interval.settle : (fuel : Nat) → Interval → Interval
  | 0, i => i
  | fuel + 1, i =>
    if i.low / firstDigit == i.high / firstDigit then
      settle fuel ⟨i.low % firstDigit * 86, i.high % firstDigit * 86 + 85,
        i.number % firstDigit * 86 + i.rest.headD 0, i.rest.tail⟩
    else i

def Interval.answer (chance : Nat) (i : Interval) : Bool × Interval :=
  let middle := i.low + (i.high - i.low) * chance / 4096
  if i.number ≤ middle then (true, settle 5 { i with high := middle })
  else (false, settle 5 { i with low := middle + 1 })

def Experience.agreed (e : Experience) (node : Nat) : (place : Nat) → (grounds : List Nat) → Int
  | _, [] => 0
  | place, g :: grounds =>
    let answers := (e.answers.get! (placeOf node g)).toNat
    oddsOf answers (e.known.getD (place % opinions * 256 + answers) 0) * e.weights.getD place 0 +
      e.agreed node (place + 1) grounds

/-- Learns an answer. The opinions count more or less from now on, by how far they were wrong. -/
def Experience.learn (yes : Bool) (error : Int) (node : Nat) :
    (place : Nat) → (grounds : List Nat) → Experience → Experience
  | _, [], e => e
  | place, g :: grounds, ⟨answers, known, weights⟩ =>
    let before := (answers.get! (placeOf node g)).toNat
    let kind := place % opinions * 256 + before
    let odds := oddsOf before (known.getD kind 0)
    learn yes error node (place + 1) grounds
      ⟨answers.set! (placeOf node g) (recalled yes before).toUInt8, known.modify kind (learnt yes),
        weights.modify place (· + (odds * error + 32768) / 65536)⟩

def readAnswer (grounds : List Nat) (weighing node : Nat) (e : Experience)
    (i : Interval) : Bool × Experience × Interval :=
  let chance := chanceOf (e.agreed node weighing grounds / 65536)
  let (yes, i) := i.answer chance
  (yes, e.learn yes (((if yes then 4096 else 0) - (chance : Int)) * 36) node weighing grounds, i)

/-- Reads the number of a sign by its answers, of which `fuel` are left; `node` holds those before, behind a leading
one. -/
def readSign (grounds : List Nat) (weighing : Nat → Nat) :
    (fuel node : Nat) → Experience → Interval → Nat × Experience × Interval
  | 0, node, e, i => (node - 64, e, i)
  | fuel + 1, node, e, i =>
    let (yes, e, i) := readAnswer grounds (weighing node) node e i
    readSign grounds weighing fuel (2 * node + if yes then 1 else 0) e i

def readSigns : (count : Nat) → Context → Experience → Interval → (acc : List Char) → List Char
  | 0, _, _, _, acc => acc.reverse
  | count + 1, c, e, i, acc =>
    let grounds := c.grounds.zipIdx.map fun g => (g.1 * opinions + g.2) * 64
    let (sign, e, i) := readSign grounds c.weighing 6 1 e i
    readSigns count (c.pass sign) e i (signs.getD sign ' ' :: acc)

/-- The text of `count` signs that is packed in a text. What is no digit means nothing. -/
def unpack (count : Nat) (packed : String) : List Char :=
  let number := packed.toList.filterMap fun c => digits.idxOf? c
  readSigns count ⟨0, 0, 0, #[], #[], false⟩ .none
    ⟨0, firstDigit * 86 - 1, (number.take 5).foldl (fun n d => n * 86 + d) 0, number.drop 5⟩ []

end CodeSurvey.Text.Packed
