/-
The compatibility normal form of identifiers: spellings that differ only in presentation, such as full-width letters or
marks written apart from their letters, become one.
-/
import CodeSurvey.Json.Parser
import CodeSurvey.Text.NormalTable

namespace CodeSurvey.Text

def hexNumber (t : List Char) : Nat := t.foldl (fun n c => n * 16 + (Json.hexValue? c).getD 0) 0

/-- Adds a run of characters in its short form: the number of characters since the run before; after a hyphen, that of
the characters behind its first; and after a colon, what is said of them. -/
def addRun (runs : Array (Nat × Nat × List Char)) (word : List Char) : Array (Nat × Nat × List Char) :=
  let place := word.takeWhile (· != ':')
  let first := (runs.back?.map (·.2.1 + 1)).getD 0 + hexNumber (place.takeWhile (· != '-'))
  runs.push (first, first + hexNumber ((place.dropWhile (· != '-')).drop 1), (word.dropWhile (· != ':')).drop 1)

def runsOf (t : List Char) : Array (Nat × Nat × List Char) := (splitOnChar ' ' t).foldl addRun #[]

def decompositions : Thunk (Array (Nat × List Nat)) := Thunk.mk fun _ =>
  (runsOf (normalTables.get.getD 0 [])).flatMap fun (first, last, said) =>
    let parts := (splitOnChar '.' said).map hexNumber
    (Array.range (last + 1 - first)).map fun i => (first + i, parts.dropLast ++ [parts.getLastD 0 + i])

def combiningRuns : Thunk (Array (Nat × Nat × Nat)) := Thunk.mk fun _ =>
  (runsOf (normalTables.get.getD 2 [])).map fun (first, last, said) => (first, last, hexNumber said)

def compositions : Thunk (List (Nat × Nat × Nat)) := Thunk.mk fun _ =>
  ((splitOnChar ' ' (normalTables.get.getD 1 [])).foldl (fun (acc : List (Nat × Nat × Nat) × Nat) word =>
    let (mark, pair) := match splitOnChar ':' word with
      | [b, pair] => (hexNumber b, pair)
      | _ => (acc.2, word)
    match (splitOnChar '.' pair).map hexNumber with
    | [a, c] => ((a, mark, c) :: acc.1, mark)
    | _ => acc) ([], 0)).1

def decompositionOf (n : Nat) : (fuel lo hi : Nat) → Option (List Nat)
  | 0, _, _ => none
  | fuel + 1, lo, hi =>
    if lo < hi then
      let mid := (lo + hi) / 2
      match decompositions.get[mid]? with
      | none => none
      | some (c, t) =>
        if n == c then some t
        else if n < c then decompositionOf n fuel lo mid
        else decompositionOf n fuel (mid + 1) hi
    else none

def decompose (n : Nat) : List Nat :=
  if 0xac00 ≤ n && n ≤ 0xd7a3 then
    let s := n - 0xac00
    let t := s % 28
    [0x1100 + s / 588, 0x1161 + s % 588 / 28] ++ (if t == 0 then [] else [0x11a7 + t])
  else (decompositionOf n (decompositions.get.size + 1) 0 decompositions.get.size).getD [n]

def combiningClass (n : Nat) : Nat :=
  if n < 0x300 then 0
  else ((combiningRuns.get.find? fun r => r.1 ≤ n && n ≤ r.2.1).map (·.2.2)).getD 0

/-- Puts a mark behind those marks of the run in front that have no greater class; the run is given backwards. -/
def insertMark (n : Nat) : List Nat → List Nat
  | [] => [n]
  | m :: r =>
    let k := combiningClass n
    if k != 0 && combiningClass m > k then m :: insertMark n r else n :: m :: r

def orderMarks (l : List Nat) : List Nat := (l.foldl (fun acc n => insertMark n acc) []).reverse

def composePair (a b : Nat) : Option Nat :=
  if 0x1100 ≤ a && a < 0x1113 && 0x1161 ≤ b && b < 0x1176 then
    some (0xac00 + ((a - 0x1100) * 21 + (b - 0x1161)) * 28)
  else if 0xac00 ≤ a && a ≤ 0xd7a3 && (a - 0xac00) % 28 == 0 && 0x11a8 ≤ b && b < 0x11c3 then some (a + (b - 0x11a7))
  else (compositions.get.find? fun c => c.1 == a && c.2.1 == b).map (·.2.2)

/-- The state of the composition: what is finished, backwards; the letter that marks may join; and the marks behind it
that did not, backwards. -/
structure Composing where
  done : List Nat
  letter : Option Nat
  marks : List Nat

/-- Takes one more character: it joins the letter unless a mark of its class or a greater one stands between. -/
def composeStep (s : Composing) (n : Nat) : Composing :=
  let k := combiningClass n
  match s.letter with
  | none => if k == 0 then ⟨s.done, some n, []⟩ else ⟨n :: s.done, none, []⟩
  | some a =>
    let blocked := match s.marks with
      | [] => false
      | m :: _ => combiningClass m ≥ k
    match if blocked then none else composePair a n with
    | some c => ⟨s.done, some c, s.marks⟩
    | none =>
      if k == 0 then ⟨s.marks ++ (a :: s.done), some n, []⟩ else ⟨s.done, some a, n :: s.marks⟩

def compose (l : List Nat) : List Nat :=
  let s := l.foldl composeStep ⟨[], none, []⟩
  (s.marks ++ (s.letter.toList ++ s.done)).reverse

def normalForm (t : List Char) : List Char :=
  if t.all (·.toNat < 128) then t
  else (compose (orderMarks (t.flatMap fun c => decompose c.toNat))).map Char.ofNat

end CodeSurvey.Text
