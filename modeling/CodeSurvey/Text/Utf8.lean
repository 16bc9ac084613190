/-
The UTF-8 form of a text: its bytes, strict reading, and reading that leaves out what is not well formed.
-/

namespace CodeSurvey.Text.Utf8

def encode (t : List Char) : List UInt8 := (String.ofList t).toUTF8.toList

def continuation? (b : UInt8) : Option Nat :=
  if 0x80 ≤ b && b < 0xc0 then some (b.toNat - 0x80) else none

def inRange? (lo n : Nat) : Option Char :=
  if lo ≤ n && n < 0x110000 && !(0xd800 ≤ n && n < 0xe000) then some (Char.ofNat n) else none

def firstChar? : List UInt8 → Option (Char × Nat)
  | [] => none
  | a :: r =>
    if a < 0x80 then some (Char.ofNat a.toNat, 1)
    else if 0xc0 ≤ a && a < 0xe0 then
      match r with
      | b :: _ => do
        let x ← continuation? b
        let c ← inRange? 0x80 ((a.toNat - 0xc0) * 64 + x)
        return (c, 2)
      | _ => none
    else if 0xe0 ≤ a && a < 0xf0 then
      match r with
      | b :: d :: _ => do
        let x ← continuation? b
        let y ← continuation? d
        let c ← inRange? 0x800 (((a.toNat - 0xe0) * 64 + x) * 64 + y)
        return (c, 3)
      | _ => none
    else if 0xf0 ≤ a && a < 0xf8 then
      match r with
      | b :: d :: e :: _ => do
        let x ← continuation? b
        let y ← continuation? d
        let z ← continuation? e
        let c ← inRange? 0x10000 ((((a.toNat - 0xf0) * 64 + x) * 64 + y) * 64 + z)
        return (c, 4)
      | _ => none
    else none

/-- Reads on with `acc` read so far, backwards, where `first?` reads one character and tells how many bytes it has; the
next `skip` bytes belong to the character before. -/
def readFrom? {α : Type} (first? : List UInt8 → Option (α × Nat)) (skip : Nat) (acc : List α) : List UInt8 →
    Option (List α)
  | [] => some acc.reverse
  | b :: r =>
    match skip with
    | n + 1 => readFrom? first? n acc r
    | 0 =>
      match first? (b :: r) with
      | some (c, n) => readFrom? first? (n - 1) (c :: acc) r
      | none => none

/-- The text of the bytes; `none` unless all of them are well formed. -/
def decode? (l : List UInt8) : Option (List Char) := readFrom? firstChar? 0 [] l

def readValid (skip : Nat) (acc : List Char) : List UInt8 → List Char
  | [] => acc.reverse
  | b :: r =>
    match skip with
    | n + 1 => readValid n acc r
    | 0 =>
      match firstChar? (b :: r) with
      | some (c, n) => readValid (n - 1) (c :: acc) r
      | none => readValid 0 acc r

/-- The text of the bytes without those that are not well formed. -/
def decodeValid (l : List UInt8) : List Char := readValid 0 [] l

def canFollow (a b : UInt8) : Bool :=
  if a == 0xe0 then 0xa0 ≤ b && b < 0xc0
  else if a == 0xed then 0x80 ≤ b && b < 0xa0
  else if a == 0xf0 then 0x90 ≤ b && b < 0xc0
  else if a == 0xf4 then 0x80 ≤ b && b < 0x90
  else 0xe0 ≤ a && a < 0xf4 && (continuation? b).isSome

/-- How many bytes at the start of ill formed ones stand for one character: the longest start of a character, or a
single byte. -/
def brokenLength : List UInt8 → Nat
  | a :: b :: c :: _ =>
    if !canFollow a b then 1 else if 0xf0 ≤ a && (continuation? c).isSome then 3 else 2
  | [a, b] => if canFollow a b then 2 else 1
  | _ => 1

def readMarked (skip : Nat) (acc : List Char) : List UInt8 → List Char
  | [] => acc.reverse
  | b :: r =>
    match skip with
    | n + 1 => readMarked n acc r
    | 0 =>
      match firstChar? (b :: r) with
      | some (c, n) => readMarked (n - 1) (c :: acc) r
      | none => readMarked (brokenLength (b :: r) - 1) ('\ufffd' :: acc) r

/-- The text of the bytes, with the replacement character for those that are not well formed. -/
def decodeMarked (l : List UInt8) : List Char := readMarked 0 [] l

end CodeSurvey.Text.Utf8
