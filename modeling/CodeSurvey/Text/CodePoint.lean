/-
Texts from outside as code points: one half of a surrogate pair may stand alone in them. Their bytes are read as UTF-8,
UTF-16 or UTF-32, whichever a mark at the start or the zeros among the first bytes show.
-/
import CodeSurvey.Text.Utf8

namespace CodeSurvey

inductive CodePoint where
  | char (c : Char)
  | surrogate (n : Fin 2048)
deriving DecidableEq

namespace CodePoint

def ofNat (n : Nat) : CodePoint :=
  if h : 0xd800 ≤ n ∧ n < 0xe000 then surrogate ⟨n - 0xd800, by omega⟩ else char (Char.ofNat n)

def toNat : CodePoint → Nat
  | char c => c.toNat
  | surrogate n => 0xd800 + n

def char? : CodePoint → Option Char
  | char c => some c
  | surrogate _ => none

/-- The text with the replacement character for surrogates that stand alone. -/
def marked (t : List CodePoint) : String := String.ofList (t.map fun c => c.char?.getD '\ufffd')

/-- The character that two halves of a pair stand for. -/
def paired? (high low : Nat) : Option Char :=
  if 0xd800 ≤ high && high < 0xdc00 && 0xdc00 ≤ low && low < 0xe000 then
    some (Char.ofNat (0x10000 + (high - 0xd800) * 1024 + (low - 0xdc00)))
  else none

/-- The numbers that bytes stand for, so many bytes each; `none` if some are left over. -/
def numbers? (width : Nat) (isBig : Bool) (l : List UInt8) : Option (List Nat) :=
  let rec readFrom (left : Nat) (bytes : List UInt8) : List UInt8 → Option (List Nat)
    | [] => if bytes.isEmpty then some [] else none
    | b :: r =>
      let bytes := if isBig then bytes ++ [b] else b :: bytes
      match left with
      | n + 1 => readFrom n bytes r
      | 0 => (readFrom (width - 1) [] r).map (bytes.foldl (fun n b => n * 256 + b.toNat) 0 :: ·)
  readFrom (width - 1) [] l

def ofUnits : List Nat → List CodePoint
  | [] => []
  | [n] => [ofNat n]
  | high :: low :: r =>
    match paired? high low with
    | some c => char c :: ofUnits r
    | none => ofNat high :: ofUnits (low :: r)

def ofUtf16? (isBig : Bool) (l : List UInt8) : Option (List CodePoint) := (numbers? 2 isBig l).map ofUnits

def ofUtf32? (isBig : Bool) (l : List UInt8) : Option (List CodePoint) :=
  (numbers? 4 isBig l).bind fun ns => if ns.all (· < 0x110000) then some (ns.map ofNat) else none

def firstOf? (l : List UInt8) : Option (CodePoint × Nat) :=
  match Text.Utf8.firstChar? l, l with
  | some (c, n), _ => some (char c, n)
  | none, a :: b :: d :: _ =>
    if a == 0xed then do
      let x ← Text.Utf8.continuation? b
      let y ← Text.Utf8.continuation? d
      return (ofNat (0xd000 + x * 64 + y), 3)
    else none
  | none, _ => none

def ofUtf8? (l : List UInt8) : Option (List CodePoint) := Text.Utf8.readFrom? firstOf? 0 [] l

/-- The text of bytes whose form is not told otherwise; `none` if they are not well formed. -/
def decode? (l : List UInt8) : Option (List CodePoint) :=
  match l with
  | 0x00 :: 0x00 :: 0xfe :: 0xff :: r => ofUtf32? true r
  | 0xff :: 0xfe :: 0x00 :: 0x00 :: r => ofUtf32? false r
  | 0xfe :: 0xff :: r => ofUtf16? true r
  | 0xff :: 0xfe :: r => ofUtf16? false r
  | 0xef :: 0xbb :: 0xbf :: r => ofUtf8? r
  | 0x00 :: b :: _ :: _ :: _ => if b == 0 then ofUtf32? true l else ofUtf16? true l
  | _ :: 0x00 :: c :: d :: _ => if c == 0 && d == 0 then ofUtf32? false l else ofUtf16? false l
  | [0x00, _] => ofUtf16? true l
  | [_, 0x00] => ofUtf16? false l
  | _ => ofUtf8? l

end CodePoint

end CodeSurvey
