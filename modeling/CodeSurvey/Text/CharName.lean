/-
Characters by their Unicode names (version 14), which include those of control characters, corrected names and
abbreviations. Small letters stand for capital ones, except in the names that are composed by a rule: those of unified
ideographs, which end in their code point, and those of Hangul syllables, which spell their parts.
-/
import CodeSurvey.Text.CharName.Table
import CodeSurvey.Text.Table

namespace CodeSurvey.Text.CharName

/-! ## Names that end in a code point -/

def capitalHex? (c : Char) : Option Nat :=
  if c.isDigit then some (c.toNat - '0'.toNat)
  else if 'A' ≤ c && c ≤ 'F' then some (c.toNat - 'A'.toNat + 10)
  else none

def hexNumber? (digits : List Char) : Option Nat :=
  digits.foldl (fun acc c => acc.bind fun n => (capitalHex? c).map fun d => n * 16 + d) (some 0)

/-- The code point at the end of a name that begins with `start`, if it lies in the ranges. It has four digits, or five
if it needs them; `padded` allows five in any case. -/
def numbered? (start : String) (ranges : Ranges) (padded : Bool) (name : List Char) : Option Nat :=
  if start.toList.isPrefixOf name then
    let digits := name.drop start.length
    match hexNumber? digits with
    | some n =>
      let fits := digits.length == 4 || (digits.length == 5 && (padded || 0x10000 ≤ n))
      if fits && ranges.contains n then some n else none
    | none => none
  else none

def unifiedIdeographs : Ranges := #[
  (0x3400, 0x4DBF), (0x4E00, 0x9FFF), (0x20000, 0x2A6DF), (0x2A700, 0x2B738), (0x2B740, 0x2B81D), (0x2B820, 0x2CEA1),
  (0x2CEB0, 0x2EBE0), (0x30000, 0x3134A)]

def compatibilityIdeographs : Ranges := #[(0xF900, 0xFA6D), (0xFA70, 0xFAD9), (0x2F800, 0x2FA1D)]

def khitanCharacters : Ranges := #[(0x18B00, 0x18CD5)]

def nushuCharacters : Ranges := #[(0x1B170, 0x1B2FB)]

/-! ## Hangul syllables -/

def leadingConsonants : List String :=
  ["G", "GG", "N", "D", "DD", "R", "M", "B", "BB", "S", "SS", "", "J", "JJ", "C", "K", "T", "P", "H"]

def vowels : List String :=
  ["A", "AE", "YA", "YAE", "EO", "E", "YEO", "YE", "O", "WA", "WAE", "OE", "YO", "U", "WEO", "WE", "WI",
    "YU", "EU", "YI", "I"]

def trailingConsonants : List String :=
  ["", "G", "GG", "GS", "N", "NJ", "NH", "D", "L", "LG", "LM", "LB", "LS", "LT", "LP", "LH", "M", "B", "BS",
    "S", "SS", "NG", "J", "C", "K", "T", "P", "H"]

def longest? (names : List String) (t : List Char) : Option (Nat × List Char) :=
  let fitting := (names.zipIdx.filter fun n => n.1.toList.isPrefixOf t)
  let best := fitting.foldl (fun b n => match b with
    | some m => if m.1.length < n.1.length then some n else some m
    | none => some n) (none : Option (String × Nat))
  best.map fun n => (n.2, t.drop n.1.length)

def syllable? (t : List Char) : Option Nat := do
  let (l, t) ← longest? leadingConsonants t
  let (v, t) ← longest? vowels t
  let (c, t) ← longest? trailingConsonants t
  if t.isEmpty then some (0xAC00 + (l * vowels.length + v) * trailingConsonants.length + c) else none

def syllableStart : List Char := "HANGUL SYLLABLE ".toList

/-! ## The list of names

An entry starts with a mark. A small letter starts a name, and tells how many pieces it shares with the name before it:
none for `a`, one for `b`, and so on. A piece of a name ends with a blank or a hyphen. A plus sign stands for the name
before with its last character one further, a full stop for a code point without a name, and an equals sign starts the
number of the code point that comes next.
-/

def isMark (c : Char) : Bool := c == '.' || c == '+' || c == '=' || ('a' ≤ c && c ≤ 'l')

def lead : (n : Nat) → List Char → List Char
  | 0, _ => []
  | _, [] => []
  | n + 1, c :: r => c :: lead (if c == ' ' || c == '-' then n else n + 1) r

/-- A name, written backwards, with its last character one further; behind a nine, which becomes a zero, it is the one
before. -/
def further : List Char → List Char
  | [] => []
  | c :: r => if c == '9' then '0' :: further r else Char.ofNat (c.toNat + 1) :: r

structure Search where
  current : Nat
  /-- The current entry, as far as it is read, backwards. -/
  entry : List Char
  latest : List Char
  found : Option Nat

def Search.close (name : List Char) (s : Search) : Search :=
  match s.entry.reverse with
  | [] => s
  | mark :: rest =>
    if mark == '.' then { s with current := s.current + 1 }
    else if mark == '=' then { s with current := (hexNumber? rest).getD 0 }
    else
      let latest :=
        if mark == '+' then (further s.latest.reverse).reverse else lead (mark.toNat - 'a'.toNat) s.latest ++ rest
      ⟨s.current + 1, [], latest, if latest == name then some s.current else s.found⟩

def Search.pass (name : List Char) (s : Search) (c : Char) : Search :=
  if isMark c then { s.close name with entry := [c] } else { s with entry := c :: s.entry }

def find? (name : List Char) : Option Nat :=
  ((entries.get.foldl (Search.pass name) ⟨0, [], [], none⟩).close name).found

/-- The code point of a name in capital letters, other than those of unified ideographs and Hangul syllables. -/
def listed? (name : List Char) : Option Nat :=
  numbered? "CJK COMPATIBILITY IDEOGRAPH-" compatibilityIdeographs false name
    <|> numbered? "KHITAN SMALL SCRIPT CHARACTER-" khitanCharacters false name
    <|> numbered? "NUSHU CHARACTER-" nushuCharacters false name
    <|> find? name

end CharName

open CharName in
def charNamed? (name : List Char) : Option Char :=
  let code :=
    if syllableStart.isPrefixOf name then syllable? (name.drop syllableStart.length)
    else numbered? "CJK UNIFIED IDEOGRAPH-" unifiedIdeographs true name <|> listed? (name.map Char.toUpper)
  code.map Char.ofNat

end CodeSurvey.Text
