/-
Pieces of a text: occurrences of one text in another, replacement, splitting at a separator, and cuts by position.
-/
import CodeSurvey.Text.Lines

namespace CodeSurvey.Text

def startsWith (piece t : List Char) : Bool := piece.isPrefixOf t

def endsWith (piece t : List Char) : Bool := piece.isSuffixOf t

def contains (piece : List Char) : List Char → Bool
  | [] => piece.isEmpty
  | c :: r => piece.isPrefixOf (c :: r) || contains piece r

/-- The offset of the first occurrence of the piece, counted on from `index`. -/
def findFrom (piece : List Char) (index : Nat) : List Char → Option Nat
  | [] => if piece.isEmpty then some index else none
  | c :: r => if piece.isPrefixOf (c :: r) then some index else findFrom piece (index + 1) r

def find? (piece t : List Char) : Option Nat := findFrom piece 0 t

/-- The text before the first occurrence of the piece; the whole text if there is none. -/
def upToFirst (piece t : List Char) : List Char :=
  match find? piece t with
  | some i => t.take i
  | none => t

/-- Cuts a text at the occurrences of a non-empty separator that do not overlap: `cur` holds the current piece
backwards, `acc` the pieces before it, the latest first, and the next `skip` characters belong to a separator. -/
def cutAt (sep : List Char) (skip : Nat) (cur : List Char) (acc : List (List Char)) : List Char → List (List Char)
  | [] => cur.reverse :: acc
  | c :: r =>
    match skip with
    | n + 1 => cutAt sep n cur acc r
    | 0 =>
      if sep.isPrefixOf (c :: r) then cutAt sep (sep.length - 1) [] (cur.reverse :: acc) r
      else cutAt sep 0 (c :: cur) acc r

def splitOnText (sep t : List Char) : List (List Char) := (cutAt sep 0 [] [] t).reverse

def countOf (piece t : List Char) : Nat := (splitOnText piece t).length - 1

def replace (piece new t : List Char) : List Char := joinWith new (splitOnText piece t)

def closeWord (acc : List Char × List (List Char)) : List (List Char) := if acc.1.isEmpty then acc.2 else acc.1 :: acc.2

/-- Puts a character in front of a text that is given by the word at its front and the words behind. -/
def wordStep (blank : Char → Bool) (c : Char) (acc : List Char × List (List Char)) : List Char × List (List Char) :=
  if blank c then ([], closeWord acc) else (c :: acc.1, acc.2)

/-- The pieces of a text between runs of white space. -/
def wordsBy (blank : Char → Bool) (t : List Char) : List (List Char) := closeWord (t.foldr (wordStep blank) ([], []))

/-- A position in a sequence of `n` items: negative positions count from the end, and all are moved into the sequence.
-/
def clampIndex (n : Nat) (i : Int) : Nat :=
  if i < 0 then (i + n).toNat else min i.toNat n

/-- The items from position `lo` up to and without position `hi`, either of which may count from the end. -/
def slice {α : Type} (lo hi : Int) (l : List α) : List α :=
  let n := l.length
  (l.take (clampIndex n hi)).drop (clampIndex n lo)

end CodeSurvey.Text
