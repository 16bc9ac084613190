/-
Text patterns and the search for them. A pattern is tried with ordered choice: the left alternative first, the longest
run of characters first unless the run is lazy, and the first way that lets the rest of the pattern succeed is the
match.
-/
import CodeSurvey.Text.Letter

namespace CodeSurvey

/-- A place in a text, with the pieces captured on the way to it. -/
structure Cursor where
  /-- What stands before the place, nearest character first. -/
  before : List Char
  after : List Char
  /-- The number of characters before the place. -/
  index : Nat
  /-- Captured pieces by group number, latest first. -/
  groups : List (Nat × List Char)

namespace Cursor

def atStart (t : List Char) : Cursor := ⟨[], t, 0, []⟩

def group? (c : Cursor) (i : Nat) : Option (List Char) := (c.groups.find? (·.1 == i)).map (·.2)

/-- The piece captured by a group, empty if the group took no part. -/
def group (c : Cursor) (i : Nat) : List Char := (c.group? i).getD []

def atWordEdge (c : Cursor) : Bool :=
  let left := match c.before with
    | [] => false
    | a :: _ => Text.isWord a
  let right := match c.after with
    | [] => false
    | a :: _ => Text.isWord a
  left != right

def atLineStart (c : Cursor) : Bool :=
  match c.before with
  | [] => true
  | a :: _ => a == '\n'

def atTextEnd (c : Cursor) : Bool :=
  match c.after with
  | [] => true
  | ['\n'] => true
  | _ => false

/-- All places reached by passing characters that satisfy `p`, the farthest first; `acc` holds those already passed. -/
def stops (p : Char → Bool) (groups : List (Nat × List Char)) :
    (after before : List Char) → (index : Nat) → (acc : List Cursor) → List Cursor
  | [], before, index, acc => ⟨before, [], index, groups⟩ :: acc
  | a :: r, before, index, acc =>
    let here : Cursor := ⟨before, a :: r, index, groups⟩
    if p a then stops p groups r (a :: before) (index + 1) (here :: acc) else here :: acc

/-- Tries the places reached by passing characters that satisfy `p`, the nearest first. -/
def firstStop (p : Char → Bool) (groups : List (Nat × List Char)) (k : Cursor → Option Cursor) :
    (after before : List Char) → (index : Nat) → Option Cursor
  | [], before, index => k ⟨before, [], index, groups⟩
  | a :: r, before, index =>
    match k ⟨before, a :: r, index, groups⟩ with
    | some d => some d
    | none => if p a then firstStop p groups k r (a :: before) (index + 1) else none

end Cursor

inductive Pattern where
  | nothing
  | one (p : Char → Bool)
  /-- As many characters of a class as possible, none included. -/
  | star (p : Char → Bool)
  /-- As few characters of a class as possible, none included. -/
  | lazyStar (p : Char → Bool)
  | seq (a b : Pattern)
  | alt (a b : Pattern)
  | group (i : Nat) (a : Pattern)
  /-- A condition on the place that consumes nothing. -/
  | place (p : Cursor → Bool)
  /-- The place, provided the pattern does not match there. -/
  | notAhead (a : Pattern)

namespace Pattern

instance : Append Pattern := ⟨seq⟩

instance : OrElse Pattern := ⟨fun a b => alt a (b ())⟩

/-- Matches the pattern at the cursor and hands the cursor behind it to `k`; the first success wins. -/
def run : Pattern → (Cursor → Option Cursor) → Cursor → Option Cursor
  | nothing, k, c => k c
  | one p, k, c =>
    match c.after with
    | [] => none
    | a :: r => if p a then k ⟨a :: c.before, r, c.index + 1, c.groups⟩ else none
  | star p, k, c => (Cursor.stops p c.groups c.after c.before c.index []).findSome? k
  | lazyStar p, k, c => Cursor.firstStop p c.groups k c.after c.before c.index
  | seq a b, k, c => a.run (fun d => b.run k d) c
  | alt a b, k, c =>
    match a.run k c with
    | some d => some d
    | none => b.run k c
  | group i a, k, c =>
    a.run (fun d => k { d with groups := (i, c.after.take (d.index - c.index)) :: d.groups }) c
  | place p, k, c => if p c then k c else none
  | notAhead a, k, c =>
    match a.run some c with
    | some _ => none
    | none => k c

/-! ## Building blocks -/

def ofChars : List Char → Pattern
  | [] => nothing
  | [c] => one (· == c)
  | c :: r => seq (one (· == c)) (ofChars r)

def lit (s : String) : Pattern := ofChars s.toList

def ofCharsAnyCase : List Char → Pattern
  | [] => nothing
  | [c] => one (fun d => Text.foldChar d == Text.foldChar c)
  | c :: r => seq (one (fun d => Text.foldChar d == Text.foldChar c)) (ofCharsAnyCase r)

def litAnyCase (s : String) : Pattern := ofCharsAnyCase s.toList

def optional (a : Pattern) : Pattern := alt a nothing

theorem run_optional_of_none {a : Pattern} {k : Cursor → Option Cursor} {c : Cursor} (h : a.run k c = none) :
    a.optional.run k c = k c := by
  simp [optional, run, h]

def times : Nat → Pattern → Pattern
  | 0, _ => nothing
  | n + 1, a => seq a (times n a)

def upTo : Nat → Pattern → Pattern
  | 0, _ => nothing
  | n + 1, a => optional (seq a (upTo n a))

def atLeast (n : Nat) (p : Char → Bool) : Pattern := seq (times n (one p)) (star p)

def plus (p : Char → Bool) : Pattern := seq (one p) (star p)

def lazyPlus (p : Char → Bool) : Pattern := seq (one p) (lazyStar p)

def oneOf : List Pattern → Pattern
  | [] => place fun _ => false
  | [a] => a
  | a :: r => alt a (oneOf r)

def anyLit (l : List String) : Pattern := oneOf (l.map lit)

def anyLitAnyCase (l : List String) : Pattern := oneOf (l.map litAnyCase)

def wordEdge : Pattern := place Cursor.atWordEdge

def lineStart : Pattern := place Cursor.atLineStart

def textEnd : Pattern := place Cursor.atTextEnd

def blanks : Pattern := star Text.isBlank

def blanks1 : Pattern := plus Text.isBlank

def rest : Pattern := star (· != '\n')

def word (s : String) : Pattern := wordEdge ++ lit s ++ wordEdge

/-! ## Searching -/

def matchAt? (p : Pattern) (c : Cursor) : Option Cursor := p.run some c

def matchStart? (p : Pattern) (t : List Char) : Option Cursor := p.matchAt? (Cursor.atStart t)

def startsMatch (p : Pattern) (t : List Char) : Bool := (p.matchStart? t).isSome

/-- The end of the first match at or after the place. -/
def searchFrom (p : Pattern) (before : List Char) (index : Nat) : List Char → Option Cursor
  | [] => p.matchAt? ⟨before, [], index, []⟩
  | a :: r =>
    match p.matchAt? ⟨before, a :: r, index, []⟩ with
    | some d => some d
    | none => searchFrom p (a :: before) (index + 1) r

def search? (p : Pattern) (t : List Char) : Option Cursor := p.searchFrom [] 0 t

def occursIn (p : Pattern) (t : List Char) : Bool := (p.search? t).isSome

structure Found where
  index : Nat
  text : List Char
  groups : List (Nat × List Char)

namespace Found

def group? (m : Found) (i : Nat) : Option (List Char) := (m.groups.find? (·.1 == i)).map (·.2)

def group (m : Found) (i : Nat) : List Char := (m.group? i).getD []

end Found

/-- Walks through the text and collects the matches that do not overlap, the latest first; the next `skip` characters
belong to the match before. A match of the empty text is passed over. -/
def collect (p : Pattern) (before : List Char) (index : Nat) (skip : Nat) (acc : List Found) : List Char → List Found
  | [] => acc
  | a :: r =>
    match skip with
    | n + 1 => collect p (a :: before) (index + 1) n acc r
    | 0 =>
      match p.matchAt? ⟨before, a :: r, index, []⟩ with
      | none => collect p (a :: before) (index + 1) 0 acc r
      | some d =>
        match d.index - index with
        | 0 => collect p (a :: before) (index + 1) 0 acc r
        | n + 1 => collect p (a :: before) (index + 1) n (⟨index, (a :: r).take (n + 1), d.groups⟩ :: acc) r

/-- All matches in the text that do not overlap, left to right. -/
def findAll (p : Pattern) (t : List Char) : List Found := (p.collect [] 0 0 [] t).reverse

def count (p : Pattern) (t : List Char) : Nat := (p.collect [] 0 0 [] t).length

/-- Walks through the text and copies it backwards onto `acc`, with every match replaced by `new` (given backwards); the
next `skip` characters belong to the match before. -/
def substitute (p : Pattern) (new : List Char) (before : List Char) (index : Nat) (skip : Nat) (acc : List Char) :
    List Char → List Char
  | [] => acc
  | a :: r =>
    match skip with
    | n + 1 => substitute p new (a :: before) (index + 1) n acc r
    | 0 =>
      match p.matchAt? ⟨before, a :: r, index, []⟩ with
      | none => substitute p new (a :: before) (index + 1) 0 (a :: acc) r
      | some d =>
        match d.index - index with
        | 0 => substitute p new (a :: before) (index + 1) 0 (a :: acc) r
        | n + 1 => substitute p new (a :: before) (index + 1) n (new ++ acc) r

def replaceAll (p : Pattern) (new : List Char) (t : List Char) : List Char :=
  (p.substitute new.reverse [] 0 0 [] t).reverse

end Pattern

end CodeSurvey
