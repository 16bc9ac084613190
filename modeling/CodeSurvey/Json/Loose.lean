/-
Loose reading of values: a number may be written as a text, a text may be a number, and so on, as far as the meaning is
plain. A value without a plain meaning is invalid.
-/
import CodeSurvey.Basic
import CodeSurvey.Text.Number

namespace CodeSurvey.Json

def valid {α : Type} : Option α → Except Fault α
  | some a => .ok a
  | none => .error .invalid

/-! ## Plain values -/

def looseText : Json → Except Fault String
  | str s => .ok s
  | odd t => .ok (CodePoint.marked t)
  | int n => .ok (toString n)
  | float x => .ok (Decimal.floatText x)
  | bool b => .ok (if b then "True" else "False")
  | _ => .error .invalid

/-- The value as an integer: doubles lose their fraction, and texts must write an integer. -/
def looseInt : Json → Except Fault Int
  | int n => .ok n
  | bool b => .ok (if b then 1 else 0)
  | float x => if x.isFinite then .ok (Decimal.truncate x) else if x.isNaN then .error .invalid else .error .tooLarge
  | str s => valid (Text.int? s.toList)
  | _ => .error .invalid

def looseFloat : Json → Except Fault Float
  | float x => .ok x
  | int n =>
    let x := Decimal.ofInt n
    if x.isFinite then .ok x else .error .tooLarge
  | bool b => .ok (if b then 1 else 0)
  | str s => valid (Text.float? s.toList)
  | _ => .error .invalid

def double (j : Json) : Except Fault Float :=
  match j.number? with
  | some (.inl n) => .ok (Decimal.ofInt n)
  | some (.inr x) => .ok x
  | none => .error .wrongType

def trueWords : List String := ["1", "on", "t", "true", "y", "yes"]

def falseWords : List String := ["0", "off", "f", "false", "n", "no"]

/-- The value as a truth value: also one, zero and the usual words in any case. -/
def looseBool : Json → Except Fault Bool
  | bool b => .ok b
  | int n => valid (if n == 1 then some true else if n == 0 then some false else none)
  | float x => valid (if x == 1 then some true else if x == 0 then some false else none)
  | str s =>
    let low := String.ofList (Text.lower s.toList)
    valid (if trueWords.contains low then some true else if falseWords.contains low then some false else none)
  | _ => .error .invalid

/-! ## Lists and records -/

def looseList {α : Type} (f : Json → Except Fault α) (j : Json) : Except Fault (List α) := do (← valid j.items?).mapM f

def pairField? (key : Json → Option String) : Json → Option (String × Json)
  | arr [k, v] => (key k).map (·, v)
  | str s =>
    match s.toList with
    | [k, v] => some (String.singleton k, str (String.singleton v))
    | _ => none
  | obj [k, v] => some (k.1, str v.1)
  | _ => none

/-- A record, or a list of pairs that stands for one; `key` reads the name of a field. -/
def recordBy (key : Json → Option String) : Json → Except Fault Json
  | obj fields => .ok (obj fields)
  | str s => if s.isEmpty then .ok (obj []) else .error .invalid
  | arr items => do
    let fields ← valid (items.mapM (pairField? key))
    return obj (fields.foldl (fun acc f => setField f.1 f.2 acc) [])
  | _ => .error .invalid

def looseRecord (j : Json) : Except Fault Json := recordBy asText? j

def keyText? : Json → Option String
  | str s => some s
  | int n => some (toString n)
  | float x => some (Decimal.floatText x)
  | bool b => some (if b then "true" else "false")
  | null => some "null"
  | _ => none

def looseTable (j : Json) : Except Fault Json := recordBy keyText? j

/-! ## Fields -/

def needField {α : Type} (j : Json) (key : String) (f : Json → Except Fault α) : Except Fault α := do
    f (← valid (j.get? key))

def optField {α : Type} (j : Json) (key : String) (f : Json → Except Fault α) : Except Fault (Option α) :=
  match j.get? key with
  | none | some null => .ok none
  | some v => (f v).map some

/-- A field that may be missing but not null, with the value that stands for a missing one. -/
def defaultField {α : Type} (j : Json) (key : String) (f : Json → Except Fault α) (standard : α) : Except Fault α :=
  match j.get? key with
  | none => .ok standard
  | some v => f v

end CodeSurvey.Json
