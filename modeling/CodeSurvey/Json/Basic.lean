/-
Structured values as they travel in requests, replies and reports. Integers and doubles are kept apart, and a record
keeps the order in which its fields were written.
-/
import CodeSurvey.Decimal.Shortest
import CodeSurvey.Text.CodePoint

namespace CodeSurvey

inductive Json where
  | null
  | bool (b : Bool)
  | int (n : Int)
  | float (x : Float)
  | str (s : String)
  /-- A text with a surrogate that stands alone. -/
  | odd (t : List CodePoint)
  | arr (items : List Json)
  | obj (fields : List (String × Json))

namespace Json

instance : Inhabited Json := ⟨null⟩

instance : Coe String Json := ⟨str⟩

instance : Coe Int Json := ⟨int⟩

instance : Coe Nat Json := ⟨fun n => int n⟩

instance : Coe Bool Json := ⟨bool⟩

instance : Coe Float Json := ⟨float⟩

def ofCodePoints (t : List CodePoint) : Json :=
  match t.mapM CodePoint.char? with
  | some cs => str (String.ofList cs)
  | none => odd t

def ofOption {α : Type} (f : α → Json) : Option α → Json
  | none => null
  | some a => f a

def ofText? (s : Option String) : Json := ofOption str s

def ofInt? (n : Option Int) : Json := ofOption int n

def ofFloat? (x : Option Float) : Json := ofOption float x

def ofTexts (l : List String) : Json := arr (l.map str)

/-- The field of a record; `none` also for what is not a record. -/
def get? (j : Json) (key : String) : Option Json :=
  match j with
  | obj fields => (fields.find? (·.1 == key)).map (·.2)
  | _ => none

/-- Sets a field of a list of fields: a known field keeps its place. -/
def setField (key : String) (v : Json) (fields : List (String × Json)) : List (String × Json) :=
  if fields.any (·.1 == key) then fields.map fun f => if f.1 == key then (key, v) else f
  else fields ++ [(key, v)]

def asText? : Json → Option String
  | str s => some s
  | _ => none

def items? : Json → Option (List Json)
  | arr l => some l
  | _ => none

def fields? : Json → Option (List (String × Json))
  | obj l => some l
  | _ => none

def isNull : Json → Bool
  | null => true
  | _ => false

def number? : Json → Option (Int ⊕ Float)
  | bool b => some (.inl (if b then 1 else 0))
  | int n => some (.inl n)
  | float x => some (.inr x)
  | _ => none

def isNaN : Json → Bool
  | float x => x.isNaN
  | _ => false

mutual

/-- Are the values equal? Numbers are compared by their exact values, and records without regard to order. What is not a
number differs from itself, but not as a part of a list or record. -/
def same : Json → Json → Bool
  | null, null => true
  | str a, str b => a == b
  | odd a, odd b => a == b
  | arr l, arr m => sameItems l m
  | obj l, obj m => l.length == m.length && sameFields l m
  | a, b =>
    match a.number?, b.number? with
    | some (.inl m), some (.inl n) => m == n
    | some (.inl m), some (.inr y) => Decimal.isInt y m
    | some (.inr x), some (.inl n) => Decimal.isInt x n
    | some (.inr x), some (.inr y) => x == y
    | _, _ => false

def sameItems : List Json → List Json → Bool
  | [], [] => true
  | a :: l, b :: m => (a.isNaN && b.isNaN || same a b) && sameItems l m
  | _, _ => false

def sameFields : List (String × Json) → List (String × Json) → Bool
  | [], _ => true
  | (k, a) :: l, m => (m.any fun (k', b) => k == k' && (a.isNaN && b.isNaN || same a b)) && sameFields l m

end

mutual

/-- Can the value be sent? Doubles that are not finite cannot, nor can surrogates that stand alone. -/
def isSendable : Json → Bool
  | float x => x.isFinite
  | odd _ => false
  | arr l => sendableItems l
  | obj l => sendableFields l
  | _ => true

def sendableItems : List Json → Bool
  | [] => true
  | j :: r => isSendable j && sendableItems r

def sendableFields : List (String × Json) → Bool
  | [] => true
  | (_, j) :: r => isSendable j && sendableFields r

end

def truthy : Json → Bool
  | null => false
  | bool b => b
  | int n => n != 0
  | float x => x != 0
  | str s => !s.isEmpty
  | odd _ => true
  | arr l => !l.isEmpty
  | obj l => !l.isEmpty

end Json

end CodeSurvey
