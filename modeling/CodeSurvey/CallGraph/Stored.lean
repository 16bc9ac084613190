/-
The call graph of the calls that are kept of a repository: its functions and calls, the functions that nobody calls, and
the circles of calls.
-/
import CodeSurvey.CallGraph.Basic
import CodeSurvey.Store.Basic

namespace CodeSurvey.StoredCalls

/-! ## Functions -/

structure Node where
  name : String
  file : String
  /-- Whether it lies outside; not told of a function that was met as a caller first. -/
  isExternal : Option Bool
  calls : List String
  calledBy : List String

def callerNode (c : CallRow) : Node := ⟨c.callerName, c.callerFile, none, [], []⟩

def calleeNode (c : CallRow) : Node :=
  ⟨c.calleeName, (c.calleeFile.filter fun f => !f.isEmpty).getD "external", some c.isExternal, [], []⟩

def addNode (nodes : List Node) (n : Node) : List Node := if nodes.any (·.name == n.name) then nodes else nodes ++ [n]

def functions (calls : List CallRow) : List Node :=
  calls.foldl (fun nodes c => addNode (addNode nodes (callerNode c)) (calleeNode c)) []

def nodes (calls : List CallRow) : List Node :=
  (functions calls).map fun n =>
    { n with
      calls := (calls.filter (·.callerName == n.name)).map (·.calleeName)
      calledBy := (calls.filter (·.calleeName == n.name)).map (·.callerName) }

/-! ## Functions that nobody calls -/

def inner (calls : List CallRow) : List CallRow := calls.filter fun c => !c.isExternal

def isCalled (calls : List CallRow) (name : String) : Bool := (inner calls).any (·.calleeName == name)

def callers (calls : List CallRow) : List String := (calls.map (·.callerName)).eraseDups

def deadCallers (calls : List CallRow) : List String := (callers calls).filter fun n => !isCalled calls n

structure DeadCaller where
  name : String
  file : String
  calls : Nat

def pairLe (a b : String × String) : Bool := a.1 < b.1 || (a.1 == b.1 && !(b.2 < a.2))

def dead (calls : List CallRow) : List DeadCaller :=
  let places := ((calls.map fun c => (c.callerName, c.callerFile)).eraseDups).mergeSort pairLe
  (places.filter fun p => !isCalled calls p.1).map fun p =>
    ⟨p.1, p.2, (calls.filter fun c => c.callerName == p.1 && c.callerFile == p.2).length⟩

/-! ## Circles of calls -/

def digraph (calls : List CallRow) : Digraph String :=
  (inner calls).foldl (fun g c => g.link c.callerName c.calleeName) []

/-- Functions that call each other in a circle; the first comes again at the end. -/
structure Circle where
  cycle : List String

def Circle.length (c : Circle) : Nat := c.cycle.length - 1

def Circle.severity (c : Circle) : Severity := if c.length ≤ 2 then .high else if c.length ≤ 4 then .medium else .low

/-- The circles of calls, the shortest first. As longer ones are less grave, the gravest come first. -/
def circles (calls : List CallRow) : List Circle :=
  ((digraph calls).cycles.map Circle.mk).mergeSort fun a b => a.length ≤ b.length

end CodeSurvey.StoredCalls
