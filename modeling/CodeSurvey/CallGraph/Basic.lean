/-
The call graph of a repository: one node per name that calls or is called, one edge per call record. Its cycles are
found by depth-first search in a directed graph, which is a list of nodes with their successors; successors may be
missing from the nodes, repeated, or the node itself. Dead functions are nodes that nothing calls and that are no entry
points.
-/
import CodeSurvey.Calls.File

namespace CodeSurvey

structure CallNode (ι : Type) where
  /-- The name; none for calls outside of all symbols. -/
  name : Option String
  file : Option String
  id : Option ι
  /-- The names called, each once, in the order of the first call. -/
  calls : List String
  /-- The callers, each once, in the order of the first call. -/
  calledBy : List (Option String)
  isExternal : Bool

structure CallEdge where
  caller : Option String
  callee : String
  file : Option String
  line : Int

structure CallGraph (ι : Type) where
  nodes : List (CallNode ι)
  edges : List CallEdge

namespace CallGraph

variable {ι : Type}

def addNew {α : Type} [BEq α] (a : α) (l : List α) : List α := if l.contains a then l else l ++ [a]

def callerNode (r : CallRecord ι) : CallNode ι := ⟨r.caller, r.callerFile, r.callerId, [], [], false⟩

def calleeNode (r : CallRecord ι) : CallNode ι := ⟨some r.callee, r.calleeFile, r.calleeId, [], [], r.isExternal⟩

def addNode (n : CallNode ι) (nodes : List (CallNode ι)) : List (CallNode ι) :=
  if nodes.any (·.name == n.name) then nodes else nodes ++ [n]

def noteCall (caller : Option String) (callee : String) (n : CallNode ι) : CallNode ι :=
  let n := if n.name == caller then { n with calls := addNew callee n.calls } else n
  if n.name == some callee then { n with calledBy := addNew caller n.calledBy } else n

def addRecord (nodes : List (CallNode ι)) (r : CallRecord ι) : List (CallNode ι) :=
  (addNode (calleeNode r) (addNode (callerNode r) nodes)).map (noteCall r.caller r.callee)

def edgeOf (r : CallRecord ι) : CallEdge := ⟨r.caller, r.callee, r.callerFile, r.line⟩

def ofRecords (records : List (CallRecord ι)) : CallGraph ι := ⟨records.foldl addRecord [], records.map edgeOf⟩

/-- A file as listed in a request; every field may be missing, and all but the language may be null. -/
structure FileEntry (ι : Type) where
  language : Option String
  path : Option (Option String)
  source : Option (Option (List Char))
  symbols : Option (Option (List (SymbolEntry ι)))

def FileEntry.records (f : FileEntry ι) : Except Fault (List (CallRecord ι)) :=
  match f.language, f.path, f.source, f.symbols with
  | some language, some path, some source, some symbols =>
    match Language.ofName? language with
    | some lang => fileCalls lang path source symbols
    | none => .ok []
  | _, _, _, _ => .error .missingField

def build (files : List (FileEntry ι)) : Except Fault (CallGraph ι) := do
  return ofRecords (← files.mapM FileEntry.records).flatten

end CallGraph

/-! ## Cycles -/

/-- A directed graph: nodes with their successors, in the order in which they are visited. -/
abbrev Digraph (α : Type) := List (α × List α)

namespace Digraph

variable {α : Type} [BEq α]

/-- Sets the successors of a node: a known node keeps its place. -/
def put (g : Digraph α) (a : α) (next : List α) : Digraph α :=
  if g.any (·.1 == a) then g.map fun e => if e.1 == a then (a, next) else e else g ++ [(a, next)]

/-- The graph of a list of nodes; of several entries for one node the last one counts, in the place of the first. -/
def ofEntries (l : List (α × List α)) : Digraph α := l.foldl (fun g e => g.put e.1 e.2) []

def link (g : Digraph α) (a b : α) : Digraph α :=
  if g.any (·.1 == a) then g.map fun e => if e.1 == a then (a, e.2 ++ [b]) else e else g ++ [(a, [b])]

def nodes (g : Digraph α) : List α := g.map (·.1)

/-- The successors of a node; none for one without an entry. -/
def next (g : Digraph α) (a : α) : List α := ((g.find? (·.1 == a)).map (·.2)).getD []

/-- The number of nodes and successors, which bounds the depth of a search. -/
def size (g : Digraph α) : Nat := g.length + total (g.map (·.2.length))

structure Search (α : Type) where
  visited : List α
  cycles : List (List α)

/-- The cycle closed by a step from the end of a trail back to one of its nodes. The trail is given backwards. -/
def closing (trail : List α) (a : α) : List α := a :: (trail.takeWhile (· != a)).reverse ++ [a]

/-- Appends a cycle unless one with the same nodes is known. -/
def addCycle (c : List α) (cycles : List (List α)) : List (List α) :=
  if cycles.any (·.isPerm c) then cycles else cycles ++ [c]

/-- Visits a node and searches on along its successors: a new one is visited, one of the trail closes a cycle. `trail`
is the way to the node, backwards. -/
def visit (g : Digraph α) : (fuel : Nat) → (trail : List α) → Search α → α → Search α
  | 0, _, s, _ => s
  | fuel + 1, trail, s, a =>
    (g.next a).foldl (fun s b =>
      if !s.visited.contains b then visit g fuel (a :: trail) s b
      else if (a :: trail).contains b then { s with cycles := addCycle (closing (a :: trail) b) s.cycles }
      else s) { s with visited := a :: s.visited }

/-- The cycles that the search through all nodes in order comes upon. -/
def cycles (g : Digraph α) : List (List α) :=
  (g.nodes.foldl (fun (s : Search α) a => if s.visited.contains a then s else
    visit g (g.size + 1) [] s a) ⟨[], []⟩).cycles

/-! ## The depth of a search -/

/-- Passes a node and what is reached from it: gathers the visited nodes and the length of the longest way so far. -/
def descend (g : Digraph α) : (fuel depth : Nat) → List α × Nat → α → List α × Nat
  | 0, _, s, _ => s
  | fuel + 1, depth, s, a =>
    if s.1.contains a then s
    else (g.next a).foldl (descend g fuel (depth + 1)) (a :: s.1, max s.2 (depth + 1))

/-- The length of the longest way that a search through all nodes goes. -/
def searchDepth (g : Digraph α) : Nat := (g.nodes.foldl (descend g (g.size + 1) 0) ([], 0)).2

def depthLimit : Nat := 990

def searchable (g : Digraph α) : Except Fault (Digraph α) :=
  if g.size ≤ depthLimit || g.searchDepth ≤ depthLimit then .ok g else .error .tooManyLevels

/-- The cycles among named nodes. Cycles are told apart by the order of their names, so that each node on one must have
a name. -/
def allNamed (l : List (List (Option String))) : Except Fault (List (List (Option String))) :=
  if l.all (·.all Option.isSome) then .ok l else .error .wrongType

def findCycles (g : Digraph (Option String)) : Except Fault (List (List (Option String))) := do
  allNamed (← g.searchable).cycles

end Digraph

/-! ## Circular calls: cycles other than functions that call themselves, shortest first -/

structure CircularCall (α : Type) where
  /-- The functions in calling order; the first one is repeated at the end. -/
  cycle : List α
  length : Nat

namespace CircularCall

def severity {α : Type} (c : CircularCall α) : String := if c.length ≤ 3 then "critical" else "high"

end CircularCall

namespace Digraph

variable {α : Type} [BEq α]

/-- Explores from a node: a node of the trail closes a cycle, a node visited before or without an entry is passed over.
-/
def explore (g : Digraph α) : (fuel : Nat) → (trail : List α) → Search α → α → Search α
  | 0, _, s, _ => s
  | fuel + 1, trail, s, a =>
    if trail.contains a then
      let c := closing trail a
      if 2 < c.length then { s with cycles := s.cycles ++ [c] } else s
    else if s.visited.contains a || !g.nodes.contains a then s
    else (g.next a).foldl (explore g fuel (a :: trail)) { s with visited := a :: s.visited }

/-- The closed walks found from all nodes in order, each set of nodes once. -/
def closedWalks (g : Digraph α) : List (List α) :=
  let found :=
    g.nodes.foldl (fun (s : Search α) a => if s.visited.contains a then s else explore g (g.size + 2) [] s a) ⟨[], []⟩
  found.cycles.foldl (fun acc c => addCycle c acc) []

def circularCalls (g : Digraph α) : List (CircularCall α) :=
  (g.closedWalks.map fun c => ⟨c, c.length - 1⟩).mergeSort fun a b => a.length ≤ b.length

def findCircularCalls (g : Digraph (Option String)) : Except Fault (List (CircularCall (Option String))) := do
  let calls := (← g.searchable).circularCalls
  discard (allNamed (calls.map (·.cycle)))
  return calls

end Digraph

namespace CallGraph

def digraph {ι : Type} (g : CallGraph ι) : Digraph (Option String) :=
  Digraph.ofEntries (g.nodes.map fun n => (n.name, n.calls.map some))

end CallGraph

/-! ## Dead functions -/

structure NodeEntry where
  name : Option (Option String)
  file : Option Json
  id : Option Json
  /-- The number of functions called, if they are a list. -/
  calls : Option Nat
  /-- The number of callers, if they are a list. -/
  calledBy : Option Nat
  isExternal : Bool

structure DeadFunction where
  name : String
  file : Json
  id : Json
  calls : Nat

namespace DeadFunction

def severity (d : DeadFunction) : String := if d.calls == 0 then "high" else "medium"

end DeadFunction

namespace Dead

def entryPoints : List String :=
  ["main", "__init__", "__main__", "init", "setup", "start", "Main", "MAIN", "MAIN-PARAGRAPH", "START", "_start"]

def isEntryPoint (name : String) : Bool :=
  entryPoints.contains name || (entryPoints.map fun e => Text.lower e.toList).contains (Text.lower name.toList)

def isSpecial (name : String) : Bool :=
  Text.startsWith ['_', '_'] name.toList && Text.endsWith ['_', '_'] name.toList

/-- The dead function that an entry is. Only what is looked at must be given. -/
def ofEntry (e : NodeEntry) : Except Fault (Option DeadFunction) :=
  match e.name with
  | none => .error .missingField
  | some name =>
    if e.isExternal then .ok none
    else
      match name with
      | none => .error .noText
      | some name =>
        if isEntryPoint name || isSpecial name then .ok none
        else
          match e.calledBy with
          | none => .error .wrongType
          | some 0 =>
            match e.file, e.id, e.calls with
            | some file, some id, some calls => .ok (some ⟨name, file, id, calls⟩)
            | some _, some _, none => .error .wrongType
            | _, _, _ => .error .missingField
          | some _ => .ok none

/-- The dead functions among the entries: those that call something first. -/
def functions (entries : List NodeEntry) : Except Fault (List DeadFunction) := do
  let dead := (← entries.mapM ofEntry).filterMap id
  return dead.filter (·.calls != 0) ++ dead.filter (·.calls == 0)

def entryOf (n : CallNode Json) : NodeEntry :=
  ⟨some n.name, some (Json.ofText? n.file), some (n.id.getD .null), some n.calls.length,
    some n.calledBy.length, n.isExternal⟩

end Dead

def CallGraph.dead (g : CallGraph Json) : Except Fault (List DeadFunction) := Dead.functions (g.nodes.map Dead.entryOf)

end CodeSurvey
