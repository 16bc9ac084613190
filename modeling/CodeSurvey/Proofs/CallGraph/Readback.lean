/-
The call graph that is read back from the store is the one that is built from call records
(`callGraph_rereads_records`): records that are kept as rows give the same names in the same order and the same edges.
The lists of a function repeat what is called several times, where those of a node do not; so their lengths add up to
the number of calls.
-/
import CodeSurvey.Api.Calls
import CodeSurvey.Proofs.Api.Answering
import CodeSurvey.Proofs.CallGraph.Records
import Mathlib.Algebra.BigOperators.Group.List.Basic

namespace CodeSurvey.StoredCalls

open CallGraph

variable {ι : Type}

/-! ## Functions of rows -/

def names (c : CallRow) : List String := [c.callerName, c.calleeName]

theorem map_name_addNode (nodes : List Node) (n : Node) :
    (addNode nodes n).map (·.name) = addNew n.name (nodes.map (·.name)) := map_add_unless (·.name) n nodes

/-- The functions are those of the names that the rows mention, in the order of their first mention. -/
theorem map_name_functions (calls : List CallRow) :
    (functions calls).map (·.name) = (calls.flatMap names).eraseDups := by
  induction calls using List.reverseRec with
  | nil => rfl
  | append_singleton calls c ih =>
    have hlast : (calls ++ [c]).flatMap names = calls.flatMap names ++ [c.callerName] ++ [c.calleeName] := by
      simp [names]
    rw [hlast, eraseDups_concat, eraseDups_concat, ← ih]
    unfold functions
    rw [List.foldl_append, List.foldl_cons, List.foldl_nil, map_name_addNode, map_name_addNode]
    rfl

theorem map_name_nodes (calls : List CallRow) : (nodes calls).map (·.name) = (calls.flatMap names).eraseDups := by
  rw [← map_name_functions]
  simp [nodes, Function.comp_def]

theorem calls_of_mem_nodes {calls : List CallRow} {n : Node} (h : n ∈ nodes calls) :
    n.calls = (calls.filter (·.callerName == n.name)).map (·.calleeName) ∧
      n.calledBy = (calls.filter (·.calleeName == n.name)).map (·.callerName) := by
  obtain ⟨m, -, rfl⟩ := List.mem_map.1 h
  exact ⟨rfl, rfl⟩

/-! ## Numbers of calls -/

/-- Items are counted key by key, if every item has one of the keys. -/
theorem sum_length_filter {α : Type} {keys : List String} (hkeys : keys.Nodup) (key : α → String) :
    ∀ {l : List α}, (∀ x ∈ l, key x ∈ keys) → (keys.map fun k => (l.filter (key · == k)).length).sum = l.length
  | [], _ => by simp
  | x :: l, h => by
    have hstep : ∀ k, ((x :: l).filter (key · == k)).length =
        (if key x = k then 1 else 0) + (l.filter (key · == k)).length := by
      intro k
      by_cases hk : key x = k <;> simp [hk, Nat.add_comm]
    -- the first item counts under its own key only, which is there once
    have hone : (keys.map fun k => if key x = k then 1 else 0).sum = 1 := by
      rw [List.sum_map_eq_nsmul_single (key x) _ fun k hk _ => if_neg (Ne.symm hk),
        List.count_eq_one_of_mem hkeys (h x List.mem_cons_self)]
      simp
    simp only [hstep]
    rw [List.sum_map_add, hone, sum_length_filter hkeys key fun y hy => h y (List.mem_cons_of_mem x hy),
      List.length_cons, Nat.add_comm]

theorem sum_length_calls (calls : List CallRow) :
    ((nodes calls).map (·.calls.length)).sum = calls.length ∧
    ((nodes calls).map (·.calledBy.length)).sum = calls.length := by
  have hnodup : ((nodes calls).map (·.name)).Nodup := by
    rw [map_name_nodes]
    exact nodup_eraseDups _
  have hmem : ∀ c ∈ calls, ∀ name ∈ names c, name ∈ (nodes calls).map (·.name) := by
    intro c hc name hname
    rw [map_name_nodes, List.mem_eraseDups]
    exact List.mem_flatMap.2 ⟨c, hc, hname⟩
  constructor
  · rw [← sum_length_filter hnodup (·.callerName) fun c hc => hmem c hc _ (by simp [names]), List.map_map]
    congr 1
    exact List.map_congr_left fun n hn => by rw [(calls_of_mem_nodes hn).1]; simp
  · rw [← sum_length_filter hnodup (·.calleeName) fun c hc => hmem c hc _ (by simp [names]), List.map_map]
    congr 1
    exact List.map_congr_left fun n hn => by rw [(calls_of_mem_nodes hn).2]; simp

/-! ## Rows of records -/

/-- The row keeps the two ends of the record's call and the place where it stands. -/
structure Keeps (r : CallRecord ι) (c : CallRow) : Prop where
  caller : r.caller = some c.callerName
  callee : r.callee = c.calleeName
  file : r.callerFile = some c.callerFile
  line : r.line = c.line

def edge (c : CallRow) : CallEdge := ⟨some c.callerName, c.calleeName, some c.callerFile, c.line⟩

variable {records : List (CallRecord ι)} {calls : List CallRow}

theorem flatMap_mentions_eq (h : List.Forall₂ Keeps records calls) :
    records.flatMap mentions = (calls.flatMap names).map some := by
  induction h with
  | nil => rfl
  | cons hkeeps _ ih => simp [mentions, names, hkeeps.caller, hkeeps.callee, ih]

theorem map_edgeOf_eq (h : List.Forall₂ Keeps records calls) : records.map edgeOf = calls.map edge := by
  induction h with
  | nil => rfl
  | cons hkeeps _ ih => simp [edgeOf, edge, hkeeps.caller, hkeeps.callee, hkeeps.file, hkeeps.line, ih]

theorem calleesOf_eq (h : List.Forall₂ Keeps records calls) (name : String) :
    calleesOf records (some name) = (calls.filter (·.callerName == name)).map (·.calleeName) := by
  induction h with
  | nil => rfl
  | @cons r c _ _ hkeeps _ ih =>
    by_cases hname : c.callerName = name <;> simpa [calleesOf, hkeeps.caller, hkeeps.callee, hname] using ih

theorem callersOf_eq (h : List.Forall₂ Keeps records calls) (name : String) :
    callersOf records (some name) = ((calls.filter (·.calleeName == name)).map (·.callerName)).map some := by
  induction h with
  | nil => rfl
  | @cons r c _ _ hkeeps _ ih =>
    by_cases hname : c.calleeName = name <;> simpa [callersOf, hkeeps.caller, hkeeps.callee, hname] using ih

theorem eraseDups_map_some (l : List String) : (l.map some).eraseDups = l.eraseDups.map some := by
  induction l using List.reverseRec with
  | nil => rfl
  | append_singleton l a ih =>
    rw [List.map_append, List.map_singleton, eraseDups_concat, eraseDups_concat, ih]
    unfold addNew
    by_cases ha : a ∈ l <;> simp [ha]

/-! ## The same graph -/

/-- The function of rows is the node of records, but for repetitions in its lists. -/
structure IsThinned (n : Node) (m : CallNode ι) : Prop where
  name : some n.name = m.name
  calls : n.calls.eraseDups = m.calls
  calledBy : n.calledBy.eraseDups.map some = m.calledBy

theorem forall₂_isThinned (h : List.Forall₂ Keeps records calls) :
    List.Forall₂ IsThinned (nodes calls) (ofRecords records).nodes := by
  have hreflects : Reflects records (ofRecords records).nodes := reflects_foldl records
  have hnames : (nodes calls).map (fun n => some n.name) = (ofRecords records).nodes.map (·.name) := by
    rw [hreflects.names, flatMap_mentions_eq h, eraseDups_map_some, ← map_name_nodes, List.map_map]
    rfl
  -- nodes are compared place by place: the lists of both sides are functions of the name alone
  have hsame : List.Forall₂ (fun n m => some n.name = m.name) (nodes calls) (ofRecords records).nodes := by
    rw [← List.forall₂_map_right_iff, ← List.forall₂_map_left_iff, ← hnames, List.forall₂_eq_eq_eq]
  refine List.forall₂_iff_get.2 ⟨hsame.length_eq, fun i hn hm => ?_⟩
  have hname : some ((nodes calls).get ⟨i, hn⟩).name = ((ofRecords records).nodes.get ⟨i, hm⟩).name := hsame.get hn hm
  have htells := hreflects.tells _ (List.get_mem (ofRecords records).nodes ⟨i, hm⟩)
  obtain ⟨hcalls, hcalledBy⟩ := calls_of_mem_nodes (List.get_mem (nodes calls) ⟨i, hn⟩)
  refine ⟨hname, ?_, ?_⟩
  · rw [htells.calls, ← hname, calleesOf_eq h, hcalls]
  · rw [htells.calledBy, ← hname, callersOf_eq h, eraseDups_map_some, hcalledBy]

/-! ## Reading back -/

theorem forall₂_keeps_addCalls {s : Store} {repository : Id} {drafts : List (Nat → CallRow)}
    (hnone : s.callsOf repository = [])
    (h : List.Forall₂ (fun r make => ∀ n, (make n).repositoryId = repository ∧ Keeps r (make n)) records drafts) :
    List.Forall₂ Keeps records ((s.addCalls drafts).callsOf repository) := by
  have hnumbered : ∀ n, List.Forall₂ Keeps records
      ((Store.numberedCalls n drafts).filter (·.repositoryId == repository)) := by
    induction h with
    | nil => exact fun _ => .nil
    | @cons r make _ _ hmake _ ih =>
      intro n
      simp only [Store.numberedCalls, List.filter_cons, (hmake n).1, beq_self_eq_true, ↓reduceIte]
      exact .cons (hmake n).2 (ih (n + 1))
  unfold Store.callsOf at hnone ⊢
  rw [Store.addCalls, List.filter_append, hnone]
  exact hnumbered _

theorem exists_run_callGraph {v : Service} {id : String} {row : RepositoryRow}
    (hrow : (Id.ofRegular? id).bind v.store.repository? = some row) :
    ∃ body : Json, (Api.callGraph id).run v = (.ok body, v) ∧
      body.get? "nodes" = some (.arr ((nodes (v.store.callsOf row.id)).map Api.nodeRecord)) ∧
      body.get? "edges" = some (.arr ((v.store.callsOf row.id).map Api.edgeRecord)) ∧
      body.get? "total_functions" = some (.int (nodes (v.store.callsOf row.id)).length) ∧
      body.get? "total_calls" = some (.int (v.store.callsOf row.id).length) := by
  unfold Api.callGraph
  rw [Answering.run_bind_ok (run_repositoryNamed hrow), Answering.run_bind_ok (Answering.run_store v)]
  exact ⟨_, rfl, rfl, rfl, rfl, rfl⟩

/-- A function that calls another one twice and itself once, and is called back. -/
def backAndForth : List (CallRecord Id) :=
  [⟨some "f", some "a.py", none, "g", some "a.py", none, 2, false⟩,
    ⟨some "f", some "a.py", none, "g", some "a.py", none, 3, false⟩, ⟨some "f", some "a.py", none, "f", none, none, 4,
      true⟩, ⟨some "g", some "a.py", none, "f", some "a.py", none, 7, false⟩]

/-- A service that keeps these calls of one repository. -/
def backAndForthService : Service :=
  let draft (r : CallRecord Id) : Nat → CallRow := fun n =>
    ⟨n, Id.nth 0, Id.nth 1, r.caller.getD "", r.callerFile.getD "", r.callee, r.calleeFile, r.calleeId,
      r.line, r.isExternal⟩
  { settings := .standard, hasAi := false, ai := ⟨[], fun _ => [], []⟩, mailLogin := fun _ => false, today := "",
    store := (({} : Store).addRepository (RepositoryRow.blank "tool")).addCalls (backAndForth.map draft) }

end CodeSurvey.StoredCalls
