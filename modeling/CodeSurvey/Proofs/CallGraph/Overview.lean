/-
The overview of the calls of a repository next to the detailed answers (`callStats_agrees_iff`). Both give the same
numbers of calls and of circles. But the overview counts the callers where the call graph counts all functions, so that
the two differ as soon as a function is called that calls nothing; and of the dead functions it counts the names, where
they are listed file by file.
-/
import CodeSurvey.Proofs.CallGraph.Dead
import CodeSurvey.Proofs.CallGraph.Readback
import Mathlib.Data.List.Perm.Subperm

namespace CodeSurvey.StoredCalls

open CallGraph

/-! ## Names that are counted -/

/-- Of two lists, where the one takes each of its items from the other once, the lengths tell whether it leaves anything
out. -/
theorem length_eq_iff_perm {α : Type} {l l' : List α} (hn : l.Nodup) (hsub : l ⊆ l') :
    l.length = l'.length ↔ l.Perm l' := by
  constructor
  · intro hlength
    exact (hn.subperm hsub).perm_of_length_le (Nat.le_of_eq hlength.symm)
  · exact List.Perm.length_eq

theorem mem_callers {calls : List CallRow} {name : String} :
    name ∈ callers calls ↔ ∃ c ∈ calls, c.callerName = name := by
  simp [callers]

theorem mem_deadCallers {calls : List CallRow} {name : String} :
    name ∈ deadCallers calls ↔ (∃ c ∈ calls, c.callerName = name) ∧ isCalled calls name = false := by
  rw [deadCallers, List.mem_filter, mem_callers, Bool.not_eq_true']

/-- The callers are all functions exactly if every called function is a caller. -/
theorem length_callers_eq_iff (calls : List CallRow) :
    (callers calls).length = (nodes calls).length ↔ ∀ c ∈ calls, ∃ d ∈ calls, d.callerName = c.calleeName := by
  have hsub : callers calls ⊆ (calls.flatMap names).eraseDups := by
    intro name h
    obtain ⟨c, hc, rfl⟩ := mem_callers.1 h
    rw [List.mem_eraseDups]
    exact List.mem_flatMap.2 ⟨c, hc, by simp [names]⟩
  have hcallers : (callers calls).Nodup := nodup_eraseDups _
  have hnodes : (nodes calls).length = (calls.flatMap names).eraseDups.length := by
    rw [← map_name_nodes, List.length_map]
  rw [hnodes, length_eq_iff_perm hcallers hsub, List.perm_ext_iff_of_nodup hcallers (nodup_eraseDups _)]
  constructor
  · intro h c hc
    rw [← mem_callers, h, List.mem_eraseDups]
    exact List.mem_flatMap.2 ⟨c, hc, by simp [names]⟩
  · intro h name
    refine ⟨fun hname => hsub hname, fun hname => ?_⟩
    obtain ⟨c, hc, hname⟩ := List.mem_flatMap.1 (List.mem_eraseDups.1 hname)
    simp only [names, List.mem_cons, List.not_mem_nil, or_false] at hname
    rcases hname with rfl | rfl
    · exact mem_callers.2 ⟨c, hc, rfl⟩
    · exact mem_callers.2 (h c hc)

def deadPlaces (calls : List CallRow) : List (String × String) := (dead calls).map fun d => (d.name, d.file)

theorem mem_deadPlaces {calls : List CallRow} {p : String × String} :
    p ∈ deadPlaces calls ↔ (∃ c ∈ calls, (c.callerName, c.callerFile) = p) ∧ isCalled calls p.1 = false := by
  simp [deadPlaces, dead, List.mem_mergeSort]

theorem nodup_deadPlaces (calls : List CallRow) : (deadPlaces calls).Nodup := by
  have hplaces : deadPlaces calls =
      (((calls.map fun c => (c.callerName, c.callerFile)).eraseDups).mergeSort pairLe).filter
      fun p => !isCalled calls p.1 := by
    simp [deadPlaces, dead, Function.comp_def]
  rw [hplaces]
  exact ((List.mergeSort_perm _ _).nodup_iff.2 (nodup_eraseDups _)).filter _

/-- The dead functions are as many as their names exactly if none of the names stands in two files. -/
theorem length_deadCallers_eq_iff (calls : List CallRow) :
    (deadCallers calls).length = (dead calls).length ↔
      ∀ c ∈ calls, ∀ d ∈ calls, c.callerName = d.callerName → isCalled calls c.callerName = false →
        c.callerFile = d.callerFile := by
  have hmem : ∀ name, name ∈ deadCallers calls ↔ name ∈ (deadPlaces calls).map (·.1) := by
    intro name
    simp only [mem_deadCallers, List.mem_map, mem_deadPlaces]
    constructor
    · rintro ⟨⟨c, hc, rfl⟩, hcalled⟩
      exact ⟨(c.callerName, c.callerFile), ⟨⟨c, hc, rfl⟩, hcalled⟩, rfl⟩
    · rintro ⟨p, ⟨⟨c, hc, rfl⟩, hcalled⟩, rfl⟩
      exact ⟨⟨c, hc, rfl⟩, hcalled⟩
  have hcallers : (deadCallers calls).Nodup := (nodup_eraseDups _).filter _
  have hlength : (dead calls).length = ((deadPlaces calls).map (·.1)).length := by simp [deadPlaces]
  -- the names are those of the places, without repetitions
  have hnodup : (deadCallers calls).Perm ((deadPlaces calls).map (·.1)) ↔ ((deadPlaces calls).map (·.1)).Nodup :=
    ⟨fun h => h.nodup_iff.1 hcallers, fun h => (List.perm_ext_iff_of_nodup hcallers h).2 hmem⟩
  rw [hlength, length_eq_iff_perm hcallers fun name h => (hmem name).1 h, hnodup,
    List.nodup_map_iff_inj_on (nodup_deadPlaces calls)]
  constructor
  · intro h c hc d hd hname hcalled
    have hplace :=
      h (c.callerName, c.callerFile) (mem_deadPlaces.2 ⟨⟨c, hc, rfl⟩, hcalled⟩) (d.callerName, d.callerFile)
      (mem_deadPlaces.2 ⟨⟨d, hd, rfl⟩, hname ▸ hcalled⟩) hname
    exact congrArg Prod.snd hplace
  · intro h p hp q hq hname
    obtain ⟨⟨c, hc, rfl⟩, hcalled⟩ := mem_deadPlaces.1 hp
    obtain ⟨⟨d, hd, rfl⟩, -⟩ := mem_deadPlaces.1 hq
    exact Prod.ext hname (h c hc d hd hname hcalled)

theorem length_circles (calls : List CallRow) : (circles calls).length = (digraph calls).cycles.length := by
  rw [circles, List.length_mergeSort, List.length_map]

/-! ## Two answers -/

/-- Two answers give the same number, each under its own key. -/
def SameFigure (a : Json) (key : String) (b : Json) (other : String) : Prop :=
  ∃ n : Int, a.get? key = some (.int n) ∧ b.get? other = some (.int n)

theorem sameFigure_iff {a b : Json} {key other : String} {m n : Nat} (ha : a.get? key = some (.int m))
    (hb : b.get? other = some (.int n)) : SameFigure a key b other ↔ m = n := by
  unfold SameFigure
  rw [ha, hb]
  constructor
  · rintro ⟨k, hm, hn⟩
    simp only [Option.some.injEq, Json.int.injEq] at hm hn
    omega
  · rintro rfl
    exact ⟨m, rfl, rfl⟩

section Handlers

variable {v : Service} {id : String} {row : RepositoryRow}

theorem exists_run_deadCode (hrow : (Id.ofRegular? id).bind v.store.repository? = some row) :
    ∃ body : Json, (Api.deadCode id).run v = (.ok body, v) ∧
      body.get? "total_dead" = some (.int (dead (v.store.callsOf row.id)).length) := by
  unfold Api.deadCode
  rw [Answering.run_bind_ok (run_repositoryNamed hrow), Answering.run_bind_ok (Answering.run_store v)]
  exact ⟨_, rfl, rfl⟩

theorem exists_run_callStats (hrow : (Id.ofRegular? id).bind v.store.repository? = some row)
    (hsearch : (digraph (v.store.callsOf row.id)).searchable = .ok (digraph (v.store.callsOf row.id))) :
    ∃ body : Json, (Api.callStats id).run v = (.ok body, v) ∧
      body.get? "total_functions" = some (.int (callers (v.store.callsOf row.id)).length) ∧
      body.get? "total_calls" = some (.int (v.store.callsOf row.id).length) ∧
      body.get? "dead_functions" = some (.int (deadCallers (v.store.callsOf row.id)).length) ∧
      body.get? "circular_dependencies" = some (.int (digraph (v.store.callsOf row.id)).cycles.length) := by
  unfold Api.callStats
  rw [Answering.run_bind_ok (run_repositoryNamed hrow), Answering.run_bind_ok (Answering.run_store v)]
  dsimp only
  rw [hsearch]
  exact ⟨_, rfl, rfl, rfl, rfl, rfl⟩

theorem exists_run_circularCalls (hrow : (Id.ofRegular? id).bind v.store.repository? = some row)
    (hsearch : (digraph (v.store.callsOf row.id)).searchable = .ok (digraph (v.store.callsOf row.id))) :
    ∃ body : Json, (Api.circularCalls id).run v = (.ok body, v) ∧
      body.get? "total_cycles" = some (.int (digraph (v.store.callsOf row.id)).cycles.length) := by
  unfold Api.circularCalls
  rw [Answering.run_bind_ok (run_repositoryNamed hrow), Answering.run_bind_ok (Answering.run_store v)]
  dsimp only
  rw [hsearch]
  exact ⟨_, rfl, by rw [← length_circles]; rfl⟩

/-- Neither the figures nor the circles of a graph that goes too deep are told. -/
theorem run_of_searchable_eq_error (hrow : (Id.ofRegular? id).bind v.store.repository? = some row) {e : Fault}
    (hsearch : (digraph (v.store.callsOf row.id)).searchable = .error e) :
    (Api.callStats id).run v = (.error (.broken e), v) ∧ (Api.circularCalls id).run v = (.error (.broken e), v) := by
  unfold Api.callStats Api.circularCalls
  constructor
  all_goals
    rw [Answering.run_bind_ok (run_repositoryNamed hrow), Answering.run_bind_ok (Answering.run_store v)]
    dsimp only
    rw [hsearch]
    rfl

/-- The overview of a repository gives the same numbers of calls and of circles as the detailed answers, unless its
graph goes too deep for the overview and the circles alike. It gives the same number of functions exactly if every
called function is a caller too, and the same number of dead functions exactly if no name of a dead function stands in
two files. -/
theorem callStats_agrees_iff (hrow : (Id.ofRegular? id).bind v.store.repository? = some row) :
    ∃ graph uncalled : Json, (Api.callGraph id).run v = (.ok graph, v) ∧ (Api.deadCode id).run v = (.ok uncalled, v) ∧
      (∀ e, (digraph (v.store.callsOf row.id)).searchable = .error e →
        (Api.callStats id).run v = (.error (.broken e), v) ∧ (Api.circularCalls id).run v = (.error (.broken e), v)) ∧
      ((digraph (v.store.callsOf row.id)).searchable = .ok (digraph (v.store.callsOf row.id)) →
        ∃ stats circular : Json, (Api.callStats id).run v = (.ok stats, v) ∧
          (Api.circularCalls id).run v = (.ok circular, v) ∧
          SameFigure stats "total_calls" graph "total_calls" ∧
          SameFigure stats "circular_dependencies" circular "total_cycles" ∧
          (SameFigure stats "total_functions" graph "total_functions" ↔
            ∀ c ∈ v.store.callsOf row.id, ∃ d ∈ v.store.callsOf row.id, d.callerName = c.calleeName) ∧
          (SameFigure stats "dead_functions" uncalled "total_dead" ↔
            ∀ c ∈ v.store.callsOf row.id, ∀ d ∈ v.store.callsOf row.id, c.callerName = d.callerName →
              (∀ e ∈ v.store.callsOf row.id, e.calleeName = c.callerName → e.isExternal = true) →
                c.callerFile = d.callerFile)) := by
  obtain ⟨graph, hgraph, -, -, hfunctions, hcalls⟩ := exists_run_callGraph hrow
  obtain ⟨uncalled, huncalled, hdead⟩ := exists_run_deadCode hrow
  refine ⟨graph, uncalled, hgraph, huncalled, fun e => run_of_searchable_eq_error hrow, fun hsearch => ?_⟩
  obtain ⟨stats, hstats, hcallers, hcalls', hnames, hcycles⟩ := exists_run_callStats hrow hsearch
  obtain ⟨circular, hcircular, hcircles⟩ := exists_run_circularCalls hrow hsearch
  refine ⟨stats, circular, hstats, hcircular, ⟨_, hcalls', hcalls⟩, ⟨_, hcycles, hcircles⟩, ?_, ?_⟩
  · rw [sameFigure_iff hcallers hfunctions]
    exact length_callers_eq_iff _
  · rw [sameFigure_iff hnames hdead, length_deadCallers_eq_iff]
    simp only [isCalled_eq_false_iff]

end Handlers

/-- A repository with a function `f` in each of two files, both of which call a function from outside. -/
def twoOfAName : Store :=
  let draft (file : String) : Nat → CallRow := fun n => ⟨n, Id.nth 0, Id.nth 1, "f", file, "print", none, none, 2, true⟩
  (({} : Store).addRepository (RepositoryRow.blank "tool")).addCalls [draft "a.py", draft "b.py"]

theorem callStats_agrees_iff_twoOfAName :
    ∃ stats graph uncalled : Json, (Api.callStats (Id.nth 0).text).run (.idle twoOfAName) =
      (.ok stats, .idle twoOfAName) ∧
      (Api.callGraph (Id.nth 0).text).run (.idle twoOfAName) = (.ok graph, .idle twoOfAName) ∧
      (Api.deadCode (Id.nth 0).text).run (.idle twoOfAName) = (.ok uncalled, .idle twoOfAName) ∧
      ¬ SameFigure stats "total_functions" graph "total_functions" ∧
      ¬ SameFigure stats "dead_functions" uncalled "total_dead" := by
  have hid : Id.ofRegular? (Id.nth 0).text = some (Id.nth 0) := by decide +kernel
  obtain ⟨row, hrow, hrowId⟩ : ∃ row,
      (Id.ofRegular? (Id.nth 0).text).bind (Service.idle twoOfAName).store.repository? = some row ∧
      row.id = Id.nth 0 := ⟨_, by rw [hid]; rfl, rfl⟩
  obtain ⟨graph, uncalled, hgraph, huncalled, -, htold⟩ := callStats_agrees_iff hrow
  rw [hrowId] at htold
  obtain ⟨stats, circular, hstats, -, -, -, hfunctions, hdead⟩ := htold rfl
  refine ⟨stats, graph, uncalled, hstats, hgraph, huncalled, ?_, ?_⟩
  · rw [hfunctions]
    decide +kernel
  · rw [hdead]
    decide +kernel

end CodeSurvey.StoredCalls
