/-
The call graph of a list of call records, read off the records: the nodes are the names that the records mention, each
once and in the order of their first mention, and the two lists of a node hold what the records say of its name
(`reflects_foldl`).

So the two lists are converse to each other, whatever files the records come from (`build_isConverse`): a name is called
by a node exactly if that node is among its callers, and exactly if there is an edge between the two.
-/
import CodeSurvey.Proofs.Calls.Listed
import CodeSurvey.Record.Code
import Mathlib.Algebra.GroupWithZero.Nat
import Mathlib.Data.List.Forall2
import Mathlib.Data.List.Induction
import Mathlib.Data.List.Nodup

namespace CodeSurvey.CallGraph

variable {ι : Type}

/-! ## Lists that take an item once -/

section Once

variable {α : Type} [BEq α] [LawfulBEq α]

theorem nodup_addNew {a : α} {l : List α} (h : l.Nodup) : (addNew a l).Nodup := by
  unfold addNew
  split
  · exact h
  · rename_i ha
    rw [List.contains_iff_mem] at ha
    refine List.nodup_append.2 ⟨h, List.nodup_singleton a, ?_⟩
    rintro b hb c hc rfl
    exact ha (List.mem_singleton.1 hc ▸ hb)

/-- An item at the end of a list counts only if it is new. -/
theorem eraseDups_concat (l : List α) (a : α) : (l ++ [a]).eraseDups = addNew a l.eraseDups := by
  rw [List.eraseDups_append]
  by_cases ha : a ∈ l
  · simp [addNew, List.removeAll, ha]
  · simp [addNew, List.removeAll, ha, List.eraseDups_cons]

theorem nodup_eraseDups (l : List α) : l.eraseDups.Nodup := by
  induction l using List.reverseRec with
  | nil => simp
  | append_singleton l a ih => rw [eraseDups_concat]; exact nodup_addNew ih

theorem map_add_unless {β : Type} (key : β → α) (b : β) (l : List β) :
    (if l.any (key · == key b) then l else l ++ [b]).map key = addNew (key b) (l.map key) := by
  have hany : l.any (key · == key b) = (l.map key).contains (key b) := by
    rw [Bool.eq_iff_iff, List.any_eq_true, List.contains_iff_mem, List.mem_map]
    simp only [beq_iff_eq]
  rw [hany, addNew]
  split <;> simp

end Once

/-! ## What records say -/

def mentions (r : CallRecord ι) : List (Option String) := [r.caller, some r.callee]

def calleesOf (records : List (CallRecord ι)) (name : Option String) : List String :=
  (records.filter (·.caller == name)).map (·.callee)

def callersOf (records : List (CallRecord ι)) (name : Option String) : List (Option String) :=
  (records.filter (some ·.callee == name)).map (·.caller)

theorem mem_calleesOf {records : List (CallRecord ι)} {name : Option String} {callee : String} :
    callee ∈ calleesOf records name ↔ ∃ r ∈ records, r.caller = name ∧ r.callee = callee := by
  simp [calleesOf, and_assoc]

theorem mem_callersOf {records : List (CallRecord ι)} {name caller : Option String} :
    caller ∈ callersOf records name ↔ ∃ r ∈ records, r.caller = caller ∧ some r.callee = name := by
  simp only [callersOf, List.mem_map, List.mem_filter, beq_iff_eq]
  constructor
  · rintro ⟨r, ⟨hr, hname⟩, hcaller⟩
    exact ⟨r, hr, hcaller, hname⟩
  · rintro ⟨r, hr, hcaller, hname⟩
    exact ⟨r, ⟨hr, hname⟩, hcaller⟩

theorem mem_flatMap_mentions {records : List (CallRecord ι)} {name : Option String} :
    name ∈ records.flatMap mentions ↔ ∃ r ∈ records, name = r.caller ∨ name = some r.callee := by
  simp [mentions]

theorem calleesOf_concat (records : List (CallRecord ι)) (r : CallRecord ι) (name : Option String) :
    (calleesOf (records ++ [r]) name).eraseDups =
      if name = r.caller then addNew r.callee (calleesOf records name).eraseDups else
        (calleesOf records name).eraseDups := by
  unfold calleesOf
  by_cases h : name = r.caller
  · rw [if_pos h, ← eraseDups_concat]
    simp [h]
  · simp [h, Ne.symm h]

theorem callersOf_concat (records : List (CallRecord ι)) (r : CallRecord ι) (name : Option String) :
    (callersOf (records ++ [r]) name).eraseDups =
      if name = some r.callee then addNew r.caller (callersOf records name).eraseDups
      else (callersOf records name).eraseDups := by
  unfold callersOf
  by_cases h : name = some r.callee
  · rw [if_pos h, ← eraseDups_concat]
    simp [h]
  · simp [h, Ne.symm h]

/-! ## Nodes tell what the records say -/

/-- The lists of a node hold what the records say of its name, without repetitions. -/
structure Tells (records : List (CallRecord ι)) (n : CallNode ι) : Prop where
  calls : n.calls = (calleesOf records n.name).eraseDups
  calledBy : n.calledBy = (callersOf records n.name).eraseDups

theorem Tells.of_not_mentioned {records : List (CallRecord ι)} {n : CallNode ι}
    (hname : n.name ∉ records.flatMap mentions) (hcalls : n.calls = []) (hcalledBy : n.calledBy = []) :
    Tells records n := by
  have hno : ∀ r ∈ records, r.caller ≠ n.name ∧ some r.callee ≠ n.name := fun r hr =>
    ⟨fun h => hname (mem_flatMap_mentions.2 ⟨r, hr, .inl h.symm⟩),
      fun h => hname (mem_flatMap_mentions.2 ⟨r, hr, .inr h.symm⟩)⟩
  have hcallees : calleesOf records n.name = [] :=
    List.eq_nil_iff_forall_not_mem.2 fun x hx => by
      obtain ⟨r, hr, h, -⟩ := mem_calleesOf.1 hx
      exact (hno r hr).1 h
  have hcallers : callersOf records n.name = [] :=
    List.eq_nil_iff_forall_not_mem.2 fun x hx => by
      obtain ⟨r, hr, -, h⟩ := mem_callersOf.1 hx
      exact (hno r hr).2 h
  exact ⟨by rw [hcallees, hcalls]; rfl, by rw [hcallers, hcalledBy]; rfl⟩

/-- The two ends of a call are noted apart from each other, also where a name calls itself. -/
theorem noteCall_eq (caller : Option String) (callee : String) (n : CallNode ι) :
    noteCall caller callee n = { n with
      calls := if n.name = caller then addNew callee n.calls else n.calls
      calledBy := if n.name = some callee then addNew caller n.calledBy else n.calledBy } := by
  simp only [← beq_iff_eq (α := Option String)]
  unfold noteCall
  cases n.name == caller <;> cases hcallee : n.name == some callee <;> simp [hcallee]

theorem Tells.noteCall {records : List (CallRecord ι)} {n : CallNode ι} (h : Tells records n) (r : CallRecord ι) :
    Tells (records ++ [r]) (noteCall r.caller r.callee n) where
  calls := by rw [noteCall_eq, calleesOf_concat, h.calls]
  calledBy := by rw [noteCall_eq, callersOf_concat, h.calledBy]

theorem names_addNode (n : CallNode ι) (nodes : List (CallNode ι)) :
    (addNode n nodes).map (·.name) = addNew n.name (nodes.map (·.name)) := map_add_unless (·.name) n nodes

theorem mem_addNode {m n : CallNode ι} {nodes : List (CallNode ι)} (h : m ∈ addNode n nodes) :
    m ∈ nodes ∨ m = n ∧ n.name ∉ nodes.map (·.name) := by
  unfold addNode at h
  split at h
  · exact .inl h
  · rename_i hn
    rcases List.mem_append.1 h with h | h
    · exact .inl h
    · refine .inr ⟨List.mem_singleton.1 h, fun hm => hn ?_⟩
      obtain ⟨k, hk, hname⟩ := List.mem_map.1 hm
      exact List.any_eq_true.2 ⟨k, hk, beq_iff_eq.2 hname⟩

/-- The nodes are those of the names that the records mention, and they tell what the records say. -/
structure Reflects (records : List (CallRecord ι)) (nodes : List (CallNode ι)) : Prop where
  names : nodes.map (·.name) = (records.flatMap mentions).eraseDups
  tells : ∀ n ∈ nodes, Tells records n

theorem Reflects.addRecord {records : List (CallRecord ι)} {nodes : List (CallNode ι)} (h : Reflects records nodes)
    (r : CallRecord ι) : Reflects (records ++ [r]) (addRecord nodes r) where
  names := by
    have hsame : (CallGraph.addRecord nodes r).map (·.name) =
        (addNode (calleeNode r) (addNode (callerNode r) nodes)).map (·.name) := by
      simp [CallGraph.addRecord, Function.comp_def, noteCall_eq]
    have hlast : (records ++ [r]).flatMap mentions = records.flatMap mentions ++ [r.caller] ++ [some r.callee] := by
      simp [mentions]
    rw [hsame, hlast, names_addNode, names_addNode, h.names, eraseDups_concat, eraseDups_concat]
    rfl
  tells := by
    -- a node that is not there yet has a name that is not mentioned so far
    have hnew : ∀ n ∈ addNode (calleeNode r) (addNode (callerNode r) nodes), Tells records n := by
      intro n hn
      rcases mem_addNode hn with hn | ⟨rfl, hname⟩
      · rcases mem_addNode hn with hn | ⟨rfl, hname⟩
        · exact h.tells n hn
        · rw [h.names, List.mem_eraseDups] at hname
          exact .of_not_mentioned hname rfl rfl
      · rw [names_addNode, h.names] at hname
        refine .of_not_mentioned (fun hm => hname ?_) rfl rfl
        rw [← eraseDups_concat, List.mem_eraseDups]
        exact List.mem_append_left _ hm
    intro n hn
    obtain ⟨m, hm, rfl⟩ := List.mem_map.1 hn
    exact (hnew m hm).noteCall r

theorem reflects_foldl (records : List (CallRecord ι)) : Reflects records (records.foldl CallGraph.addRecord []) := by
  induction records using List.reverseRec with
  | nil => exact ⟨rfl, by simp⟩
  | append_singleton records r ih =>
    rw [List.foldl_append]
    exact ih.addRecord r

theorem exists_callee_of_isExternal (records : List (CallRecord ι)) :
    ∀ n ∈ records.foldl CallGraph.addRecord [], n.isExternal = true → ∃ r ∈ records, some r.callee = n.name := by
  induction records using List.reverseRec with
  | nil => simp
  | append_singleton records r ih =>
    rw [List.foldl_append]
    intro n hn hexternal
    obtain ⟨m, hm, rfl⟩ := List.mem_map.1 hn
    rw [noteCall_eq] at hexternal ⊢
    rcases mem_addNode hm with hm | ⟨rfl, -⟩
    · rcases mem_addNode hm with hm | ⟨rfl, -⟩
      · obtain ⟨q, hq, hcallee⟩ := ih m hm hexternal
        exact ⟨q, List.mem_append_left _ hq, hcallee⟩
      · cases hexternal
    · exact ⟨r, List.mem_append_right _ List.mem_cons_self, rfl⟩

/-! ## Two converse lists -/

/-- The nodes of a call graph are the ends of its edges, each once, and what a node calls is converse to what it is
called by. -/
structure IsConverse (g : CallGraph ι) : Prop where
  distinct : (g.nodes.map (·.name)).Nodup
  mem_calls_iff : ∀ a ∈ g.nodes, ∀ b ∈ g.nodes, b.name ∈ a.calls.map some ↔ a.name ∈ b.calledBy
  mem_calledBy_iff : ∀ a ∈ g.nodes, ∀ b ∈ g.nodes,
    a.name ∈ b.calledBy ↔ ∃ e ∈ g.edges, e.caller = a.name ∧ some e.callee = b.name
  once : ∀ n ∈ g.nodes, n.calls.Nodup ∧ n.calledBy.Nodup
  ends : ∀ e ∈ g.edges, (∃ a ∈ g.nodes, a.name = e.caller) ∧ ∃ b ∈ g.nodes, b.name = some e.callee
  touched : ∀ n ∈ g.nodes, ∃ e ∈ g.edges, n.name = e.caller ∨ n.name = some e.callee

theorem mem_names_iff {records : List (CallRecord ι)} {name : Option String} :
    (∃ n ∈ (ofRecords records).nodes, n.name = name) ↔ ∃ r ∈ records, name = r.caller ∨ name = some r.callee := by
  rw [← mem_flatMap_mentions, ← List.mem_eraseDups, ← (reflects_foldl records).names, List.mem_map]
  rfl

theorem ofRecords_isConverse (records : List (CallRecord ι)) : (ofRecords records).IsConverse := by
  have hreflects : Reflects records (ofRecords records).nodes := reflects_foldl records
  have hcalledBy : ∀ b ∈ (ofRecords records).nodes, ∀ name,
      name ∈ b.calledBy ↔ ∃ r ∈ records, r.caller = name ∧ some r.callee = b.name := by
    intro b hb name
    rw [(hreflects.tells b hb).calledBy, List.mem_eraseDups, mem_callersOf]
  refine ⟨?_, ?_, ?_, ?_, ?_, ?_⟩
  · rw [hreflects.names]
    exact nodup_eraseDups _
  · intro a ha b hb
    rw [hcalledBy b hb, (hreflects.tells a ha).calls]
    simp only [List.mem_map, List.mem_eraseDups, mem_calleesOf]
    constructor
    · rintro ⟨callee, ⟨r, hr, hcaller, rfl⟩, hname⟩
      exact ⟨r, hr, hcaller, hname⟩
    · rintro ⟨r, hr, hcaller, hname⟩
      exact ⟨r.callee, ⟨r, hr, hcaller, rfl⟩, hname⟩
  · intro a ha b hb
    rw [hcalledBy b hb]
    simp [ofRecords, edgeOf]
  · intro n hn
    rw [(hreflects.tells n hn).calls, (hreflects.tells n hn).calledBy]
    exact ⟨nodup_eraseDups _, nodup_eraseDups _⟩
  · intro e he
    obtain ⟨r, hr, rfl⟩ := List.mem_map.1 he
    exact ⟨mem_names_iff.2 ⟨r, hr, .inl rfl⟩, mem_names_iff.2 ⟨r, hr, .inr rfl⟩⟩
  · intro n hn
    obtain ⟨r, hr, hname⟩ := mem_names_iff.1 ⟨n, hn, rfl⟩
    exact ⟨edgeOf r, List.mem_map_of_mem hr, hname⟩

/-! ## The graph of listed files -/

namespace FileEntry

/-- Nothing is missing in a listed file, and its text is within the limits of the analysis. -/
structure IsComplete (f : FileEntry ι) : Prop where
  language : f.language.isSome = true
  path : f.path.isSome = true
  given : ∃ t symbols, f.source = some (some t) ∧ f.symbols = some (some symbols) ∧ (∀ e ∈ symbols, e.IsComplete) ∧
    ∀ lang, f.language.bind Language.ofName? = some lang → lang.IsWithinLimits t

/-- The records are those that the analysis of the file's language finds; a file in another language has none. -/
def Finds (f : FileEntry ι) (records : List (CallRecord ι)) : Prop :=
  match f.language.bind Language.ofName? with
  | some lang => ∃ path source symbols, f.path = some path ∧ f.source = some source ∧ f.symbols = some symbols ∧
      fileCalls lang path source symbols = .ok records
  | none => records = []

theorem finds_of_records {f : FileEntry ι} {records : List (CallRecord ι)} (h : f.records = .ok records) :
    f.Finds records := by
  unfold FileEntry.records at h
  unfold Finds
  split at h
  · rename_i language path source symbols hlanguage hpath hsource hsymbols
    rw [hlanguage, Option.bind_some]
    cases hlang : Language.ofName? language with
    | none =>
      simp only [hlang] at h ⊢
      exact (Except.ok.inj h).symm
    | some lang =>
      simp only [hlang] at h ⊢
      exact ⟨path, source, symbols, hpath, hsource, hsymbols, h⟩
  · cases h

theorem IsComplete.exists_records {f : FileEntry ι} (h : f.IsComplete) : ∃ records, f.records = .ok records := by
  obtain ⟨language, hlanguage⟩ := Option.isSome_iff_exists.1 h.language
  obtain ⟨path, hpath⟩ := Option.isSome_iff_exists.1 h.path
  obtain ⟨t, symbols, hsource, hsymbols, hcomplete, hlimits⟩ := h.given
  rw [hlanguage, Option.bind_some] at hlimits
  unfold FileEntry.records
  rw [hlanguage, hpath, hsource, hsymbols]
  cases hlang : Language.ofName? language with
  | none => exact ⟨[], by simp only [hlang]⟩
  | some lang =>
    have hnamed : ∀ e ∈ symbols, e.IsNamed := fun e he => (hcomplete e he).toIsNamed
    have hcut : SymbolEntry.CutOut lang symbols := fun _ e he _ => (hcomplete e he).lines
    exact ⟨_, by simp only [hlang]; exact fileCalls_eq_ok hnamed hcut (hlimits lang hlang)⟩

end FileEntry

theorem exists_forall₂_of_forall {α β : Type} {R : α → β → Prop} {xs : List α} (h : ∀ x ∈ xs, ∃ y, R x y) :
    ∃ ys, List.Forall₂ R xs ys := by
  induction xs with
  | nil => exact ⟨[], .nil⟩
  | cons x xs ih =>
    obtain ⟨y, hy⟩ := h x List.mem_cons_self
    obtain ⟨ys, hys⟩ := ih fun z hz => h z (List.mem_cons_of_mem x hz)
    exact ⟨y :: ys, .cons hy hys⟩

theorem build_eq_ok_iff {files : List (FileEntry ι)} {g : CallGraph ι} :
    build files = .ok g ↔
      ∃ found, List.Forall₂ (fun f records => f.records = .ok records) files found ∧ g = ofRecords found.flatten := by
  simp only [← mapM_eq_ok_iff, build, bind, Except.bind, pure, Except.pure]
  cases files.mapM FileEntry.records <;> simp [eq_comm]

/-- Files of which nothing is missing have a call graph. In every call graph of files, the lists of the nodes are
converse to each other, and there is one edge for each call that the analyses find, file by file. -/
theorem build_isConverse (repository : Json) (files : List (FileEntry Json)) :
    ((∀ f ∈ files, f.IsComplete) → ∃ g, build files = .ok g) ∧
    ∀ g, build files = .ok g → g.IsConverse ∧
      (g.record repository).get? "total_functions" = some (.int g.nodes.length) ∧
      (g.record repository).get? "total_calls" = some (.int g.edges.length) ∧
      ∃ found, List.Forall₂ FileEntry.Finds files found ∧ g.edges = found.flatten.map edgeOf ∧
        g.edges.length = (found.map List.length).sum := by
  constructor
  · intro h
    obtain ⟨found, hfound⟩ := exists_forall₂_of_forall fun f hf => (h f hf).exists_records
    exact ⟨_, build_eq_ok_iff.2 ⟨found, hfound, rfl⟩⟩
  · intro g hg
    obtain ⟨found, hfound, rfl⟩ := build_eq_ok_iff.1 hg
    refine ⟨ofRecords_isConverse _, rfl, rfl, found, hfound.imp fun _ _ => FileEntry.finds_of_records, rfl, ?_⟩
    simp [ofRecords, List.length_flatten, Function.comp_def]

/-- A program that is called outside of all paragraphs, a paragraph that calls a program of its own name, and a file
that is not analysed. -/
def outsideAndSelf : List (FileEntry Json) :=
  [⟨some "cobol", some (some "a.cbl"), some (some "CALL 'P'\nMAIN.\n  CALL 'MAIN'\n  PERFORM OTHER\n".toList),
    some (some [])⟩, ⟨some "rust", some none, some (some "fn f() \x7b g() \x7d".toList), some (some [])⟩]

theorem build_isConverse_outsideAndSelf : ∃ g, build outsideAndSelf = .ok g ∧ g.IsConverse ∧
    g.edges.map (fun e => (e.caller, e.callee)) =
      [(none, "P"), (some "MAIN", "MAIN"), (some "MAIN", "OTHER")] := by
  have hcomplete : ∀ f ∈ outsideAndSelf, f.IsComplete := by
    intro f hf
    simp only [outsideAndSelf, List.mem_cons, List.not_mem_nil, or_false] at hf
    rcases hf with rfl | rfl
    · refine ⟨rfl, rfl, _, [], rfl, rfl, by simp, fun lang hlang hpython => ?_⟩
      subst hpython
      simp [Language.ofName?] at hlang
    · refine ⟨rfl, rfl, _, [], rfl, rfl, by simp, fun lang hlang => ?_⟩
      simp [Language.ofName?] at hlang
  obtain ⟨g, hg⟩ := (build_isConverse .null outsideAndSelf).1 hcomplete
  have hedges : (build outsideAndSelf).toOption.map (fun g => g.edges.map fun e => (e.caller, e.callee)) =
      some [(none, "P"), (some "MAIN", "MAIN"), (some "MAIN", "OTHER")] := by decide +kernel
  rw [hg] at hedges
  exact ⟨g, hg, ((build_isConverse .null outsideAndSelf).2 g hg).1, Option.some.inj hedges⟩

end CodeSurvey.CallGraph
