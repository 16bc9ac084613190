/-
Which functions are listed as dead.

Of a call graph it is the callers that nothing calls, unless their names tell that they are called from outside
(`dead_lists_uncalled`). A function that neither calls nor is called has no node, so that every dead function calls
something.

Of stored calls it is the callers whose name no call from inside has. As a call is marked as external in view of its own
file alone, a function that is only called from other files is listed all the same (`exists_dead_calledByOther_iff`).
-/
import CodeSurvey.CallGraph.Stored
import CodeSurvey.Proofs.CallGraph.Records
import CodeSurvey.Proofs.Calls.Kept
import Mathlib.Data.Finset.Card

namespace CodeSurvey

/-! ## Dead functions of a call graph -/

namespace Dead

theorem isEntryPoint_eq_true_iff {name : String} :
    isEntryPoint name = true ↔ ∃ e ∈ entryPoints, Text.lower name.toList = Text.lower e.toList := by
  simp only [isEntryPoint, Bool.or_eq_true, List.contains_iff_mem, List.mem_map]
  constructor
  · rintro (h | ⟨e, he, hlower⟩)
    · exact ⟨name, h, rfl⟩
    · exact ⟨e, he, hlower.symm⟩
  · rintro ⟨e, he, hlower⟩
    exact .inr ⟨e, he, hlower.symm⟩

theorem isSpecial_eq_true_iff {name : String} :
    isSpecial name = true ↔ ['_', '_'] <+: name.toList ∧ ['_', '_'] <:+ name.toList := by
  rw [isSpecial, Bool.and_eq_true]
  exact and_congr List.isPrefixOf_iff_prefix List.isSuffixOf_iff_suffix

def ofNode? (n : CallNode Json) : Option DeadFunction :=
  n.name.bind fun name =>
    if n.isExternal || isEntryPoint name || isSpecial name || !n.calledBy.isEmpty then none
    else some ⟨name, Json.ofText? n.file, n.id.getD .null, n.calls.length⟩

theorem ofNode?_eq_some_iff {n : CallNode Json} {d : DeadFunction} :
    ofNode? n = some d ↔ n.name = some d.name ∧ n.isExternal = false ∧ isEntryPoint d.name = false ∧
      isSpecial d.name = false ∧
      n.calledBy = [] ∧ d = ⟨d.name, Json.ofText? n.file, n.id.getD .null, n.calls.length⟩ := by
  unfold ofNode?
  cases n.name with
  | none => simp
  | some name =>
    simp only [Option.bind_some, Option.ite_none_left_eq_some, Bool.not_eq_true, Bool.or_eq_false_iff,
      Bool.not_eq_false', List.isEmpty_iff, Option.some.injEq]
    constructor
    · rintro ⟨⟨⟨⟨hexternal, hentry⟩, hspecial⟩, hcalledBy⟩, rfl⟩
      exact ⟨rfl, hexternal, hentry, hspecial, hcalledBy, rfl⟩
    · rintro ⟨rfl, hexternal, hentry, hspecial, hcalledBy, hd⟩
      exact ⟨⟨⟨⟨hexternal, hentry⟩, hspecial⟩, hcalledBy⟩, hd.symm⟩

theorem ofEntry_entryOf {n : CallNode Json} (h : n.name ≠ none) : ofEntry (entryOf n) = .ok (ofNode? n) := by
  obtain ⟨name, hname⟩ := Option.ne_none_iff_exists'.1 h
  simp only [ofEntry, entryOf, ofNode?, hname, Option.bind_some]
  cases n.isExternal with
  | true => rfl
  | false =>
    cases isEntryPoint name with
    | true => rfl
    | false =>
      cases isSpecial name with
      | true => rfl
      | false => cases n.calledBy <;> rfl

end Dead

namespace CallGraph

/-- What some items of a list give, item by item, keeps their order. -/
theorem map_filterMap_sublist {α β γ : Type} {f : α → Option β} {g : β → γ} {k : α → γ} {l : List α}
    (h : ∀ a ∈ l, ∀ b, f a = some b → g b = k a) : List.Sublist ((l.filterMap f).map g) (l.map k) := by
  induction l with
  | nil => exact .slnil
  | cons a l ih =>
    rw [List.forall_mem_cons] at h
    cases ha : f a with
    | none =>
      rw [List.filterMap_cons_none ha]
      exact (ih h.2).cons _
    | some b =>
      rw [List.filterMap_cons_some ha, List.map_cons, List.map_cons, h.1 b ha]
      exact (ih h.2).cons_cons _

/-- A name is a caller and never called, and it is neither an entry point nor between double underscores. -/
structure IsUncalled (records : List (CallRecord Json)) (name : String) : Prop where
  calls : ∃ r ∈ records, r.caller = some name
  uncalled : ∀ r ∈ records, r.callee ≠ name
  notEntry : ∀ e ∈ Dead.entryPoints, Text.lower name.toList ≠ Text.lower e.toList
  notSpecial : ¬ (['_', '_'] <+: name.toList ∧ ['_', '_'] <:+ name.toList)

section Uncalled

variable {records : List (CallRecord Json)}

theorem calledBy_eq_nil_iff {n : CallNode Json} (hn : n ∈ (ofRecords records).nodes) {name : String}
    (hname : n.name = some name) :
    n.calledBy = [] ↔ ∀ r ∈ records, r.callee ≠ name := by
  rw [((reflects_foldl records).tells n hn).calledBy, hname, List.eq_nil_iff_forall_not_mem]
  simp only [List.mem_eraseDups, mem_callersOf, Option.some.injEq]
  constructor
  · exact fun h r hr hcallee => h r.caller ⟨r, hr, rfl, hcallee⟩
  · rintro h caller ⟨r, hr, -, hcallee⟩
    exact h r hr hcallee

/-- A node is a dead function exactly if its name is that of a caller that nothing calls. Nodes that count as external
are called, so that they are left out anyway. -/
theorem ofNode?_eq_some_iff_isUncalled {n : CallNode Json} (hn : n ∈ (ofRecords records).nodes) {d : DeadFunction} :
    Dead.ofNode? n = some d ↔ n.name = some d.name ∧ IsUncalled records d.name ∧
      d = ⟨d.name, Json.ofText? n.file, n.id.getD .null, n.calls.length⟩ := by
  rw [Dead.ofNode?_eq_some_iff]
  constructor
  · rintro ⟨hname, -, hentry, hspecial, hcalledBy, hd⟩
    rw [calledBy_eq_nil_iff hn hname] at hcalledBy
    rw [← Bool.not_eq_true, Dead.isEntryPoint_eq_true_iff] at hentry
    rw [← Bool.not_eq_true, Dead.isSpecial_eq_true_iff] at hspecial
    refine ⟨hname, ⟨?_, hcalledBy, fun e he hlower => hentry ⟨e, he, hlower⟩, hspecial⟩, hd⟩
    obtain ⟨r, hr, hmentioned⟩ := mem_names_iff.1 ⟨n, hn, hname⟩
    rcases hmentioned with hcaller | hcallee
    · exact ⟨r, hr, hcaller.symm⟩
    · exact absurd (Option.some.inj hcallee).symm (hcalledBy r hr)
  · rintro ⟨hname, hdead, hd⟩
    have hinside : n.isExternal = false := by
      rw [← Bool.not_eq_true]
      intro hexternal
      obtain ⟨r, hr, hcallee⟩ := exists_callee_of_isExternal records n hn hexternal
      exact hdead.uncalled r hr (Option.some.inj (hcallee.trans hname))
    refine ⟨hname, hinside, ?_, ?_, (calledBy_eq_nil_iff hn hname).2 hdead.uncalled, hd⟩
    · rw [← Bool.not_eq_true, Dead.isEntryPoint_eq_true_iff]
      rintro ⟨e, he, hlower⟩
      exact hdead.notEntry e he hlower
    · rw [← Bool.not_eq_true, Dead.isSpecial_eq_true_iff]
      exact hdead.notSpecial

theorem length_calls_eq_card {n : CallNode Json} (hn : n ∈ (ofRecords records).nodes) :
    n.calls.length = (calleesOf records n.name).toFinset.card := by
  have htells := (reflects_foldl records).tells n hn
  have honce : n.calls.Nodup := by
    rw [htells.calls]
    exact nodup_eraseDups _
  have hsame : n.calls.toFinset = (calleesOf records n.name).toFinset := by
    ext callee
    rw [List.mem_toFinset, List.mem_toFinset, htells.calls, List.mem_eraseDups]
  rw [← hsame, List.toFinset_card_of_nodup honce]

theorem IsUncalled.card_pos {name : String} (h : IsUncalled records name) :
    0 < (calleesOf records (some name)).toFinset.card := by
  obtain ⟨r, hr, hcaller⟩ := h.calls
  exact Finset.card_pos.2 ⟨r.callee, List.mem_toFinset.2 (mem_calleesOf.2 ⟨r, hr, hcaller, rfl⟩)⟩

/-- Dead functions are listed in the order of the nodes, as each of them calls something. -/
theorem dead_ofRecords_eq_ok (hcallers : ∀ r ∈ records, r.caller ≠ none) :
    (ofRecords records).dead = .ok ((ofRecords records).nodes.filterMap Dead.ofNode?) := by
  have hnamed : ∀ n ∈ (ofRecords records).nodes, n.name ≠ none := by
    intro n hn hnone
    obtain ⟨r, hr, hname | hname⟩ := mem_names_iff.1 ⟨n, hn, hnone⟩
    · exact hcallers r hr hname.symm
    · cases hname
  have hall : ((ofRecords records).nodes.map Dead.entryOf).mapM Dead.ofEntry =
      .ok ((ofRecords records).nodes.map Dead.ofNode?) := by
    rw [List.mapM_map]
    exact mapM_eq_ok_map fun n hn => Dead.ofEntry_entryOf (hnamed n hn)
  have hcalls : ∀ d ∈ (ofRecords records).nodes.filterMap Dead.ofNode?, d.calls ≠ 0 := by
    intro d hd
    obtain ⟨n, hn, hdead⟩ := List.mem_filterMap.1 hd
    obtain ⟨hname, huncalled, hd⟩ := (ofNode?_eq_some_iff_isUncalled hn).1 hdead
    rw [hd, length_calls_eq_card hn, hname]
    exact huncalled.card_pos.ne'
  simp only [CallGraph.dead, Dead.functions, hall, bind, Except.bind, pure, Except.pure, List.filterMap_map,
    Function.comp_def, id]
  rw [List.filter_eq_self.2, List.filter_eq_nil_iff.2, List.append_nil]
  · simpa using hcalls
  · simpa using hcalls

end Uncalled

/-- If no call of the files lacks a caller, the dead functions of their graph are the callers that nothing calls: one
for each name, in the order of the nodes, with the number of the names that it calls. As there is one at least, none of
them is the likelier to be dead. -/
theorem dead_lists_uncalled {files : List (FileEntry Json)} {found : List (List (CallRecord Json))}
    (h : files.mapM FileEntry.records = .ok found) (hcallers : ∀ r ∈ found.flatten, r.caller ≠ none) :
    ∃ g dead, build files = .ok g ∧ g.dead = .ok dead ∧
      (dead.map (·.name)).Nodup ∧ (∀ name, name ∈ dead.map (·.name) ↔ IsUncalled found.flatten name) ∧
      (∀ d ∈ dead, d.calls = (calleesOf found.flatten (some d.name)).toFinset.card ∧ 1 ≤ d.calls ∧
        d.severity = "medium") ∧
      List.Sublist (dead.map fun d => some d.name) (g.nodes.map (·.name)) := by
  have hbuild : build files = .ok (ofRecords found.flatten) := build_eq_ok_iff.2 ⟨found, mapM_eq_ok_iff.1 h, rfl⟩
  have horder : List.Sublist (((ofRecords found.flatten).nodes.filterMap Dead.ofNode?).map fun d => some d.name)
      ((ofRecords found.flatten).nodes.map (·.name)) :=
    map_filterMap_sublist fun n hn d hd => ((ofNode?_eq_some_iff_isUncalled hn).1 hd).1.symm
  refine ⟨_, _, hbuild, dead_ofRecords_eq_ok hcallers, ?_, fun name => ?_, fun d hd => ?_, horder⟩
  · refine List.Nodup.of_map some ?_
    rw [List.map_map]
    exact (ofRecords_isConverse _).distinct.sublist horder
  · rw [List.mem_map]
    constructor
    · rintro ⟨d, hd, rfl⟩
      obtain ⟨n, hn, hdead⟩ := List.mem_filterMap.1 hd
      exact ((ofNode?_eq_some_iff_isUncalled hn).1 hdead).2.1
    · intro huncalled
      obtain ⟨r, hr, hcaller⟩ := huncalled.calls
      obtain ⟨n, hn, hname⟩ := mem_names_iff.2 ⟨r, hr, .inl rfl⟩
      rw [hcaller] at hname
      have hdead : Dead.ofNode? n = some ⟨name, Json.ofText? n.file, n.id.getD .null, n.calls.length⟩ :=
        (ofNode?_eq_some_iff_isUncalled hn).2 ⟨hname, huncalled, rfl⟩
      exact ⟨_, List.mem_filterMap.2 ⟨n, hn, hdead⟩, rfl⟩
  · obtain ⟨n, hn, hdead⟩ := List.mem_filterMap.1 hd
    obtain ⟨hname, huncalled, hd⟩ := (ofNode?_eq_some_iff_isUncalled hn).1 hdead
    have hcount : d.calls = (calleesOf found.flatten (some d.name)).toFinset.card := by
      rw [hd, length_calls_eq_card hn, hname]
    have hpos : 0 < d.calls := hcount ▸ huncalled.card_pos
    refine ⟨hcount, hpos, ?_⟩
    simp [DeadFunction.severity, hpos.ne']

/-- Two files whose labels are symbols: `helper` is called, and the names of two of its callers tell of calls from
outside. -/
def twoListings : List (FileEntry Json) :=
  [("a.s", "run:\n call helper\n call puts\n call helper\nhelper:\n call puts\nStart:\n call helper\n",
    ["run", "helper", "Start"]), ("b.s", "__at__:\n call helper\ntick:\n call helper\n",
    ["__at__", "tick"])].map fun (path, text, names) =>
    ⟨some "assembly", some (some path), some (some text.toList),
      some (some (names.map fun name => ⟨some (some name), none, none, .missing, .missing⟩))⟩

theorem dead_lists_uncalled_twoListings :
    ∃ g dead, build twoListings = .ok g ∧ g.dead = .ok dead ∧
      dead.map (fun d => (d.name, d.calls)) = [("run", 2), ("tick", 1)] ∧ ∀ d ∈ dead, d.severity = "medium" := by
  have hcallers : ∃ found, twoListings.mapM FileEntry.records = .ok found ∧ ∀ r ∈ found.flatten, r.caller ≠ none := by
    have hall : (twoListings.mapM FileEntry.records).toOption.map (fun found => found.flatten.all (·.caller.isSome)) =
        some true := by decide +kernel
    obtain ⟨found, hfound, hall⟩ := Option.map_eq_some_iff.1 hall
    refine ⟨found, ?_, fun r hr => Option.isSome_iff_ne_none.1 (List.all_eq_true.1 hall r hr)⟩
    cases hrecords : twoListings.mapM FileEntry.records with
    | error e => simp [hrecords, Except.toOption] at hfound
    | ok found' => simpa [hrecords, Except.toOption] using hfound
  obtain ⟨found, hfound, hcallers⟩ := hcallers
  obtain ⟨g, dead, hg, hdead, -, -, hcalls, -⟩ := dead_lists_uncalled hfound hcallers
  have hlist : (build twoListings).toOption.map (fun g => g.dead.toOption.map (·.map fun d => (d.name, d.calls))) =
      some (some [("run", 2), ("tick", 1)]) := by decide +kernel
  rw [hg] at hlist
  simp only [Except.toOption, Option.map_some, Option.some.injEq, hdead] at hlist
  exact ⟨g, dead, hg, hdead, hlist, fun d hd => (hcalls d hd).2.2⟩

end CallGraph

/-! ## Dead functions of stored calls -/

namespace StoredCalls

theorem isCalled_eq_false_iff {calls : List CallRow} {name : String} :
    isCalled calls name = false ↔ ∀ c ∈ calls, c.calleeName = name → c.isExternal = true := by
  simp only [isCalled, inner, List.any_eq_false, List.mem_filter, Bool.not_eq_true', beq_iff_eq]
  constructor
  · intro h c hc hname
    by_contra hin
    exact h c ⟨hc, Bool.eq_false_iff.2 hin⟩ hname
  · rintro h c ⟨hc, hin⟩ hname
    rw [h c hc hname] at hin
    cases hin

/-- A function of a file is listed exactly if it calls and all calls of its name lead outside. -/
theorem exists_mem_dead_iff {calls : List CallRow} {name file : String} :
    (∃ d ∈ dead calls, d.name = name ∧ d.file = file) ↔
      (∃ e ∈ calls, e.callerName = name ∧ e.callerFile = file) ∧
        ∀ c ∈ calls, c.calleeName = name → c.isExternal = true := by
  rw [← isCalled_eq_false_iff]
  simp only [dead, List.mem_map, List.mem_filter, List.mem_mergeSort, List.mem_eraseDups, Bool.not_eq_true']
  constructor
  · rintro ⟨d, ⟨p, ⟨⟨e, he, rfl⟩, hcalled⟩, rfl⟩, rfl, rfl⟩
    exact ⟨⟨e, he, rfl, rfl⟩, hcalled⟩
  · rintro ⟨⟨e, he, rfl, rfl⟩, hcalled⟩
    exact ⟨_, ⟨(e.callerName, e.callerFile), ⟨⟨e, he, rfl⟩, hcalled⟩, rfl⟩, rfl, rfl⟩

/-- A function of a file is called, as far as its name tells, by another one. -/
def CalledByOther (calls : List CallRow) (name file : String) : Prop :=
  ∃ c ∈ calls, c.calleeName = name ∧ (c.callerName, c.callerFile) ≠ (name, file)

/-- A function that another one calls is listed as dead exactly if there is a caller that is called by another one, but
only from files in which its name stands for no symbol. -/
theorem exists_dead_calledByOther_iff {repository : Id} {searched : List Store} {s : Store}
    (h : KeptBySearch repository searched s) :
    (∃ d ∈ dead (s.callsOf repository), CalledByOther (s.callsOf repository) d.name d.file) ↔
      ∃ e ∈ s.callsOf repository, CalledByOther (s.callsOf repository) e.callerName e.callerFile ∧
        ∀ c ∈ s.callsOf repository, c.calleeName = e.callerName → ∀ t ∈ searched, ¬ t.KeptInside repository c := by
  constructor
  · rintro ⟨d, hd, hother⟩
    obtain ⟨⟨e, he, hname, hfile⟩, hout⟩ := exists_mem_dead_iff.1 ⟨d, hd, rfl, rfl⟩
    refine ⟨e, he, by rwa [hname, hfile], fun c hc hcallee t ht hinside => ?_⟩
    have hin := (h.isExternal_eq_false_iff hc).2 ⟨t, ht, hinside⟩
    rw [hout c hc (hcallee.trans hname)] at hin
    cases hin
  · rintro ⟨e, he, hother, hnone⟩
    have hout : ∀ c ∈ s.callsOf repository, c.calleeName = e.callerName → c.isExternal = true := by
      intro c hc hcallee
      by_contra hin
      obtain ⟨t, ht, hinside⟩ := (h.isExternal_eq_false_iff hc).1 (Bool.eq_false_iff.2 hin)
      exact hnone c hc hcallee t ht hinside
    obtain ⟨d, hd, hname, hfile⟩ := exists_mem_dead_iff.2 ⟨⟨e, he, rfl, rfl⟩, hout⟩
    exact ⟨d, hd, by rwa [hname, hfile]⟩

/-- A repository of two files, where `f` calls `g` in the other file and `g` calls a function from outside. -/
def acrossFiles : Store :=
  ((({} : Store).addRepository (RepositoryRow.blank "tool")).parse (Id.nth 0) []
    [⟨.python, "a.py", "def f():\n    g()\n".toUTF8.toList⟩, ⟨.python, "b.py", "def g():\n    h()\n".toUTF8.toList⟩]).2

theorem exists_dead_calledByOther_acrossFiles :
    ∃ d ∈ dead ((acrossFiles.extractCalls (Id.nth 0)).2.callsOf (Id.nth 0)),
      CalledByOther ((acrossFiles.extractCalls (Id.nth 0)).2.callsOf (Id.nth 0)) d.name d.file := by
  have hkept : KeptBySearch (Id.nth 0) [acrossFiles] (acrossFiles.extractCalls (Id.nth 0)).2 :=
    ((KeptBySearch.start rfl).parse _ _ _).search _
  have hout : ∀ c ∈ (acrossFiles.extractCalls (Id.nth 0)).2.callsOf (Id.nth 0), c.isExternal = true := by decide +kernel
  have hcalled : ∃ e ∈ (acrossFiles.extractCalls (Id.nth 0)).2.callsOf (Id.nth 0),
      ∃ c ∈ (acrossFiles.extractCalls (Id.nth 0)).2.callsOf (Id.nth 0),
        c.calleeName = e.callerName ∧ (c.callerName, c.callerFile) ≠ (e.callerName, e.callerFile) := by decide +kernel
  obtain ⟨e, he, hother⟩ := hcalled
  refine (exists_dead_calledByOther_iff hkept).2 ⟨e, he, hother, fun c hc _ t ht hinside => ?_⟩
  have hin := (hkept.isExternal_eq_false_iff hc).2 ⟨t, ht, hinside⟩
  rw [hout c hc] at hin
  cases hin

end StoredCalls

end CodeSurvey
