/-
How calls come into the store: every row of a repository's calls keeps a call that some search found in one of its files
(`KeptBySearch.exists_keptFrom`), and it is marked as external exactly if the called name stood for no symbol of that
file when the search was made (`KeptBySearch.isExternal_eq_false_iff`).
-/
import CodeSurvey.Proofs.Calls.Listed
import CodeSurvey.Task.Parse

namespace CodeSurvey

/-! ## Symbols of the store -/

/-- The symbol of a row as it is listed for the call analysis. -/
def SymbolRow.entry (y : SymbolRow) : SymbolEntry Id :=
  ⟨some (some y.name), some y.kind.word, some y.id, .line y.lineStart, (y.lineEnd.map .line).getD .null⟩

/-- The symbol of a row as the call analysis knows it. -/
def SymbolRow.known (y : SymbolRow) : KnownSymbol Id := ⟨y.name, y.entry.isFunction, some y.id, y.lineStart, y.lineEnd⟩

theorem SymbolRow.known_entry (y : SymbolRow) : y.entry.known = y.known := by
  have hlast : y.entry.lastLine? = y.lineEnd := by
    unfold SymbolEntry.lastLine? entry
    cases y.lineEnd <;> rfl
  rw [known, ← hlast]; rfl

theorem SymbolRow.isComplete_entry (y : SymbolRow) : y.entry.IsComplete where
  named := ⟨y.name, rfl⟩
  kind := rfl
  lines := by
    unfold SymbolEntry.hasLines entry
    cases y.lineEnd <;> rfl

/-! ## Calls found -/

namespace Store

def knownSymbols (s : Store) (file : Id) : List (KnownSymbol Id) := (s.symbolsIn file).map SymbolRow.known

/-- With rows of symbols, only the limits of an analysis can stop it; then it finds no calls. -/
theorem fileCalls_entries (lang : Language) (file : Option String) (t : List Char) (rows : List SymbolRow) :
    (match fileCalls lang file (some t) (some (rows.map SymbolRow.entry)) with
      | .ok calls => calls
      | .error _ => []) = lang.calls (rows.map SymbolRow.known) file t := by
  have hrows : ∀ e ∈ rows.map SymbolRow.entry, e.IsComplete := by
    intro e he
    obtain ⟨y, -, rfl⟩ := List.mem_map.1 he
    exact y.isComplete_entry
  by_cases ht : lang.IsWithinLimits t
  · rw [fileCalls_eq_ok (fun e he => (hrows e he).toIsNamed) (fun _ e he _ => (hrows e he).lines) ht, List.map_map]
    simp only [Function.comp_def, SymbolRow.known_entry]
  · simp only [Language.IsWithinLimits, Classical.not_imp, not_forall] at ht
    obtain ⟨rfl, o, hp, -⟩ := ht
    cases o <;> simp [fileCalls, Language.calls, Python.calls, hp, Python.Obstacle.orElse]

theorem callsFoundIn_eq (s : Store) (f : FileRow) :
    s.callsFoundIn f = match Language.ofName? f.language with
      | none => []
      | some lang => lang.calls (s.knownSymbols f.id) (some f.path) (f.source.getD "").toList := by
  unfold callsFoundIn
  cases Language.ofName? f.language with
  | none => rfl
  | some lang => exact fileCalls_entries lang _ _ _

theorem mem_callsFoundIn_iff {s : Store} {f : FileRow} {r : CallRecord Id} :
    r ∈ s.callsFoundIn f ↔ ∃ lang, Language.ofName? f.language = some lang ∧
      r ∈ lang.calls (s.knownSymbols f.id) (some f.path) (f.source.getD "").toList := by
  rw [callsFoundIn_eq]
  cases Language.ofName? f.language <;> simp

/-! ## Calls kept -/

/-- The row keeps a call that a search of the store finds in a file of the repository. -/
structure KeptFrom (s : Store) (repository : Id) (f : FileRow) (r : CallRecord Id) (c : CallRow) : Prop where
  file : f ∈ s.readableFiles repository
  found : r ∈ s.callsFoundIn f
  row : (s.callDraft? repository r).map (· c.number) = some c

/-- The called name of the row stands for a symbol that the store has of the caller's file. -/
def KeptInside (s : Store) (repository : Id) (c : CallRow) : Prop :=
  ∃ f r lang, s.KeptFrom repository f r c ∧ f.path = c.callerFile ∧ r.callee = c.calleeName ∧
    Language.ofName? f.language = some lang ∧ lang.CallsInside (s.knownSymbols f.id) (some f.path) r

/-- The row of a call has its data from the record; an identifier that the record lacks is looked up. -/
theorem callDraft?_spec {s : Store} {repository : Id} {r : CallRecord Id} {make : Nat → CallRow}
    (h : s.callDraft? repository r = some make) (n : Nat) :
    (make n).number = n ∧ (make n).repositoryId = repository ∧ r.callerFile = some (make n).callerFile ∧
      (make n).calleeName = r.callee ∧ (make n).isExternal = r.isExternal ∧ r.caller = some (make n).callerName ∧
      (r.callerId <|> s.lookUp? repository r.callerFile r.caller) = some (make n).callerId ∧
      (make n).calleeId = (r.calleeId <|> s.lookUp? repository r.calleeFile (some r.callee)) := by
  simp only [callDraft?, Option.bind_eq_bind, Option.bind_eq_some_iff, Option.pure_def, Option.some.injEq] at h
  obtain ⟨callerName, hname, callerFile, hfile, callerId, hid, rfl⟩ := h
  rw [← hfile] at hid
  exact ⟨rfl, rfl, hfile, rfl, rfl, hname, hid, rfl⟩

theorem KeptFrom.path_and_callee {s : Store} {repository : Id} {f : FileRow} {r : CallRecord Id} {c : CallRow}
    (h : s.KeptFrom repository f r c) : f.path = c.callerFile ∧ r.callee = c.calleeName := by
  obtain ⟨make, hmake, hc⟩ := Option.map_eq_some_iff.1 h.row
  obtain ⟨lang, -, hr⟩ := mem_callsFoundIn_iff.1 h.found
  obtain ⟨-, -, hfile, hcallee, -⟩ := callDraft?_spec hmake c.number
  rw [Language.callerFile_of_mem_calls hr, hc] at hfile
  rw [hc] at hcallee
  exact ⟨Option.some.inj hfile, hcallee.symm⟩

theorem KeptFrom.isExternal_eq_false_iff {s : Store} {repository : Id} {f : FileRow} {r : CallRecord Id} {c : CallRow}
    {lang : Language} (h : s.KeptFrom repository f r c) (hl : Language.ofName? f.language = some lang) :
    c.isExternal = false ↔ lang.CallsInside (s.knownSymbols f.id) (some f.path) r := by
  obtain ⟨make, hmake, hc⟩ := Option.map_eq_some_iff.1 h.row
  obtain ⟨lang', hl', hr⟩ := mem_callsFoundIn_iff.1 h.found
  obtain rfl : lang = lang' := Option.some.inj (hl.symm.trans hl')
  obtain ⟨-, -, -, -, hext, -⟩ := callDraft?_spec hmake c.number
  rw [hc] at hext
  rw [hext]
  exact Language.isExternal_eq_false_iff hr

theorem mem_numberedCalls {c : CallRow} : ∀ {drafts : List (Nat → CallRow)} {n : Nat}, c ∈ numberedCalls n drafts →
    ∃ make ∈ drafts, ∃ k, c = make k
  | [], _, h => by cases h
  | make :: drafts, n, h => by
    rcases List.mem_cons.1 h with rfl | h
    · exact ⟨make, List.mem_cons_self, n, rfl⟩
    · obtain ⟨make', hm, k, hk⟩ := mem_numberedCalls h
      exact ⟨make', List.mem_cons_of_mem _ hm, k, hk⟩

theorem KeptFrom.repositoryId_eq {s : Store} {repository : Id} {f : FileRow} {r : CallRecord Id} {c : CallRow}
    (h : s.KeptFrom repository f r c) : c.repositoryId = repository := by
  obtain ⟨make, hmake, hc⟩ := Option.map_eq_some_iff.1 h.row
  rw [← hc]
  exact (callDraft?_spec hmake c.number).2.1

def newCalls (s : Store) (repository : Id) : List CallRow :=
  numberedCalls s.nextCall ((s.callsFound repository).filterMap (s.callDraft? repository))

theorem exists_keptFrom_of_mem_newCalls {s : Store} {repository : Id} {c : CallRow} (h : c ∈ s.newCalls repository) :
    ∃ f r, s.KeptFrom repository f r c := by
  obtain ⟨make, hm, k, rfl⟩ := mem_numberedCalls h
  obtain ⟨r, hr, hdraft⟩ := List.mem_filterMap.1 hm
  obtain ⟨f, hf, hr⟩ := List.mem_flatMap.1 hr
  obtain ⟨hnumber, -⟩ := callDraft?_spec hdraft k
  exact ⟨f, r, hf, hr, by rw [hdraft, hnumber]; rfl⟩

theorem mem_calls_extractCalls {s : Store} {repository : Id} {c : CallRow}
    (h : c ∈ (s.extractCalls repository).2.calls) :
    c ∈ s.calls ∨ c.repositoryId = repository ∧ ∃ f r, s.KeptFrom repository f r c := by
  unfold extractCalls at h
  split at h
  · exact .inl h
  · split at h
    · exact .inl h
    · dsimp only at h
      split at h
      · exact .inl h
      · rcases List.mem_append.1 h with h | h
        · exact .inl h
        · obtain ⟨f, r, hkept⟩ := exists_keptFrom_of_mem_newCalls h
          exact .inr ⟨hkept.repositoryId_eq, f, r, hkept⟩

theorem mem_callsOf {s : Store} {repository : Id} {c : CallRow} :
    c ∈ s.callsOf repository ↔ c ∈ s.calls ∧ c.repositoryId = repository := by
  simp [callsOf]

theorem calls_parse (s : Store) (repository : Id) (trees : List (String × SyntaxTree)) (files : List SourceFile) :
    (s.parse repository trees files).2.calls = s.calls := by
  show (s.keepSources repository (files.map fun f => (f, f.found (trees.lookup f.path)))).calls = s.calls
  unfold keepSources
  induction files generalizing s with
  | nil => rfl
  | cons f files ih =>
    rw [List.map_cons, List.foldl_cons, ih]
    rfl

end Store

/-! ## Searches one after the other -/

/-- The calls of a repository in the store come from searches alone, of the stores that are listed, the latest first. -/
inductive KeptBySearch (repository : Id) : List Store → Store → Prop
  | start {s : Store} (hnone : s.callsOf repository = []) : KeptBySearch repository [] s
  | search {searched : List Store} {s : Store} (h : KeptBySearch repository searched s) (any : Id) :
      KeptBySearch repository (s :: searched) (s.extractCalls any).2
  /-- Other work, such as that on files and symbols, leaves the calls as they are. -/
  | other {searched : List Store} {s t : Store} (h : KeptBySearch repository searched s)
      (hsame : t.callsOf repository = s.callsOf repository) : KeptBySearch repository searched t

namespace KeptBySearch

variable {repository : Id} {searched : List Store} {s : Store}

/-- Reading source files, of whichever repository, is other work. -/
theorem parse (h : KeptBySearch repository searched s) (any : Id) (trees : List (String × SyntaxTree))
    (files : List SourceFile) : KeptBySearch repository searched (s.parse any trees files).2 :=
  h.other (by rw [Store.callsOf, Store.calls_parse]; rfl)

theorem exists_keptFrom (h : KeptBySearch repository searched s) :
    ∀ c ∈ s.callsOf repository, ∃ t ∈ searched, ∃ f r, t.KeptFrom repository f r c := by
  induction h with
  | start hnone => simp [hnone]
  | @search searched s _ any ih =>
    intro c hc
    obtain ⟨hc, hrepository⟩ := Store.mem_callsOf.1 hc
    rcases Store.mem_calls_extractCalls hc with hc | ⟨hany, hkept⟩
    · obtain ⟨t, ht, hkept⟩ := ih c (Store.mem_callsOf.2 ⟨hc, hrepository⟩)
      exact ⟨t, List.mem_cons_of_mem _ ht, hkept⟩
    · -- a row of the repository can only have been added by a search of that repository
      obtain rfl : any = repository := hany.symm.trans hrepository
      exact ⟨s, List.mem_cons_self, hkept⟩
  | other _ hsame ih => rwa [hsame]

/-- A row is marked as inside exactly if a search that kept it knew the called name in the caller's file. -/
theorem isExternal_eq_false_iff (h : KeptBySearch repository searched s) {c : CallRow} (hc : c ∈ s.callsOf repository) :
    c.isExternal = false ↔ ∃ t ∈ searched, t.KeptInside repository c := by
  constructor
  · intro hin
    obtain ⟨t, ht, f, r, hkept⟩ := h.exists_keptFrom c hc
    obtain ⟨lang, hl, -⟩ := Store.mem_callsFoundIn_iff.1 hkept.found
    obtain ⟨hpath, hcallee⟩ := hkept.path_and_callee
    exact ⟨t, ht, f, r, lang, hkept, hpath, hcallee, hl, (hkept.isExternal_eq_false_iff hl).1 hin⟩
  · rintro ⟨t, -, f, r, lang, hkept, -, -, hl, hinside⟩
    exact (hkept.isExternal_eq_false_iff hl).2 hinside

end KeptBySearch

end CodeSurvey
