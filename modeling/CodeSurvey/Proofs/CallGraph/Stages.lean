/-
The stages of the analysis of calls: the graph of listed files, the dead functions of this graph and its circular calls.
For files whose symbols have names and kinds it is told exactly which stage fails (`build_dead_circular`). The graph
cannot be built if the lines of a C function are no numbers, and its dead functions cannot be told if COBOL source calls
a program before any paragraph: such a call has no caller, and its node no name. A search for circular calls never comes
upon this node, as nothing calls it, so that only its depth can stop it.
-/
import CodeSurvey.Proofs.CallGraph.Circular
import CodeSurvey.Proofs.CallGraph.Dead

namespace CodeSurvey

variable {ι : Type}

/-! ## Calls outside of all paragraphs -/

namespace Cobol

def beginsParagraph (symbols : List (KnownSymbol ι)) (line : List Char) : Bool :=
  !isCommentLine line && (head? line).any (startsParagraph symbols)

def callsProgram (line : List Char) : Bool :=
  !isCommentLine line && (head? line).isNone && !(callPattern.findAll line).isEmpty

/-- A line calls a program, and no line before it begins a paragraph. -/
def CallsAhead (symbols : List (KnownSymbol ι)) (ls : List (List Char)) : Prop :=
  ∃ before line behind, ls = before ++ line :: behind ∧ callsProgram line = true ∧
    ∀ l ∈ before, beginsParagraph symbols l = false

/-- A text calls a program before any paragraph begins. -/
def CallsOutside (symbols : List (KnownSymbol ι)) (t : List Char) : Prop :=
  CallsAhead symbols (Text.lines (Text.upper t))

variable {symbols : List (KnownSymbol ι)} {file : Option String}

theorem caller_of_mem_performs {caller : String} {n : Nat} {line : List Char} {r : CallRecord ι}
    (h : r ∈ performs symbols file caller n line) : r.caller = some caller := by
  obtain ⟨name, -, rfl⟩ := List.mem_map.1 h
  exact performRecord_caller ..

theorem paragraph?_eq_none_iff {line : List Char} :
    paragraph? symbols line = none ↔ beginsParagraph symbols line = false := by
  unfold paragraph? beginsParagraph
  cases isCommentLine line with
  | true => simp
  | false => cases head? line <;> simp [Option.filter_some]

theorem exists_caller_eq_none_iff {t : List Char} :
    (∃ r ∈ calls symbols file t, r.caller = none) ↔ CallsOutside symbols t := by
  constructor
  · rintro ⟨r, hr, hnone⟩
    obtain ⟨before, line, behind, ht, hcomment, hhead, ⟨caller, -, hr⟩ | hr⟩ := mem_calls_iff.1 hr
    · -- what is performed has the paragraph as its caller
      rw [caller_of_mem_performs hr] at hnone
      cases hnone
    · obtain ⟨m, hm, rfl⟩ := List.mem_map.1 hr
      refine ⟨before, line, behind, ht, ?_,
        fun l hl => paragraph?_eq_none_iff.1 (CallScan.enclosing?_eq_none_iff.1 hnone l hl)⟩
      simp [callsProgram, hcomment, hhead, List.ne_nil_of_mem hm]
  · rintro ⟨before, line, behind, ht, hcalls, hnone⟩
    simp only [callsProgram, Bool.and_eq_true, Bool.not_eq_true', Option.isNone_iff_eq_none,
      List.isEmpty_eq_false_iff_exists_mem] at hcalls
    obtain ⟨⟨hcomment, hhead⟩, m, hm⟩ := hcalls
    refine ⟨_, mem_calls_iff.2 ⟨before, line, behind, ht, hcomment, hhead, .inr (List.mem_map_of_mem hm)⟩, ?_⟩
    exact CallScan.enclosing?_eq_none_iff.2 fun l hl => paragraph?_eq_none_iff.2 (hnone l hl)

end Cobol

theorem Language.exists_caller_eq_none_iff {lang : Language} {symbols : List (KnownSymbol ι)} {file : Option String}
    {t : List Char} :
    (∃ r ∈ lang.calls symbols file t, r.caller = none) ↔ lang = .cobol ∧ Cobol.CallsOutside symbols t := by
  have hnamed : ∀ {known : List (KnownSymbol ι)} {r : CallRecord ι}, r.IsOfName known file → r.caller ≠ none := by
    intro known r h
    obtain ⟨y, -, hcaller, -⟩ := h.exists_caller
    simp [hcaller]
  cases lang with
  | python =>
    simp only [reduceCtorEq, false_and, iff_false, not_exists, not_and]
    exact fun r hr => hnamed (Python.isOfName_of_mem_calls hr)
  | c =>
    simp only [reduceCtorEq, false_and, iff_false, not_exists, not_and]
    exact fun r hr => hnamed (C.isOfName_of_mem_calls hr)
  | assembly =>
    simp only [reduceCtorEq, false_and, iff_false, not_exists, not_and]
    exact fun r hr => hnamed (Assembly.isOfName_of_mem_calls hr)
  | cobol =>
    simp only [true_and]
    exact Cobol.exists_caller_eq_none_iff

/-! ## Dead functions -/

namespace CallGraph

/-- The node of calls without a caller does not count as external. -/
def NamelessInside (nodes : List (CallNode ι)) : Prop := ∀ n ∈ nodes, n.name = none → n.isExternal = false

theorem namelessInside_ofRecords (records : List (CallRecord ι)) : NamelessInside (ofRecords records).nodes := by
  intro n hn hname
  rw [← Bool.not_eq_true]
  intro hexternal
  obtain ⟨r, -, hcallee⟩ := exists_callee_of_isExternal records n hn hexternal
  rw [hname] at hcallee
  cases hcallee

/-- A node is looked at in vain exactly if it counts as inside and has no name. -/
theorem ofEntry_entryOf_eq_error_iff {n : CallNode Json} {e : Fault} :
    Dead.ofEntry (Dead.entryOf n) = .error e ↔ n.isExternal = false ∧ n.name = none ∧ e = .noText := by
  by_cases hname : n.name = none
  · cases hexternal : n.isExternal <;> simp [Dead.ofEntry, Dead.entryOf, hname, hexternal, eq_comm]
  · simp [Dead.ofEntry_entryOf hname, hname]

theorem dead_eq_error_iff {g : CallGraph Json} (h : NamelessInside g.nodes) {e : Fault} :
    g.dead = .error e ↔ e = .noText ∧ ∃ n ∈ g.nodes, n.name = none := by
  have hdead : g.dead = .error e ↔ (g.nodes.map Dead.entryOf).mapM Dead.ofEntry = .error e := bind_pure_eq_error_iff
  rw [hdead, mapM_map_eq_error_iff]
  intro n hn e
  rw [ofEntry_entryOf_eq_error_iff]
  constructor
  · rintro ⟨-, hname, rfl⟩
    exact ⟨rfl, hname⟩
  · rintro ⟨rfl, hname⟩
    exact ⟨h n hn hname, hname, rfl⟩

/-- The dead functions of a graph of calls are told unless one of the calls has no caller. -/
theorem dead_ofRecords_eq_error_iff {records : List (CallRecord Json)} {e : Fault} :
    (ofRecords records).dead = .error e ↔ e = .noText ∧ ∃ r ∈ records, r.caller = none := by
  rw [dead_eq_error_iff (namelessInside_ofRecords records), mem_names_iff]
  simp [eq_comm]

end CallGraph

/-! ## Circular calls -/

namespace Digraph

section Successors

variable {α : Type} [BEq α] {P : List α → Prop}

theorem forall_mem_put {g : Digraph α} {a : α} {next : List α} (hg : ∀ e ∈ g, P e.2) (hnext : P next) :
    ∀ e ∈ g.put a next, P e.2 := by
  intro e he
  unfold put at he
  split at he
  · obtain ⟨e', he', rfl⟩ := List.mem_map.1 he
    split
    · exact hnext
    · exact hg e' he'
  · rcases List.mem_append.1 he with he | he
    · exact hg e he
    · rw [List.mem_singleton.1 he]
      exact hnext

theorem forall_mem_ofEntries {l : List (α × List α)} (h : ∀ e ∈ l, P e.2) : ∀ e ∈ ofEntries l, P e.2 := by
  unfold ofEntries
  induction l using List.reverseRec with
  | nil => simp
  | append_singleton l e ih =>
    rw [List.foldl_append]
    rw [List.forall_mem_append] at h
    exact forall_mem_put (ih h.1) (h.2 e (List.mem_singleton_self e))

end Successors

/-- A search comes upon cycles of named nodes only, if none but named nodes are successors. -/
theorem findCircularCalls_eq {g : Digraph (Option String)} (h : ∀ a b, g.Edge a b → b.isSome = true) :
    g.findCircularCalls = g.searchable.map circularCalls := by
  have hcycles : ∀ c ∈ g.circularCalls, c.cycle.all Option.isSome = true := by
    intro c hc
    simp only [circularCalls, List.mem_mergeSort, List.mem_map, closedWalks_eq_cycles, List.mem_filter] at hc
    obtain ⟨c, ⟨hc, -⟩, rfl⟩ := hc
    rw [List.all_eq_true]
    intro b hb
    -- also the first node of a cycle is the successor of another one
    obtain ⟨a, hedge⟩ := (isElementaryCycle_of_mem_cycles hc).exists_edge b hb
    exact h a b hedge
  unfold findCircularCalls searchable
  split
  · have hnamed : (g.circularCalls.map (·.cycle)).all (·.all Option.isSome) = true := by
      rw [List.all_eq_true, List.forall_mem_map]
      exact hcycles
    simp only [allNamed, hnamed, bind, Except.bind, pure, Except.pure, Except.map, discard, Functor.discard, ↓reduceIte]
    rfl
  · rfl

end Digraph

namespace CallGraph

theorem isSome_of_edge_digraph {g : CallGraph ι} (a b : Option String) (h : g.digraph.Edge a b) : b.isSome = true := by
  have hnext : ∀ e ∈ g.digraph, ∀ x ∈ e.2, x.isSome = true := by
    refine Digraph.forall_mem_ofEntries (P := fun next : List (Option String) => ∀ x ∈ next, x.isSome = true)
      fun e he => ?_
    obtain ⟨n, -, rfl⟩ := List.mem_map.1 he
    simp
  unfold Digraph.Edge at h
  rcases g.digraph.next_eq_or a with hnil | ⟨e, he, -, heq⟩
  · rw [hnil] at h
    cases h
  · rw [heq] at h
    exact hnext e he b h

/-! ## The stages of the analysis -/

/-- A file in a language that is analysed, with symbols of which names and kinds are given. -/
structure Listing (ι : Type) where
  language : Language
  path : String
  text : List Char
  symbols : List (SymbolEntry ι)
  named : ∀ e ∈ symbols, e.IsNamed

namespace Listing

def entry (f : Listing ι) : FileEntry ι :=
  ⟨some f.language.name, some (some f.path), some (some f.text), some (some f.symbols)⟩

/-- The functions can be cut out of the file, if it is one in C. -/
def IsCutOut (f : Listing ι) : Prop := SymbolEntry.CutOut f.language f.symbols

/-- The file calls a program before any paragraph begins. -/
def CallsOutside (f : Listing ι) : Prop :=
  f.language = .cobol ∧ Cobol.CallsOutside (f.symbols.map SymbolEntry.known) f.text

def calls (f : Listing ι) : List (CallRecord ι) :=
  f.language.calls (f.symbols.map SymbolEntry.known) (some f.path) f.text

theorem exists_caller_eq_none_iff {f : Listing ι} : (∃ r ∈ f.calls, r.caller = none) ↔ f.CallsOutside :=
  Language.exists_caller_eq_none_iff

theorem records_entry (f : Listing ι) :
    f.entry.records = fileCalls f.language (some f.path) (some f.text) (some f.symbols) := by
  have hname : Language.ofName? f.language.name = some f.language := by cases f.language <;> rfl
  simp [entry, FileEntry.records, hname]

theorem records_entry_eq_ok {f : Listing ι} (hcut : f.IsCutOut) (hlimits : f.language.IsWithinLimits f.text) :
    f.entry.records = .ok f.calls := by
  rw [records_entry]
  exact fileCalls_eq_ok f.named hcut hlimits

theorem records_entry_eq_error_iff {f : Listing ι} (hlimits : f.language.IsWithinLimits f.text) {e : Fault} :
    f.entry.records = .error e ↔ e = .wrongType ∧ ¬ f.IsCutOut := by
  by_cases hcut : f.IsCutOut
  · simp [records_entry_eq_ok hcut hlimits, hcut]
  · rw [records_entry, fileCalls_eq_wrongType f.named hcut]
    simp [hcut, eq_comm]

end Listing

theorem build_entries {files : List (Listing ι)} (hlimits : ∀ f ∈ files, f.language.IsWithinLimits f.text)
    (hcut : ∀ f ∈ files, f.IsCutOut) : build (files.map Listing.entry) =
      .ok (ofRecords (files.flatMap Listing.calls)) := by
  rw [build_eq_ok_iff]
  refine ⟨files.map Listing.calls, ?_, rfl⟩
  rw [List.forall₂_map_left_iff, List.forall₂_map_right_iff, List.forall₂_same]
  exact fun f hf => Listing.records_entry_eq_ok (hcut f hf) (hlimits f hf)

theorem build_entries_eq_error_iff {files : List (Listing ι)}
    (hlimits : ∀ f ∈ files, f.language.IsWithinLimits f.text) {e : Fault} :
    build (files.map Listing.entry) = .error e ↔ e = .wrongType ∧ ∃ f ∈ files, ¬ f.IsCutOut := by
  have hbuild : build (files.map Listing.entry) = .error e ↔
      (files.map Listing.entry).mapM FileEntry.records = .error e :=
    bind_pure_eq_error_iff
  rw [hbuild]
  exact mapM_map_eq_error_iff fun f hf e => Listing.records_entry_eq_error_iff (hlimits f hf)

/-- For files whose symbols have names and kinds, the graph of calls is built exactly if each C function can be cut out
of its file. The dead functions of this graph are then told exactly if no program is called before any paragraph, and
its circular calls are told whenever a search does not go too deep. -/
theorem build_dead_circular (files : List (Listing Json)) (hlimits : ∀ f ∈ files, f.language.IsWithinLimits f.text) :
    (build (files.map Listing.entry) = .error .wrongType ↔ ∃ f ∈ files, ¬ f.IsCutOut) ∧
    ((∀ f ∈ files, f.IsCutOut) → ∃ g, build (files.map Listing.entry) = .ok g ∧
      (g.dead = .error .noText ↔ ∃ f ∈ files, f.CallsOutside) ∧
      ((∀ f ∈ files, ¬ f.CallsOutside) → ∃ dead, g.dead = .ok dead) ∧
      g.digraph.findCircularCalls = g.digraph.searchable.map Digraph.circularCalls) := by
  refine ⟨by simp [build_entries_eq_error_iff hlimits], fun hcut => ?_⟩
  have hcallers : (∃ r ∈ files.flatMap Listing.calls, r.caller = none) ↔ ∃ f ∈ files, f.CallsOutside := by
    simp only [← Listing.exists_caller_eq_none_iff, List.mem_flatMap]
    constructor
    · rintro ⟨r, ⟨f, hf, hr⟩, hcaller⟩
      exact ⟨f, hf, r, hr, hcaller⟩
    · rintro ⟨f, hf, r, hr, hcaller⟩
      exact ⟨r, ⟨f, hf, hr⟩, hcaller⟩
  refine ⟨_, build_entries hlimits hcut, ?_, fun hnone => ?_, Digraph.findCircularCalls_eq isSome_of_edge_digraph⟩
  · rw [dead_ofRecords_eq_error_iff, hcallers]
    simp
  · cases hdead : (ofRecords (files.flatMap Listing.calls)).dead with
    | ok dead => exact ⟨dead, rfl⟩
    | error e =>
      obtain ⟨-, hcaller⟩ := dead_ofRecords_eq_error_iff.1 hdead
      obtain ⟨f, hf, hout⟩ := hcallers.1 hcaller
      exact absurd hout (hnone f hf)

/-- A program without symbols that calls another one before its first paragraph. -/
def calledAtStart : Listing Json where
  language := .cobol
  path := "a.cbl"
  text := "Identification Division.\n    call 'P'.\nMAIN.\n    PERFORM OTHER.\n".toList
  symbols := []
  named := by simp

/-- A C function of which the first line is null. -/
def withoutLines : Listing Json where
  language := .c
  path := "a.c"
  text := "int f() \x7b return g(); \x7d\n".toList
  symbols := [⟨some (some "f"), some "function", none, .null, .missing⟩]
  named := by
    intro e he
    rw [List.mem_singleton.1 he]
    exact ⟨⟨"f", rfl⟩, rfl⟩

theorem build_dead_circular_calledAtStart :
    (∃ g, build ([calledAtStart].map Listing.entry) = .ok g ∧ g.dead = .error .noText) ∧
      build ([calledAtStart, withoutLines].map Listing.entry) = .error .wrongType := by
  have hstart : ∀ f ∈ [calledAtStart], f.language.IsWithinLimits f.text ∧ f.IsCutOut := by
    intro f hf
    rw [List.mem_singleton.1 hf]
    exact ⟨nofun, nofun⟩
  have hlimits : ∀ f ∈ [calledAtStart, withoutLines], f.language.IsWithinLimits f.text := by
    simp only [List.forall_mem_cons]
    exact ⟨nofun, nofun, by simp⟩
  have hcalls : Cobol.CallsOutside ([] : List (KnownSymbol Json)) calledAtStart.text :=
    ⟨["IDENTIFICATION DIVISION.".toList], "    CALL 'P'.".toList, ["MAIN.".toList, "    PERFORM OTHER.".toList, []],
      by decide +kernel, by decide +kernel, by decide +kernel⟩
  have hlines : ¬ withoutLines.IsCutOut := fun h => absurd (h rfl _ (List.mem_singleton_self _) rfl) (by decide)
  constructor
  · obtain ⟨g, hg, hdead, -⟩ :=
      (build_dead_circular [calledAtStart] fun f hf => (hstart f hf).1).2 fun f hf => (hstart f hf).2
    exact ⟨g, hg, hdead.2 ⟨calledAtStart, List.mem_singleton_self _, rfl, hcalls⟩⟩
  · exact (build_dead_circular [calledAtStart, withoutLines] hlimits).1.2 ⟨withoutLines, by simp, hlines⟩

end CallGraph

end CodeSurvey
