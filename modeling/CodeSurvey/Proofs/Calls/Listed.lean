/-
Symbols as a request lists them, where fields may be missing. With names and kinds given, the calls of a file are those
that the analysis of its language finds with these symbols (`fileCalls_eq_ok`), unless the text is beyond the limits of
the analysis or the lines of a C function are no numbers (`fileCalls_eq_wrongType`).

Whatever is missing, what the analyses of Python, C and assembly record of a call is true of the listed symbols
(`fileCalls_isTrueOf`): the caller is one of them, the called name is another one, and the call is external exactly if
no symbol has that name. Of symbols with the same name it does not matter which one is found.
-/
import CodeSurvey.Calls.File
import CodeSurvey.Proofs.Calls.Inside
import CodeSurvey.Proofs.Fault

namespace CodeSurvey

variable {ι : Type}

theorem KnownSymbol.functions_functions (symbols : List (KnownSymbol ι)) :
    functions (functions symbols) = functions symbols := by
  simp [functions]

/-! ## Entries with names and kinds -/

namespace SymbolEntry

/-- The name and the kind of a symbol are given. -/
structure IsNamed (e : SymbolEntry ι) : Prop where
  named : ∃ name, e.name = some (some name)
  kind : e.kind.isSome = true

/-- Nothing is missing that an analysis asks for. -/
structure IsComplete (e : SymbolEntry ι) : Prop extends e.IsNamed where
  lines : e.hasLines = true

theorem IsNamed.symbol_eq {e : SymbolEntry ι} (h : e.IsNamed) : e.symbol = .ok e.known := by
  obtain ⟨name, hname⟩ := h.named
  simp [symbol, hname]

theorem IsNamed.isNameless_eq {e : SymbolEntry ι} (h : e.IsNamed) : e.isNameless = false := by
  obtain ⟨name, hname⟩ := h.named
  simp [isNameless, hname]

theorem mapM_symbol {entries : List (SymbolEntry ι)} (h : ∀ e ∈ entries, e.IsNamed) :
    entries.mapM symbol = .ok (entries.map known) :=
  mapM_eq_ok_map fun e he => (h e he).symbol_eq

theorem lookedUp_eq {entries : List (SymbolEntry ι)} (h : ∀ e ∈ entries, e.IsNamed) :
    lookedUp entries = .ok (entries.map known) := by
  have hall : entries.filter (!·.isNameless) = entries :=
    List.filter_eq_self.2 fun e he => by simp [(h e he).isNameless_eq]
  rw [lookedUp, hall, mapM_symbol h]

theorem functions_known (entries : List (SymbolEntry ι)) :
    KnownSymbol.functions (entries.map known) = (entries.filter isFunction).map known := by
  rw [KnownSymbol.functions, List.filter_map]; rfl

theorem functions_eq {entries : List (SymbolEntry ι)} (h : ∀ e ∈ entries, e.IsNamed) :
    functions entries = .ok (KnownSymbol.functions (entries.map known)) := by
  have hkinds : entries.any (·.kind.isNone) = false := by
    rw [List.any_eq_false]
    intro e he
    simp [Option.isSome_iff_ne_none.1 (h e he).kind]
  rw [functions, hkinds, functions_known]
  exact lookedUp_eq fun e he => h e (List.mem_filter.1 he).1

/-- The functions can be cut out of a C file. -/
def CutOut (lang : Language) (entries : List (SymbolEntry ι)) : Prop :=
  lang = .c → ∀ e ∈ entries, e.isFunction = true → e.hasLines = true

end SymbolEntry

/-- No limit of the analysis is met by a text. Only Python texts have such limits. -/
def Language.IsWithinLimits (lang : Language) (t : List Char) : Prop :=
  lang = .python → ∀ o, Python.parse t = .error o → o = .noProgram

section Given

open SymbolEntry

variable {lang : Language} {file : Option String} {t : List Char} {entries : List (SymbolEntry ι)}

/-- The calls of a text with symbols of which names and kinds are given. -/
theorem fileCalls_eq_ok (h : ∀ e ∈ entries, e.IsNamed) (hcut : CutOut lang entries) (ht : lang.IsWithinLimits t) :
    fileCalls lang file (some t) (some entries) = .ok (lang.calls (entries.map known) file t) := by
  have hmap := mapM_symbol h
  have hfun := functions_eq h
  cases lang with
  | python =>
    cases hp : Python.parse t with
    | error o =>
      obtain rfl := ht rfl o hp
      simp [fileCalls, Language.calls, Python.calls, hp, Python.Obstacle.orElse]
    | ok tree =>
      simp only [fileCalls, Language.calls, Python.calls, hp, hfun, bind, Except.bind, pure, Except.pure]
      rw [Python.Node.calls, KnownSymbol.functions_functions, ← Python.Node.calls]
  | c =>
    have hlines : (entries.filter isFunction).all hasLines = true := by
      simp only [List.all_eq_true, List.mem_filter, and_imp]
      exact hcut rfl
    have hcalls : ∀ known, ∀ e ∈ entries.filter isFunction,
        e.cCalls known file (Text.lines t) = C.functionCalls known file (Text.lines t) e.known := by
      intro known e he
      simp [cCalls, (h e (List.mem_filter.1 he).1).isNameless_eq]
    simp only [fileCalls, hfun, hlines, givenText, bind, Except.bind, pure, Except.pure, ↓reduceIte]
    rw [List.flatMap_congr (hcalls _), Language.calls, C.calls, functions_known, List.flatMap_map]
  | assembly =>
    simp only [fileCalls, lookedUp_eq h, givenText, bind, Except.bind, pure, Except.pure]
    rfl
  | cobol =>
    have hfind : entries.find? isNameless = none := by
      rw [List.find?_eq_none]
      intro e he
      simp [(h e he).isNameless_eq]
    simp only [fileCalls, cobolCalls, hmap, hfind, givenText, bind, Except.bind, pure, Except.pure]
    rfl

/-- A C function whose lines are no numbers cannot be cut out. -/
theorem fileCalls_eq_wrongType (h : ∀ e ∈ entries, e.IsNamed) (hcut : ¬ CutOut lang entries) :
    fileCalls lang file (some t) (some entries) = .error .wrongType := by
  simp only [CutOut, Classical.not_imp, not_forall] at hcut
  obtain ⟨rfl, e, he, hfunction, hlines⟩ := hcut
  have hall : ¬ (entries.filter isFunction).all hasLines = true := by
    simp only [List.all_eq_true, List.mem_filter, and_imp, not_forall]
    exact ⟨e, he, hfunction, hlines⟩
  simp only [fileCalls, functions_eq h, givenText, bind, Except.bind, if_neg hall]
  rfl

end Given

/-! ## Records and the listed symbols -/

/-- May a symbol call and be called? In Python and C these are the functions alone. -/
def Language.admits (lang : Language) (e : SymbolEntry ι) : Bool :=
  match lang with
  | .python | .c => e.isFunction
  | .assembly | .cobol => true

/-- What is recorded of a call in a file is true of the symbols that are listed for the file. -/
structure CallRecord.IsTrueOf (lang : Language) (path : String) (entries : List (SymbolEntry ι))
    (r : CallRecord ι) : Prop where
  caller : ∃ e ∈ entries, lang.admits e = true ∧ e.name = some r.caller ∧ r.callerId = e.id
  another : r.caller ≠ some r.callee
  outside : r.isExternal = true ↔ r.calleeFile = none
  unknown : r.isExternal = true ↔ ∀ e ∈ entries, lang.admits e = true → e.name ≠ some (some r.callee)
  inside : r.isExternal = false → r.calleeFile = some path ∧
    ∃ e ∈ entries, lang.admits e = true ∧ e.name = some (some r.callee) ∧ r.calleeId = e.id

namespace SymbolEntry

theorem symbol_eq_ok_iff {e : SymbolEntry ι} {y : KnownSymbol ι} : e.symbol = .ok y ↔ e.name ≠ none ∧ e.known = y := by
  unfold symbol
  split <;> simp [*]

section LookedUp

variable {l : List (SymbolEntry ι)} {found : List (KnownSymbol ι)}

theorem mem_lookedUp_iff (h : lookedUp l = .ok found) {y : KnownSymbol ι} :
    y ∈ found ↔ ∃ e ∈ l, e.name = some (some y.name) ∧ e.known = y := by
  rw [mem_iff_of_mapM_eq_ok h]
  constructor
  · rintro ⟨e, he, hsymbol⟩
    obtain ⟨hl, hnamed⟩ := List.mem_filter.1 he
    obtain ⟨hgiven, rfl⟩ := symbol_eq_ok_iff.1 hsymbol
    refine ⟨e, hl, ?_, rfl⟩
    rcases hname : e.name with _ | _ | name
    · exact absurd hname hgiven
    · simp [isNameless, hname] at hnamed
    · simp [known, hname]
  · rintro ⟨e, hl, hname, rfl⟩
    exact ⟨e, List.mem_filter.2 ⟨hl, by simp [isNameless, hname]⟩, symbol_eq_ok_iff.2 ⟨by simp [hname], rfl⟩⟩

theorem name_ne_none_of_lookedUp (h : lookedUp l = .ok found) {e : SymbolEntry ι} (he : e ∈ l) : e.name ≠ none := by
  by_cases hnameless : e.isNameless = true
  · simp_all [isNameless]
  · obtain ⟨y, hy⟩ := exists_eq_ok_of_mapM_eq_ok h e (List.mem_filter.2 ⟨he, by simpa using hnameless⟩)
    exact (symbol_eq_ok_iff.1 hy).1

end LookedUp

theorem functions_eq_ok {entries : List (SymbolEntry ι)} {found : List (KnownSymbol ι)}
    (h : functions entries = .ok found) :
    lookedUp (entries.filter isFunction) = .ok found := by
  unfold functions at h
  split at h
  · cases h
  · exact h

end SymbolEntry

section Truth

open SymbolEntry CallRecord

variable {lang : Language} {path : String} {entries : List (SymbolEntry ι)} {found : List (KnownSymbol ι)}

/-- The called name of a record is resolved among the admitted symbols; the record is true of them if its caller is one
of them. -/
theorem isTrueOf_of_ofName (h : lookedUp (entries.filter lang.admits) = .ok found) {e : SymbolEntry ι}
    (hlisted : e ∈ entries) (hadmitted : lang.admits e = true) {name : Option String} (hname : e.name = some name)
    {caller callee : String} {line : Int}
    (hother : name ≠ some callee) :
    IsTrueOf lang path entries { ofName found (some path) caller e.id callee line with caller := name } := by
  have hstands : (∃ y ∈ found, y.name = callee) ↔ ∃ e ∈ entries, lang.admits e = true ∧
      e.name = some (some callee) := by
    constructor
    · rintro ⟨y, hy, rfl⟩
      obtain ⟨e, he, hname, -⟩ := (mem_lookedUp_iff h).1 hy
      obtain ⟨hlisted, hadmitted⟩ := List.mem_filter.1 he
      exact ⟨e, hlisted, hadmitted, hname⟩
    · rintro ⟨e, hlisted, hadmitted, hname⟩
      have hcallee : e.known.name = callee := by simp [known, hname]
      refine ⟨e.known, (mem_lookedUp_iff h).2 ⟨e, List.mem_filter.2 ⟨hlisted, hadmitted⟩, ?_, rfl⟩, hcallee⟩
      rw [hcallee, hname]
  have hexternal := ofName_isExternal_eq_false_iff found (some path) caller e.id callee line
  rw [hstands] at hexternal
  refine ⟨⟨e, hlisted, hadmitted, hname, ofName_callerId ..⟩, ?_, ?_, ?_, ?_⟩
  · simpa using hother
  · rcases ofName_callee_cases found (some path) caller e.id callee line with ⟨hout, hfile, -⟩ | ⟨hin, hfile, -⟩
    · simp [hout, hfile]
    · simp [hin, hfile]
  · simp only [ofName_callee, ← Bool.not_eq_false, hexternal, not_exists, not_and]
  · intro hin
    rcases ofName_callee_cases found (some path) caller e.id callee line with ⟨hout, -⟩ | ⟨-, hfile, y, hy, rfl, hid⟩
    · rw [hout] at hin; cases hin
    · obtain ⟨e, he, hname, rfl⟩ := (mem_lookedUp_iff h).1 hy
      obtain ⟨hlisted, hadmitted⟩ := List.mem_filter.1 he
      exact ⟨hfile, e, hlisted, hadmitted, by simpa using hname, hid⟩

theorem CallRecord.ofName_with_caller (known : List (KnownSymbol ι)) (file : Option String) (caller : String)
    (callerId : Option ι) (callee : String) (line : Int) :
    { ofName known file caller callerId callee line with caller := some caller } =
      ofName known file caller callerId callee line := by
  unfold ofName
  split <;> rfl

theorem CallRecord.IsOfName.isTrueOf {r : CallRecord ι} (hr : IsOfName found (some path) r)
    (h : lookedUp (entries.filter lang.admits) = .ok found) : r.IsTrueOf lang path entries := by
  obtain ⟨y, hy, callee, line, hother, rfl⟩ := hr
  obtain ⟨e, he, hname, rfl⟩ := (mem_lookedUp_iff h).1 hy
  obtain ⟨hlisted, hadmitted⟩ := List.mem_filter.1 he
  rw [← ofName_with_caller]
  exact isTrueOf_of_ofName h hlisted hadmitted hname (by simpa using hother.symm)

theorem isTrueOf_of_mem_cCalls (h : lookedUp (entries.filter isFunction) = .ok found) {ls : List (List Char)}
    {e : SymbolEntry ι} (he : e ∈ entries.filter isFunction) {r : CallRecord ι}
    (hr : r ∈ e.cCalls found (some path) ls) :
    r.IsTrueOf .c path entries := by
  obtain ⟨hlisted, hfunction⟩ := List.mem_filter.1 he
  have hadmitted : lookedUp (entries.filter (Language.admits .c)) = .ok found := h
  unfold cCalls at hr
  dsimp only at hr
  split at hr
  · rename_i hnameless
    obtain ⟨r', hr', rfl⟩ := List.mem_map.1 hr
    obtain ⟨callee, line, -, rfl⟩ := C.exists_of_mem_functionCalls hr'
    exact isTrueOf_of_ofName hadmitted hlisted hfunction (by simpa [isNameless] using hnameless) (by simp)
  · rename_i hnamed
    obtain ⟨callee, line, hother, rfl⟩ := C.exists_of_mem_functionCalls hr
    refine IsOfName.isTrueOf ⟨e.known, (mem_lookedUp_iff h).2 ⟨e, he, ?_, rfl⟩, callee, line, hother, rfl⟩ hadmitted
    rcases hname : e.name with _ | _ | name
    · exact absurd hname (name_ne_none_of_lookedUp h he)
    · simp [isNameless, hname] at hnamed
    · simp [known, hname]

theorem isTrueOf_of_mem_fileCalls (hlang : lang ≠ .cobol) {t : List Char} {records : List (CallRecord ι)}
    (h : fileCalls lang (some path) (some t) (some entries) = .ok records) : ∀ r ∈ records,
      r.IsTrueOf lang path entries := by
  intro r hr
  unfold fileCalls at h
  cases lang with
  | python =>
    dsimp only at h
    split at h
    · rename_i tree hparse
      obtain ⟨_, hlisted, h⟩ := bind_eq_ok_iff.1 h
      cases hlisted
      obtain ⟨found, hfound, hcalls⟩ := bind_eq_ok_iff.1 h
      have hlooked := functions_eq_ok hfound
      cases hcalls
      have hfunctions : KnownSymbol.functions found = found := by
        refine List.filter_eq_self.2 fun y hy => ?_
        obtain ⟨e, he, -, rfl⟩ := (mem_lookedUp_iff hlooked).1 hy
        exact (List.mem_filter.1 he).2
      have hcalls : r ∈ Python.calls found (some path) t := by simpa [Python.calls, hparse] using hr
      have hof := Python.isOfName_of_mem_calls hcalls
      rw [hfunctions] at hof
      exact hof.isTrueOf hlooked
    · rename_i o hparse
      cases o <;> cases h
      cases hr
  | c =>
    obtain ⟨_, hlisted, h⟩ := bind_eq_ok_iff.1 h
    cases hlisted
    obtain ⟨found, hfound, hcalls⟩ := bind_eq_ok_iff.1 h
    dsimp only [givenText, bind, Except.bind] at hcalls
    split at hcalls
    · cases hcalls
      obtain ⟨e, he, hr⟩ := List.mem_flatMap.1 hr
      exact isTrueOf_of_mem_cCalls (functions_eq_ok hfound) he hr
    · cases hcalls
  | assembly =>
    obtain ⟨_, hlisted, h⟩ := bind_eq_ok_iff.1 h
    cases hlisted
    obtain ⟨found, hfound, hcalls⟩ := bind_eq_ok_iff.1 h
    cases hcalls
    have hall : entries.filter (Language.admits .assembly) = entries := List.filter_eq_self.2 fun _ _ => rfl
    exact (Assembly.isOfName_of_mem_calls hr).isTrueOf (by rwa [hall])
  | cobol => exact absurd rfl hlang

/-- The calls of a Python, C or assembly file are found if nothing is missing and no limit is met, and whenever they are
found, what is recorded of each is true of the symbols that are listed for the file. -/
theorem fileCalls_isTrueOf (lang : Language) (hlang : lang ≠ .cobol) (path : String) (t : List Char)
    (entries : List (SymbolEntry ι)) :
    ((∀ e ∈ entries, e.IsComplete) → lang.IsWithinLimits t →
      ∃ records, fileCalls lang (some path) (some t) (some entries) = .ok records) ∧
    ∀ records, fileCalls lang (some path) (some t) (some entries) = .ok records →
      ∀ r ∈ records, r.IsTrueOf lang path entries := by
  refine ⟨fun hcomplete hlimits => ?_, fun records h => isTrueOf_of_mem_fileCalls hlang h⟩
  exact ⟨_, fileCalls_eq_ok (fun e he => (hcomplete e he).toIsNamed) (fun _ e he _ => (hcomplete e he).lines) hlimits⟩

/-- Three functions, two of which have the same name, and a variable. -/
def overloaded : List (SymbolEntry Nat) :=
  [⟨some (some "f"), some "function", some 1, .line 1, .line 2⟩,
    ⟨some (some "g"), some "function", some 2, .line 4, .null⟩, ⟨some (some "g"), some "function", some 3, .line 6,
      .missing⟩, ⟨some (some "h"), some "variable", some 4, .missing, .missing⟩]

theorem fileCalls_isTrueOf_overloaded :
    ∃ records, fileCalls .c (some "a.c") (some "int f()\n  = g(h(f()));\n".toList) (some overloaded) = .ok records ∧
      records.map (fun r => (r.callee, r.line, r.calleeId, r.isExternal)) =
        [("g", 2, some 3, false), ("h", 2, none, true)] ∧
      ∀ r ∈ records, r.IsTrueOf .c "a.c" overloaded := by
  have hrecords : (fileCalls .c (some "a.c") (some "int f()\n  = g(h(f()));\n".toList) (some overloaded)).toOption.map
      (·.map fun r => (r.callee, r.line, r.calleeId, r.isExternal)) =
        some [("g", 2, some 3, false), ("h", 2, none, true)] := by
    decide +kernel
  cases h : fileCalls .c (some "a.c") (some "int f()\n  = g(h(f()));\n".toList) (some overloaded) with
  | error e =>
    rw [h] at hrecords
    cases hrecords
  | ok records =>
    rw [h] at hrecords
    exact ⟨records, rfl, Option.some.inj hrecords, (fileCalls_isTrueOf .c (by decide) "a.c" _ overloaded).2 records h⟩

end Truth

end CodeSurvey
