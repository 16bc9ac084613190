/-
The documentation that a reading keeps. Of the documented definitions of a Python source exactly the plain functions
have a row with their documentation (`parseRepository_documents_plain_functions`): the row of a class tells that there
is none, and an asynchronous function has no row.
-/
import CodeSurvey.Proofs.Docs.Docstring
import CodeSurvey.Proofs.Parse.Bookkeeping

namespace CodeSurvey

/-! ## The symbols of a source -/

namespace Symbol

variable {t : List Char}

theorem withDocumentation_eq_map {lang : Language} {doc : Symbol → Option (List Char)} {ys : List Symbol}
    (h : ∀ y ∈ ys, y.documentation lang t = .ok (doc y)) : withDocumentation lang t ys =
      ys.map fun y => (y, doc y) := by
  induction ys with
  | nil => rfl
  | cons y ys ih =>
    rw [withDocumentation, h y List.mem_cons_self]
    simp only [ih fun z hz => h z (List.mem_cons_of_mem y hz), List.map_cons]

def documentationIn (tree : Python.Node) (y : Symbol) : Option (List Char) :=
  match y.kind with
  | .function | .procedure => tree.walk.findSome? (Docstring.ofNode? y.lineStart)
  | _ => none

theorem extract_python (t : List Char) (line : Int) :
    Docstring.extract t Language.python.name.toList (some line) = Docstring.ofPython t line := by
  rfl

theorem documentation_python {tree : Python.Node} (h : Python.parse t = .ok tree) (y : Symbol) :
    y.documentation .python t = .ok (y.documentationIn tree) := by
  have hlook : ∀ line, Docstring.ofPython t line = .ok (tree.walk.findSome? (Docstring.ofNode? line)) := by
    intro line
    rw [Docstring.ofPython, h]
  unfold documentation documentationIn
  cases y.kind <;> simp only [extract_python, hlook]

end Symbol

theorem SourceFile.found_python {f : SourceFile} {tree : Python.Node} (hlang : f.language = .python)
    (h : Python.parse (fileText f.bytes) = .ok tree) (given : Option SyntaxTree) :
    f.found given = (Python.symbols (fileText f.bytes)).map fun y => (y, y.documentationIn tree) := by
  unfold SourceFile.found
  rw [hlang]
  exact Symbol.withDocumentation_eq_map fun y _ => Symbol.documentation_python h y

/-! ## What rows tell -/

/-- What the row of a symbol tells of a definition: its name, what it is, and its documentation. -/
def SymbolRow.outline (y : SymbolRow) : String × SymbolKind × Bool × Option String :=
  (y.name, y.kind, y.hasDocstring, y.docstring)

def keptDocumentation (doc : String) : String := String.ofList (Text.strip (Docstring.clean doc.toList))

theorem ink_keptDocumentation (doc : String) : Text.ink (keptDocumentation doc).toList = Text.ink doc.toList := by
  rw [keptDocumentation, String.toList_ofList, Text.ink_strip, Docstring.ink_clean]

/-- What the rows on the line of a documented definition tell. -/
def Python.Definition.outlines (d : Python.Definition)
    (doc : String) : List (String × SymbolKind × Bool × Option String) :=
  match d.sort with
  | .function => [(d.name, .function, true, some (keptDocumentation doc))]
  | .classDef => [(d.name, .classType, false, none)]
  | .asyncFunction => []

structure SymbolRow.Documents (y : SymbolRow) (line : Nat) (d : Python.Definition) (doc : String) : Prop where
  line : y.lineStart = line
  name : y.name = d.name
  documented : y.hasDocstring = true
  text : y.docstring = some (keptDocumentation doc)

namespace Store

def symbolsOn (s : Store) (file : Id) (line : Nat) : List SymbolRow :=
  (s.symbolsIn file).filter (·.lineStart == (line : Int))

/-- Documentation is kept exactly if the rows on the line tell of a plain function. -/
theorem exists_documents_iff {s : Store} {file : Id} {line : Nat} {d : Python.Definition} {doc : String}
    (h : (s.symbolsOn file line).map (·.outline) = d.outlines doc) :
    (∃ y ∈ s.symbolsIn file, y.Documents line d doc) ↔ d.sort = .function := by
  constructor
  · rintro ⟨y, hy, hdocuments⟩
    have hon : y ∈ s.symbolsOn file line := List.mem_filter.2 ⟨hy, beq_iff_eq.2 hdocuments.line⟩
    have houtline : y.outline ∈ d.outlines doc := h ▸ List.mem_map_of_mem hon
    unfold Python.Definition.outlines at houtline
    split at houtline
    · next hsort => exact hsort
    · have hundocumented : y.hasDocstring = false := congrArg (·.2.2.1) (List.mem_singleton.1 houtline)
      rw [hdocuments.documented] at hundocumented
      cases hundocumented
    · exact absurd houtline List.not_mem_nil
  · intro hsort
    unfold Python.Definition.outlines at h
    rw [hsort] at h
    obtain ⟨y, hy, houtline⟩ := List.map_eq_singleton_iff.1 h
    obtain ⟨hmem, hline⟩ := List.mem_filter.1 (show y ∈ s.symbolsOn file line from hy ▸ List.mem_cons_self)
    refine ⟨y, hmem, beq_iff_eq.1 hline, congrArg (·.1) houtline, congrArg (·.2.2.1) houtline,
      congrArg (·.2.2.2) houtline⟩

variable {s : Store} {r : Id} {f : SourceFile} {found : List (Symbol × Option (List Char))}

theorem outline_symbolRows (line : Nat) :
    ((s.symbolRows f found).filter (·.lineStart == (line : Int))).map (·.outline) =
    (found.filter (·.1.lineStart == line)).map fun p =>
      (p.1.name, p.1.kind.stored, p.2.isSome, p.2.map String.ofList) := by
  have hmap : (s.symbolRows f found).map (fun y => (y.lineStart, y.outline)) =
      found.map fun p => ((p.1.lineStart : Int), p.1.name, p.1.kind.stored, p.2.isSome, p.2.map String.ofList) := by
    unfold symbolRows
    refine map_numbered ?_ found _
    exact fun _ _ _ => rfl
  -- the line is kept beside what the row tells, so that the selection by line can be made on either side
  have hfilter := congrArg (fun l => (l.filter (·.1 == (line : Int))).map (·.2)) hmap
  simp only [List.filter_map, List.map_map, Function.comp_def] at hfilter
  rw [hfilter]
  congr 1
  refine List.filter_congr fun p _ => ?_
  rw [Bool.eq_iff_iff, beq_iff_eq, beq_iff_eq, Int.ofNat_inj]

theorem keepSources_cons (s : Store) (r : Id) (p : SourceFile × List (Symbol × Option (List Char)))
    (read : List (SourceFile × List (Symbol × Option (List Char)))) :
    s.keepSources r (p :: read) = (s.keepSource r p.1 p.2).keepSources r read := rfl

/-- Nothing is added to files that have been kept before. -/
theorem symbolsIn_keepSources {i : Id} (read : List (SourceFile × List (Symbol × Option (List Char)))) :
    ∀ {s : Store}, (∀ n, s.issued ≤ n → i ≠ Id.nth n) → (s.keepSources r read).symbolsIn i = s.symbolsIn i := by
  induction read with
  | nil => exact fun _ => rfl
  | cons p read ih =>
    intro s hi
    have hlater : ∀ n, (s.keepSource r p.1 p.2).issued ≤ n → i ≠ Id.nth n := by
      intro n hn
      rw [keepSource_eq] at hn
      have hle : s.issued + 1 + p.2.length ≤ n := hn
      exact hi n (by omega)
    rw [keepSources_cons, ih hlater, keepSource_eq]
    show (s.symbols ++ s.symbolRows p.1 p.2).filter (·.fileId == i) = _
    have hnone : (s.symbolRows p.1 p.2).filter (·.fileId == i) = [] := by
      rw [List.filter_eq_nil_iff]
      intro y hy hsame
      exact hi s.issued (Nat.le_refl _) ((beq_iff_eq.1 hsame).symm.trans (fileId_of_mem_symbolRows y hy))
    rw [List.filter_append, hnone, List.append_nil]
    rfl

theorem mem_files_keepSources {g : FileRow} (read : List (SourceFile × List (Symbol × Option (List Char)))) :
    ∀ {s : Store}, g ∈ s.files → g ∈ (s.keepSources r read).files := by
  induction read with
  | nil => exact id
  | cons p read ih =>
    intro s hg
    rw [keepSources_cons]
    refine ih ?_
    rw [keepSource_eq]
    exact List.mem_append_left _ hg

theorem exists_file_keepSources {read : List (SourceFile × List (Symbol × Option (List Char)))}
    (hmem : (f, found) ∈ read) :
    ∀ {s : Store}, s.HasFreshIds → ∃ s' : Store, s'.fileRow r f ∈ (s.keepSources r read).files ∧
      (s.keepSources r read).symbolsIn (s'.fileRow r f).id = s'.symbolRows f found := by
  induction read with
  | nil => exact absurd hmem List.not_mem_nil
  | cons p read ih =>
    intro s hfresh
    rw [keepSources_cons]
    rcases List.mem_cons.1 hmem with rfl | hmem
    · refine ⟨s, mem_files_keepSources read ?_, ?_⟩
      · rw [keepSource_eq]
        exact List.mem_append_right _ List.mem_cons_self
      · have hold : s.symbols.filter (·.fileId == s.nextId) = [] := by
          rw [List.filter_eq_nil_iff]
          intro y hy hsame
          exact hfresh.symbols y hy s.issued (Nat.le_refl _) (beq_iff_eq.1 hsame)
        have hnew : (s.symbolRows f found).filter (·.fileId == s.nextId) = s.symbolRows f found := by
          rw [List.filter_eq_self]
          exact fun y hy => beq_iff_eq.2 (fileId_of_mem_symbolRows y hy)
        -- later files get later identifiers
        have hissued : ∀ n, (s.keepSource r f found).issued ≤ n → s.nextId ≠ Id.nth n := by
          intro n hn
          rw [keepSource_eq] at hn
          have hle : s.issued + 1 + found.length ≤ n := hn
          show Id.nth s.issued ≠ Id.nth n
          rw [Ne, Id.nth_inj]
          omega
        show ((s.keepSource r f found).keepSources r read).symbolsIn s.nextId = _
        rw [symbolsIn_keepSources read hissued, keepSource_eq]
        show (s.symbols ++ s.symbolRows f found).filter (·.fileId == s.nextId) = _
        rw [List.filter_append, hold, hnew, List.nil_append]
    · exact ih hmem hfresh.keepSource

theorem exists_file_parse (hfresh : s.HasFreshIds) {files : List SourceFile} (hf : f ∈ files)
    (trees : List (String × SyntaxTree)) :
    ∃ s' : Store, s'.fileRow r f ∈ (s.parse r trees files).2.filesOf r ∧
      (s.parse r trees files).2.symbolsIn (s'.fileRow r f).id = s'.symbolRows f (f.found (trees.lookup f.path)) := by
  have hread : (f, f.found (trees.lookup f.path)) ∈ files.map fun f => (f, f.found (trees.lookup f.path)) :=
    List.mem_map_of_mem hf
  obtain ⟨s', hfile, hsymbols⟩ := exists_file_keepSources hread hfresh
  exact ⟨s', List.mem_filter.2 ⟨hfile, beq_iff_eq.2 rfl⟩, hsymbols⟩

end Store

/-! ## The task -/

section task

variable {v : Service} {r : Id} {row : RepositoryRow} {files : Archive} {disk : Disk}

/-- The rows on the line of a documented definition, after its file has been read. -/
theorem outline_found {f : SourceFile} {tree n : Python.Node} {d : Python.Definition} {doc : String}
    (hlang : f.language = .python) (hparse : Python.parse (fileText f.bytes) = .ok tree) (hn : n ∈ tree.walk)
    (hd : n.definition? = some d) (hdoc : d.doc = some doc)
    (hblank : Text.isBlankText doc.toList = false) (given : Option SyntaxTree) (s : Store) :
    ((s.symbolRows f (f.found given)).filter (·.lineStart == (n.line : Int))).map (·.outline) = d.outlines doc := by
  have hlook := Docstring.ofPython_line hparse hn hd hdoc hblank
  rw [Docstring.ofPython, hparse] at hlook
  have hown : tree.walk.findSome? (Docstring.ofNode? n.line) = some (Text.strip (Docstring.clean doc.toList)) :=
    Except.ok.inj hlook
  rw [Store.outline_symbolRows, SourceFile.found_python hlang hparse, List.filter_map, List.map_map]
  show ((Python.symbols (fileText f.bytes)).filter (·.lineStart == n.line)).map _ = _
  rw [Python.filter_symbols_line hparse hn hd]
  unfold Python.Node.symbol? Python.Definition.outlines
  rw [hd]
  cases hsort : d.sort <;> simp [hsort, Symbol.documentationIn, hown, SymbolKind.stored, keptDocumentation]

/-- A reading that returns keeps a row for each Python source that is a program. Of each definition in it with a
documentation string that is not blank the rows on its line tell this: of a plain function there is one row, with the
documentation; of a class there is one row, without it; of an asynchronous function there is none. So the documentation
is kept exactly of the plain functions. What is kept has the same characters as the documentation string but for white
space. -/
theorem parseRepository_documents_plain_functions (hrow : v.store.repository? r = some row)
    (hfresh : v.store.HasFreshIds) (hunpack : v.disk.unpack (unpackPlace r) files = (none, disk))
    (trees : List (String × SyntaxTree)) :
    ∃ run w, (parseRepository r (some files) trees).run v = (.ok run, w) ∧
      ∀ f ∈ sourceFiles (disk.below (unpackPlace r)), f.language = .python →
      ∀ tree, Python.parse (fileText f.bytes) = .ok tree →
        ∃ file ∈ w.store.filesOf r, file.path = f.path ∧ file.source = some (String.ofList (fileText f.bytes)) ∧
          ∀ n ∈ tree.walk, ∀ d doc, n.definition? = some d → d.doc = some doc → Text.isBlankText doc.toList = false →
            (w.store.symbolsOn file.id n.line).map (·.outline) = d.outlines doc ∧
            ((∃ y ∈ w.store.symbolsIn file.id, y.Documents n.line d doc) ↔ d.sort = .function) ∧
            Text.ink (keptDocumentation doc).toList = Text.ink doc.toList := by
  refine ⟨_, _, run_parseRepository_some hrow hunpack trees, ?_⟩
  intro f hf hlang tree hparse
  have hprocessing : (v.store.setStatus r .processing).HasFreshIds := ⟨hfresh.files, hfresh.symbols⟩
  obtain ⟨s', hfile, hsymbols⟩ := Store.exists_file_parse hprocessing hf trees
  -- what follows the reading leaves the rows of files and symbols as they are
  let parsed := ((v.store.setStatus r .processing).parse r trees (sourceFiles (disk.below (unpackPlace r)))).2
  have hsame := sameRows_afterParse r { v with disk := disk, store := parsed }
  refine ⟨s'.fileRow r f, ?_, rfl, rfl, ?_⟩
  · rw [Store.filesOf, hsame.files]
    exact hfile
  · intro n hn d doc hd hdoc hblank
    have houtline := outline_found hlang hparse hn hd hdoc hblank (trees.lookup f.path) s'
    rw [← hsymbols] at houtline
    have hon : (((afterParse r).run { v with disk := disk, store := parsed }).2.store.symbolsOn
        (s'.fileRow r f).id n.line).map
        (·.outline) = d.outlines doc := by
      rw [Store.symbolsOn, Store.symbolsIn, hsame.symbols]
      exact houtline
    exact ⟨hon, Store.exists_documents_iff hon, ink_keptDocumentation doc⟩

end task

/-- A documented class with a documented method, and a documented asynchronous function. -/
def stackArchive : Archive :=
  [("stack.py",
    Text.Utf8.encode ("class Stack:\n    \"\"\"A stack.\"\"\"\n    def push(self, x):\n        \"\"\"Adds.\"\"\"\n" ++
    "async def load():\n    \"\"\"Loads.\"\"\"\n").toList)]

/-- The definitions with a documentation string in a program: the line of each, what it is, its name and the string. -/
def Python.documented (t : List Char) : List (Nat × DefinitionSort × String × String) :=
  match parse t with
  | .ok tree => tree.walk.filterMap fun n => do
    let d ← n.definition?
    return (n.line, d.sort, d.name, ← d.doc)
  | .error _ => []

theorem Python.exists_of_mem_documented {t : List Char} {tree : Node} {x : Nat × DefinitionSort × String × String}
    (h : parse t = .ok tree) (hx : x ∈ documented t) :
    ∃ n ∈ tree.walk, ∃ d, n.definition? = some d ∧ d.doc = some x.2.2.2 ∧ x = (n.line, d.sort, d.name, x.2.2.2) := by
  unfold documented at hx
  rw [h] at hx
  obtain ⟨n, hn, hx⟩ := List.mem_filterMap.1 hx
  obtain ⟨d, hd, hx⟩ := Option.bind_eq_some_iff.1 hx
  obtain ⟨doc, hdoc, hx⟩ := Option.bind_eq_some_iff.1 hx
  cases hx
  exact ⟨n, hn, d, hd, hdoc, rfl⟩

/-- Only the method is documented in the store. -/
theorem parseRepository_documents_plain_functions_stack :
    ∃ run w, (parseRepository (Id.nth 0) (some stackArchive) []).run justCreated = (.ok run, w) ∧
      ∃ file ∈ w.store.filesOf (Id.nth 0),
        (w.store.symbolsOn file.id 1).map (·.outline) = [("Stack", .classType, false, none)] ∧
        (w.store.symbolsOn file.id 3).map (·.outline) = [("push", .function, true, some "Adds.")] ∧
        (w.store.symbolsOn file.id 5).map (·.outline) = [] := by
  have hrow : justCreated.store.repository? (Id.nth 0) =
      some (RepositoryRow.blank "tool" (Id.nth 0) (Store.momentOf 0)) := by rfl
  have hfresh : justCreated.store.HasFreshIds :=
    ⟨by simp [justCreated, Store.addRepository], by simp [justCreated, Store.addRepository]⟩
  have hunpack : justCreated.disk.unpack (unpackPlace (Id.nth 0)) stackArchive =
      (none, (justCreated.disk.unpack (unpackPlace (Id.nth 0)) stackArchive).2) := Prod.ext (by decide +kernel) rfl
  obtain ⟨run, w, hrun, hkept⟩ := parseRepository_documents_plain_functions hrow hfresh hunpack []
  have hsources : (sourceFiles
      ((justCreated.disk.unpack (unpackPlace (Id.nth 0)) stackArchive).2.below (unpackPlace (Id.nth 0)))).any
      (fun f => f.language == .python && Python.documented (fileText f.bytes) ==
        [(1, .classDef, "Stack", "A stack."), (5, .asyncFunction, "load", "Loads."),
          (3, .function, "push", "Adds.")]) = true := by
    decide +kernel
  obtain ⟨f, hf, hsource⟩ := List.any_eq_true.1 hsources
  rw [Bool.and_eq_true, beq_iff_eq, beq_iff_eq] at hsource
  obtain ⟨hlang, hdocumented⟩ := hsource
  cases hparse : Python.parse (fileText f.bytes) with
  | error e =>
    rw [Python.documented, hparse] at hdocumented
    cases hdocumented
  | ok tree =>
    obtain ⟨file, hfile, -, -, htells⟩ := hkept f hf hlang tree hparse
    have hrows : ∀ x ∈ Python.documented (fileText f.bytes), Text.isBlankText x.2.2.2.toList = false →
        ∃ d : Python.Definition, d.sort = x.2.1 ∧ d.name = x.2.2.1 ∧
          (w.store.symbolsOn file.id x.1).map (·.outline) = d.outlines x.2.2.2 := by
      intro x hx hblank
      obtain ⟨n, hn, d, hd, hdoc, heq⟩ := Python.exists_of_mem_documented hparse hx
      refine ⟨d, by rw [heq], by rw [heq], ?_⟩
      have hline : x.1 = n.line := by rw [heq]
      rw [hline]
      exact (htells n hn d _ hd hdoc hblank).1
    rw [hdocumented] at hrows
    refine ⟨run, w, hrun, file, hfile, ?_, ?_, ?_⟩
    · obtain ⟨d, hsort, hname, hrows⟩ := hrows (1, .classDef, "Stack", "A stack.") (by simp) (by decide +kernel)
      rw [hrows, Python.Definition.outlines, hsort, hname]
    · obtain ⟨d, hsort, hname, hrows⟩ := hrows (3, .function, "push", "Adds.") (by simp) (by decide +kernel)
      have hdoc : keptDocumentation "Adds." = "Adds." := by decide +kernel
      rw [hrows, Python.Definition.outlines, hsort, hname, hdoc]
    · obtain ⟨d, hsort, hname, hrows⟩ := hrows (5, .asyncFunction, "load", "Loads.") (by simp) (by decide +kernel)
      rw [hrows, Python.Definition.outlines, hsort]

end CodeSurvey
