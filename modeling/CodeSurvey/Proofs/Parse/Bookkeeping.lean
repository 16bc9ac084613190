/-
Reading a repository keeps its books: whatever archive comes and whatever its files hold, the work ends as completed or
as failed, and the numbers that a completed reading tells are those of the rows (`parseRepository_keeps_books`). Each
source file adds its row and the rows of the symbols found before anything ends the work on it (`Books.keepSource`). A
large file is known by the number of its lines, and its symbols are kept batch by batch, each of them once
(`LargeFile.kept_in_batches`).
-/
import CodeSurvey.Proofs.Embedding.Runs
import CodeSurvey.Proofs.Text.Lines
import CodeSurvey.Task.Ingest

namespace CodeSurvey

/-! ## Rows of symbols -/

/-- The row of a symbol tells of its documentation what it holds, and of its complexity that there is a path. -/
structure SymbolRow.IsMeasured (y : SymbolRow) : Prop where
  documented : y.hasDocstring = true ↔ y.docstring ≠ none
  length : y.docstringLength = some ((y.docstring.map String.length).getD 0 : Nat)
  complexity : ∃ c, y.complexity = some c ∧ 1 ≤ c

theorem Metrics.one_le_complexity (lang : Option Language) (t : List Char) : 1 ≤ Metrics.complexity lang t := by
  cases lang with
  | none => exact Nat.le_refl 1
  | some lang => exact Nat.le_add_right 1 _

theorem Symbol.isMeasured_draft (file : Id) (lang : Language) (lines : List (List Char)) (y : Symbol)
    (doc : Option (List Char)) (id : Id) (now : Moment) : (y.draft file lang lines doc id now).IsMeasured where
  documented := by
    unfold Symbol.draft
    cases doc <;> simp
  length := by
    unfold Symbol.draft
    cases doc with
    | none => rfl
    | some t => simp
  complexity := by
    refine ⟨_, rfl, ?_⟩
    exact Int.ofNat_le.2 (Metrics.one_le_complexity (some lang) (y.text lines))

namespace Store

/-! ## One source file -/

/-- No file has, and no symbol refers to, an identifier that is still to be handed out. -/
structure HasFreshIds (s : Store) : Prop where
  files : ∀ f ∈ s.files, ∀ n, s.issued ≤ n → f.id ≠ Id.nth n
  symbols : ∀ y ∈ s.symbols, ∀ n, s.issued ≤ n → y.fileId ≠ Id.nth n

variable {s : Store} {r : Id} {f : SourceFile} {found : List (Symbol × Option (List Char))}

def fileRow (s : Store) (r : Id) (f : SourceFile) : FileRow where
  id := s.nextId
  repositoryId := r
  path := f.path
  language := f.language.name
  lineCount := (Text.boundaryLines (fileText f.bytes)).length
  source := some (String.ofList (fileText f.bytes))
  created := s.now

def symbolRows (s : Store) (f : SourceFile) (found : List (Symbol × Option (List Char))) : List SymbolRow :=
  numbered (s.issued + 1)
    (found.map fun p => p.1.draft s.nextId f.language (Text.boundaryLines (fileText f.bytes)) p.2)

theorem keepSource_eq (s : Store) (r : Id) (f : SourceFile) (found : List (Symbol × Option (List Char))) :
    s.keepSource r f found =
    { s with
      files := s.files ++ [s.fileRow r f]
      symbols := s.symbols ++ s.symbolRows f found
      issued := s.issued + 1 + found.length } := by
  simp only [keepSource, keepFile, addFile, addSymbols, fileRow, symbolRows, List.length_map]

theorem fileId_of_mem_symbolRows : ∀ y ∈ s.symbolRows f found, y.fileId = s.nextId := by
  refine forall_mem_numbered fun make hmake id now => ?_
  obtain ⟨p, -, rfl⟩ := List.mem_map.1 hmake
  rfl

theorem HasFreshIds.keepSource (h : s.HasFreshIds) : (s.keepSource r f found).HasFreshIds := by
  rw [keepSource_eq]
  constructor
  · intro g hg n hn
    have hlater : s.issued + 1 + found.length ≤ n := hn
    rcases List.mem_append.1 hg with hg | hg
    · exact h.files g hg n (by omega)
    · rw [List.mem_singleton.1 hg]
      show Id.nth s.issued ≠ Id.nth n
      rw [Ne, Id.nth_inj]
      omega
  · intro y hy n hn
    have hlater : s.issued + 1 + found.length ≤ n := hn
    rcases List.mem_append.1 hy with hy | hy
    · exact h.symbols y hy n (by omega)
    · rw [fileId_of_mem_symbolRows y hy]
      show Id.nth s.issued ≠ Id.nth n
      rw [Ne, Id.nth_inj]
      omega

/-- The file of an old symbol is what it was, and that of a new one is the new file. -/
theorem HasFreshIds.file?_keepSource (h : s.HasFreshIds) {i : Id} :
    (s.keepSource r f found).file? i = if i = s.nextId then some (s.fileRow r f) else s.file? i := by
  rw [keepSource_eq]
  show (s.files ++ [s.fileRow r f]).find? (·.id == i) = _
  rw [List.find?_append]
  split
  · next hi =>
    -- `find?` gives the first file of an identifier, and no earlier file has the new one
    have hnone : s.files.find? (·.id == i) = none := by
      rw [List.find?_eq_none]
      intro g hg hsame
      exact h.files g hg s.issued (Nat.le_refl _) ((beq_iff_eq.1 hsame).trans hi)
    rw [hnone, hi]
    simp [fileRow]
  · next hi =>
    have hother : [s.fileRow r f].find? (·.id == i) = none := by
      rw [List.find?_eq_none]
      intro g hg hsame
      rw [List.mem_singleton.1 hg] at hsame
      exact hi (beq_iff_eq.1 hsame).symm
    rw [hother, Option.or_none]
    rfl

theorem HasFreshIds.map_fst_symbolsOf_keepSource (h : s.HasFreshIds) :
    ((s.keepSource r f found).symbolsOf r).map (·.1) = (s.symbolsOf r).map (·.1) ++ s.symbolRows f found := by
  have hsymbols : (s.keepSource r f found).symbols = s.symbols ++ s.symbolRows f found := by rw [keepSource_eq]
  rw [map_fst_symbolsOf, map_fst_symbolsOf, hsymbols, List.filter_append]
  congr 1
  · refine List.filter_congr fun y hy => ?_
    have hold : y.fileId ≠ s.nextId := h.symbols y hy s.issued (Nat.le_refl _)
    rw [h.file?_keepSource, if_neg hold]
  · rw [List.filter_eq_self]
    intro y hy
    rw [h.file?_keepSource, if_pos (fileId_of_mem_symbolRows y hy)]
    simp [fileRow]

theorem isMeasured_of_mem_symbolRows : ∀ y ∈ s.symbolRows f found, y.IsMeasured := by
  refine forall_mem_numbered fun make hmake id now => ?_
  obtain ⟨p, -, rfl⟩ := List.mem_map.1 hmake
  exact p.1.isMeasured_draft _ _ _ _ id now

theorem length_symbolRows : (s.symbolRows f found).length = found.length := by
  unfold symbolRows
  rw [length_numbered, List.length_map]

theorem countP_symbolRows : (s.symbolRows f found).countP (·.hasDocstring) = found.countP (·.2.isSome) := by
  have hmap : (s.symbolRows f found).map (·.hasDocstring) = found.map (·.2.isSome) := by
    unfold symbolRows
    refine map_numbered ?_ found _
    exact fun _ _ _ => rfl
  calc (s.symbolRows f found).countP (·.hasDocstring)
      = ((s.symbolRows f found).map (·.hasDocstring)).countP id := by rw [List.countP_map]; rfl
    _ = (found.map (·.2.isSome)).countP id := by rw [hmap]
    _ = found.countP (·.2.isSome) := by rw [List.countP_map]; rfl

/-! ## All source files -/

/-- Source files with the symbols found in them have been read into a store: there is a row for each file and for each
symbol, and repositories are as before. -/
structure Books (s : Store) (r : Id) (read : List (SourceFile × List (Symbol × Option (List Char))))
    (t : Store) : Prop where
  fresh : t.HasFreshIds
  repositories : t.repositories = s.repositories
  files : (t.filesOf r).length = (s.filesOf r).length + read.length
  symbols : ∃ rows, (t.symbolsOf r).map (·.1) = (s.symbolsOf r).map (·.1) ++ rows ∧
    rows.length = total (read.map (·.2.length)) ∧
    rows.countP (·.hasDocstring) = total (read.map (·.2.countP (·.2.isSome))) ∧ ∀ y ∈ rows, y.IsMeasured

theorem Books.nil (h : s.HasFreshIds) : Books s r [] s where
  fresh := h
  repositories := rfl
  files := rfl
  symbols := ⟨[], (List.append_nil _).symm, rfl, rfl, fun _ hy => absurd hy List.not_mem_nil⟩

/-- One more source file in front: its row, and the rows of its symbols. -/
theorem Books.keepSource {t : Store} {read : List (SourceFile × List (Symbol × Option (List Char)))} (h : s.HasFreshIds)
    (hrest : Books (s.keepSource r f found) r read t) : Books s r ((f, found) :: read) t where
  fresh := hrest.fresh
  repositories := by rw [hrest.repositories, keepSource_eq]
  files := by
    have hfiles : (s.keepSource r f found).filesOf r = s.filesOf r ++ [s.fileRow r f] := by
      rw [keepSource_eq]
      show (s.files ++ [s.fileRow r f]).filter (·.repositoryId == r) = _
      rw [List.filter_append, List.filter_cons_of_pos (by simp [fileRow])]
      rfl
    rw [hrest.files, hfiles, List.length_append, List.length_singleton, List.length_cons]
    omega
  symbols := by
    obtain ⟨rows, hrows, hlength, hdocumented, hmeasured⟩ := hrest.symbols
    refine ⟨s.symbolRows f found ++ rows, ?_, ?_, ?_, ?_⟩
    · rw [hrows, h.map_fst_symbolsOf_keepSource, List.append_assoc]
    · rw [List.length_append, length_symbolRows, hlength]
      rfl
    · rw [List.countP_append, countP_symbolRows, hdocumented]
      rfl
    · intro y hy
      rcases List.mem_append.1 hy with hy | hy
      · exact isMeasured_of_mem_symbolRows y hy
      · exact hmeasured y hy

theorem books_keepSources (h : s.HasFreshIds) (r : Id) (read : List (SourceFile × List (Symbol × Option (List Char)))) :
    Books s r read (s.keepSources r read) := by
  induction read generalizing s with
  | nil => exact .nil h
  | cons p read ih => exact .keepSource h (ih h.keepSource)

/-! ## The repository's row -/

theorem repository?_updateRepository {row : RepositoryRow} (h : s.repository? r = some row)
    {change : RepositoryRow → RepositoryRow}
    (hid : ∀ row, (change row).id = row.id) : (s.updateRepository r change).repository? r = some (change row) := by
  unfold repository? updateRepository at *
  have hsame : ((fun row : RepositoryRow => row.id == r) ∘ fun row => if row.id = r then change row else row) =
      (·.id == r) := by
    funext row
    simp only [Function.comp_apply]
    split
    · rw [hid]
    · rfl
  have hrow : row.id = r := beq_iff_eq.1 (List.find?_some h :)
  rw [List.find?_map, hsame, h, Option.map_some, if_pos hrow]

theorem repository?_setStatus {row : RepositoryRow} (h : s.repository? r = some row) (status : RepoStatus) :
    (s.setStatus r status).repository? r = some { row with status := status } := by
  unfold setStatus
  exact repository?_updateRepository h fun _ => rfl

/-- The symbols of a repository without files are none. -/
theorem symbolsOf_eq_nil (h : s.filesOf r = []) : s.symbolsOf r = [] := by
  rw [← List.map_eq_nil_iff (f := (·.1)), map_fst_symbolsOf, List.filter_eq_nil_iff]
  intro y _ hany
  cases hfile : s.file? y.fileId with
  | none =>
    rw [hfile] at hany
    cases hany
  | some g =>
    rw [hfile, Option.any_some] at hany
    have hmem : g ∈ s.filesOf r := List.mem_filter.2 ⟨List.mem_of_find?_eq_some hfile, hany⟩
    rw [h] at hmem
    cases hmem

/-- What follows a reading leaves repositories, files and symbols as they are. -/
structure SameRows (s t : Store) : Prop where
  repositories : t.repositories = s.repositories
  files : t.files = s.files
  symbols : t.symbols = s.symbols

theorem sameRows_extractCalls (s : Store) (r : Id) : s.SameRows (s.extractCalls r).2 := by
  unfold extractCalls
  split
  · exact ⟨rfl, rfl, rfl⟩
  · split
    · exact ⟨rfl, rfl, rfl⟩
    · dsimp only
      split <;> exact ⟨rfl, rfl, rfl⟩

end Store

/-! ## The task -/

/-- What a completed reading tells is true: its record and the row of the repository have the numbers of the rows of
files, of symbols and of documented symbols. -/
structure ParseRun.IsTrueOf (run : ParseRun) (t : Store) (r : Id) : Prop where
  row : ∃ row, t.repository? r = some row ∧ row.status = .completed ∧ row.fileCount = (t.filesOf r).length ∧
    row.symbolCount = (t.symbolsOf r).length
  record : ∀ name, (run.record name).get? "files_processed" = some (.int (t.filesOf r).length) ∧
    (run.record name).get? "symbols_extracted" = some (.int (t.symbolsOf r).length) ∧
    (run.record name).get? "symbols_documented" = some (.int ((t.symbolsOf r).countP (·.1.hasDocstring)))
  symbols : ∀ p ∈ t.symbolsOf r, p.1.IsMeasured

theorem ParseRun.IsTrueOf.of_sameRows {run : ParseRun} {s t : Store} {r : Id} (h : run.IsTrueOf s r)
    (hsame : s.SameRows t) :
    run.IsTrueOf t r := by
  have hrepository : t.repository? r = s.repository? r := by rw [Store.repository?, hsame.repositories]; rfl
  have hfiles : t.filesOf r = s.filesOf r := by rw [Store.filesOf, hsame.files]; rfl
  have hsymbols : t.symbolsOf r = s.symbolsOf r := by
    simp only [Store.symbolsOf, Store.placedSymbols, Store.file?, hsame.files, hsame.symbols]
  constructor
  · rw [hrepository, hfiles, hsymbols]
    exact h.row
  · rw [hfiles, hsymbols]
    exact h.record
  · rw [hsymbols]
    exact h.symbols

theorem isTrueOf_parse {s : Store} {r : Id} {row : RepositoryRow} (hrow : s.repository? r = some row)
    (hnew : s.filesOf r = []) (hfresh : s.HasFreshIds) (trees : List (String × SyntaxTree)) (files : List SourceFile) :
    (s.parse r trees files).1.IsTrueOf (s.parse r trees files).2 r := by
  let read := files.map fun f => (f, f.found (trees.lookup f.path))
  have hbooks := Store.books_keepSources hfresh r read
  obtain ⟨rows, hrows, hlength, hdocumented, hmeasured⟩ := hbooks.symbols
  rw [Store.symbolsOf_eq_nil hnew, List.map_nil, List.nil_append] at hrows
  have hfiles : ((s.keepSources r read).filesOf r).length = files.length := by
    rw [hbooks.files, hnew, List.length_nil, Nat.zero_add, List.length_map]
  have hsymbols : ((s.keepSources r read).symbolsOf r).length = total (read.map (·.2.length)) := by
    rw [← hlength, ← hrows, List.length_map]
  have hcount : ((s.keepSources r read).symbolsOf r).countP (·.1.hasDocstring) =
      total (read.map (·.2.countP (·.2.isSome))) := by
    rw [← hdocumented, ← hrows, List.countP_map]
    rfl
  have hkept : (s.keepSources r read).repository? r = some row := by
    rw [← hrow, Store.repository?, hbooks.repositories]
    rfl
  -- the rows of files and symbols are those before the row of the repository is changed
  show ParseRun.IsTrueOf
    (.done files.length (total (read.map (·.2.length))) (total (read.map (·.2.countP (·.2.isSome)))))
    ((s.keepSources r read).updateRepository r _) r
  constructor
  · refine ⟨_, Store.repository?_updateRepository hkept fun _ => rfl, rfl, ?_, ?_⟩
    · exact congrArg Int.ofNat hfiles.symm
    · exact congrArg Int.ofNat hsymbols.symm
  · intro name
    refine ⟨?_, ?_, ?_⟩
    · exact congrArg (fun n : Nat => some (Json.int n)) hfiles.symm
    · exact congrArg (fun n : Nat => some (Json.int n)) hsymbols.symm
    · exact congrArg (fun n : Nat => some (Json.int n)) hcount.symm
  · intro p hp
    refine hmeasured p.1 ?_
    rw [← hrows]
    exact List.mem_map_of_mem hp

theorem sameRows_afterParse (r : Id) (v : Service) : v.store.SameRows ((afterParse r).run v).2.store := by
  have hcalls := v.store.sameRows_extractCalls r
  let w : Service := { v with store := (v.store.extractCalls r).2 }
  have hafter : ((afterParse r).run v).2 =
      if w.settings.enableEmbeddings && !w.settings.openaiKey.isEmpty then (w.embedWith ⟨r, w.ai⟩).2 else w := by
    unfold afterParse
    rw [StateT.run_bind]
    show ((if w.settings.enableEmbeddings && !w.settings.openaiKey.isEmpty then _ else _ : Work Unit).run w).2 = _
    split <;> rfl
  rw [hafter]
  split
  · next hmakes =>
    rw [Bool.and_eq_true, Bool.not_eq_true'] at hmakes
    obtain ⟨added, hadded⟩ := (Service.extends_embedWith ⟨hmakes.1, hmakes.2⟩ ⟨r, w.ai⟩).store
    rw [hadded]
    exact ⟨hcalls.repositories, hcalls.files, hcalls.symbols⟩
  · exact hcalls

section task

variable {v : Service} {r : Id} {row : RepositoryRow}

theorem run_parseRepository_none (h : v.store.repository? r = some row) (trees : List (String × SyntaxTree)) :
    (parseRepository r none trees).run v =
    (.error .badArchive, { v with store := (v.store.setStatus r .processing).setStatus r .failed }) := by
  unfold parseRepository
  show (if (v.store.repository? r).isNone then _ else _ : Work (Except TaskError ParseRun)).run v = _
  rw [h]
  rfl

theorem run_parseRepository_some (h : v.store.repository? r = some row) {files : Archive}
    {obstacle : Option TaskError} {disk : Disk} (hunpack : v.disk.unpack (unpackPlace r) files = (obstacle, disk))
    (trees : List (String × SyntaxTree)) :
    (parseRepository r (some files) trees).run v =
      match obstacle with
      | some e => (.error e, { v with disk := disk, store := (v.store.setStatus r .processing).setStatus r .failed })
      | none =>
        let read := (v.store.setStatus r .processing).parse r trees (sourceFiles (disk.below (unpackPlace r)))
        (.ok read.1, ((afterParse r).run { v with disk := disk, store := read.2 }).2) := by
  unfold parseRepository
  show (if (v.store.repository? r).isNone then _ else _ : Work (Except TaskError ParseRun)).run v = _
  rw [h]
  cases obstacle <;>
    simp only [Option.isNone_some, Bool.false_eq_true, ↓reduceIte, Service.commit, bind_pure_comp, Service.current,
      bind_map_left, StateT.run_bind, StateT.run_modify, StateT.run_get, pure_bind, hunpack, StateT.run_map,
      map_pure] <;> rfl

/-- The reading of a repository that has no files yet returns exactly if the archive can be opened and all its files can
be written. Otherwise the repository has failed. If it returns, the repository is completed, and what the record and the
repository's row tell is true of the rows: one for each source file and one for each symbol, whatever ended the work on
single files. -/
theorem parseRepository_keeps_books (hrow : v.store.repository? r = some row) (hnew : v.store.filesOf r = [])
    (hfresh : v.store.HasFreshIds) (archive : Option Archive) (trees : List (String × SyntaxTree)) :
    ∃ outcome w, (parseRepository r archive trees).run v = (outcome, w) ∧
      ((∃ run, outcome = .ok run) ↔ ∃ files, archive = some files ∧ (v.disk.unpack (unpackPlace r) files).1 = none) ∧
      (∀ e, outcome = .error e → ∃ row', w.store.repository? r = some row' ∧ row'.status = .failed) ∧
      ∀ run, outcome = .ok run → run.IsTrueOf w.store r := by
  have hprocessing := Store.repository?_setStatus hrow .processing
  have hfailed := Store.repository?_setStatus hprocessing .failed
  cases archive with
  | none =>
    refine ⟨_, _, run_parseRepository_none hrow trees, ?_, fun e _ => ⟨_, hfailed, rfl⟩, ?_⟩
    · constructor
      · rintro ⟨run, hrun⟩
        cases hrun
      · rintro ⟨files, hfiles, -⟩
        cases hfiles
    · intro run hrun
      cases hrun
  | some files =>
    rcases hunpack : v.disk.unpack (unpackPlace r) files with ⟨obstacle, disk⟩
    have hrun := run_parseRepository_some hrow hunpack trees
    cases obstacle with
    | some e =>
      refine ⟨_, _, hrun, ?_, fun e _ => ⟨_, hfailed, rfl⟩, ?_⟩
      · constructor
        · rintro ⟨run, hrun⟩
          cases hrun
        · rintro ⟨files', hfiles, hnone⟩
          cases hfiles
          rw [hunpack] at hnone
          cases hnone
      · intro run hrun
        cases hrun
    | none =>
      refine ⟨_, _, hrun, ⟨fun _ => ⟨files, rfl, by rw [hunpack]⟩, fun _ => ⟨_, rfl⟩⟩, ?_, ?_⟩
      · intro e he
        cases he
      · intro run heq
        obtain rfl := Except.ok.inj heq
        have htrue := isTrueOf_parse hprocessing hnew ⟨hfresh.files, hfresh.symbols⟩ trees
          (sourceFiles (disk.below (unpackPlace r)))
        exact htrue.of_sameRows (sameRows_afterParse r { v with disk := disk, store := _ })

end task

def justCreated : Service :=
  { settings := .standard, hasAi := false, ai := ⟨[], fun _ => [], []⟩, mailLogin := fun _ => false, today := "",
    store := ({} : Store).addRepository (RepositoryRow.blank "tool") }

/-- A file with a documented function, one that no syntax tree is given for, and one that cannot be read. -/
def mixedArchive : Archive :=
  [("a.py", Text.Utf8.encode "def f():\n    \"\"\"Does it.\"\"\"\n    return 1\n".toList),
    ("b.c", Text.Utf8.encode "int x;\n".toList), ("c.py", Text.Utf8.encode "def g(:\n".toList)]

/-- The files are read, but not an archive with a file below another one. -/
theorem parseRepository_keeps_books_mixed :
    (∃ run w, (parseRepository (Id.nth 0) (some mixedArchive) []).run justCreated = (.ok run, w) ∧
      run.IsTrueOf w.store (Id.nth 0)) ∧
    ∃ e w row, (parseRepository (Id.nth 0) (some [("a.py", []), ("a.py/b.py", [])]) []).run justCreated =
      (.error e, w) ∧
      w.store.repository? (Id.nth 0) = some row ∧ row.status = .failed := by
  have hrow : justCreated.store.repository? (Id.nth 0) =
      some (RepositoryRow.blank "tool" (Id.nth 0) (Store.momentOf 0)) := by rfl
  have hfresh : justCreated.store.HasFreshIds :=
    ⟨by simp [justCreated, Store.addRepository], by simp [justCreated, Store.addRepository]⟩
  constructor
  · obtain ⟨outcome, w, hrun, hreturns, -, htrue⟩ := parseRepository_keeps_books hrow rfl hfresh (some mixedArchive) []
    obtain ⟨run, rfl⟩ := hreturns.2 ⟨mixedArchive, rfl, by decide +kernel⟩
    exact ⟨run, w, hrun, htrue run rfl⟩
  · obtain ⟨outcome, w, hrun, hreturns, hfailed, -⟩ :=
      parseRepository_keeps_books hrow rfl hfresh (some [("a.py", []), ("a.py/b.py", [])]) []
    cases outcome with
    | error e =>
      obtain ⟨row, hw, hstatus⟩ := hfailed e rfl
      exact ⟨e, w, row, hrun, hw, hstatus⟩
    | ok run =>
      obtain ⟨files, hfiles, hnone⟩ := hreturns.1 ⟨run, rfl⟩
      cases hfiles
      exact absurd hnone (by decide +kernel)

/-! ## Large files -/

/-- The row tells of the symbol what its source does, and which file it is in. -/
structure SymbolRow.Tells (row : SymbolRow) (file : Id) (y : Symbol) : Prop where
  fileId : row.fileId = file
  name : row.name = y.name
  kind : row.kind = y.kind.stored
  lineStart : row.lineStart = y.lineStart
  lineEnd : row.lineEnd = some (y.lineEnd : Int)
  signature : row.signature = some y.signature

namespace LargeFile

/-- The line that is being read has `w` in it so far. -/
theorem countLinesFrom_eq {w : List Char} (hw : '\n' ∉ w) (n : Nat) (t : List Char) :
    countLinesFrom n (!w.isEmpty) t = n + (Text.feedLines (w ++ t)).length := by
  induction t generalizing w n with
  | nil =>
    rw [List.append_nil, Text.feedLines_of_not_mem hw]
    cases w <;> rfl
  | cons c t ih =>
    rw [countLinesFrom]
    by_cases hc : c = '\n'
    · have hrest := ih List.not_mem_nil (n + 1)
      rw [if_pos (by simpa using hc), hc, Text.feedLines_append_feed hw, List.length_cons]
      exact hrest.trans (Nat.add_right_comm ..)
    · have hline : '\n' ∉ w ++ [c] := by simpa [hw] using Ne.symm hc
      have hstarted : (!(w ++ [c]).isEmpty) = true := by cases w <;> rfl
      have hrest := ih hline n
      rw [hstarted, List.append_assoc, List.singleton_append] at hrest
      rwa [if_neg (by simpa using hc)]

theorem lineCount_eq (t : List Char) : lineCount t = (Text.feedLines t).length :=
  (countLinesFrom_eq List.not_mem_nil 0 t).trans (Nat.zero_add _)

/-- The count that stops early goes down while the full one goes up. -/
theorem hasMoreLinesThan_eq (n k : Nat) (started : Bool) (t : List Char) :
    hasMoreLinesThan n started t = decide (k + n < countLinesFrom k started t) := by
  induction t generalizing n k started with
  | nil => cases started <;> cases n <;> simp [hasMoreLinesThan, countLinesFrom]
  | cons c t ih =>
    unfold hasMoreLinesThan countLinesFrom
    split
    · cases n with
      | zero =>
        -- the early count stops here; the full one has passed `k` and never goes back
        have hcount := countLinesFrom_eq List.not_mem_nil (k + 1) t
        refine (decide_eq_true ?_).symm
        exact hcount ▸ Nat.lt_of_lt_of_le (Nat.lt_succ_self k) (Nat.le_add_right ..)
      | succ n =>
        refine (ih n (k + 1) false).trans ?_
        rw [Nat.add_right_comm]
        rfl
    · exact ih n k true

variable {path : List Char} {bytes : List UInt8} {tree : Option SyntaxTree} {lang : Language} {symbols : List Symbol}

theorem batches_eq (hlang : Language.ofExtension? path = some lang)
    (hread : Symbol.ofSource? lang (fileText bytes) tree = some symbols) :
    batches path bytes tree = chunks batchSize symbols := by
  unfold batches
  rw [hlang, Option.bind_some, hread]

/-- Batch after batch, the store is as if all symbols had come at once. -/
theorem run_keepBatches (file : Id) (batches : List (List Symbol)) (v : Service) :
    (forIn batches PUnit.unit fun batch _ => do
      Service.commit fun s => s.keepBatch (some file) batch
      pure (ForInStep.yield PUnit.unit) : Work PUnit).run v =
    (.unit, { v with store := v.store.addSymbols (batches.flatten.map (Symbol.bareDraft file)) }) := by
  induction batches generalizing v with
  | nil =>
    have hnone : v.store.addSymbols [] = v.store := by simp [Store.addSymbols, Store.numbered]
    rw [List.flatten_nil, List.map_nil, hnone]
    rfl
  | cons batch rest ih =>
    rw [List.forIn_cons]
    refine (ih { v with store := v.store.keepBatch (some file) batch }).trans ?_
    rw [List.flatten_cons, List.map_append, ← Store.addSymbols_addSymbols]
    rfl

theorem run_parseLargeFile (file : Id) (path : List Char) (bytes : List UInt8) (tree : Option SyntaxTree)
    (v : Service) :
    (parseLargeFile (some file) path (some bytes) tree).run v = ((batches path bytes tree).flatten.length,
      { v with store := v.store.addSymbols ((batches path bytes tree).flatten.map (Symbol.bareDraft file)) }) := by
  have htotal : ∀ batches : List (List Symbol), total (batches.map List.length) = batches.flatten.length := by
    intro batches
    rw [List.length_flatten]
    rfl
  unfold parseLargeFile
  simp only [Option.map_some, Option.getD_some, htotal]
  rw [StateT.run_bind, run_keepBatches]
  rfl

/-- Both counts of lines tell the same files to be large. Whatever a file's symbols are, its batches are these symbols
in their order, with none empty and all but the last full, and reading the file adds one row for each symbol and tells
their number. -/
theorem kept_in_batches (path : List Char) (bytes : List UInt8) :
    (shouldStream bytes = true ↔ (stats path bytes).isLarge = true) ∧
    ((stats path bytes).isLarge = true ↔ 100000 < (Text.feedLines (fileText bytes)).length) ∧
    ∀ lang symbols tree, Language.ofExtension? path = some lang →
      Symbol.ofSource? lang (fileText bytes) tree = some symbols →
      (batches path bytes tree).flatten = symbols ∧
      (∀ batch ∈ batches path bytes tree, batch ≠ [] ∧ batch.length ≤ 1000) ∧
      (∀ batch ∈ (batches path bytes tree).dropLast, batch.length = 1000) ∧
      ∀ (file : Id) (v : Service), ∃ rows w, (parseLargeFile (some file) path (some bytes) tree).run v =
        (symbols.length, w) ∧
        w.store.symbols = v.store.symbols ++ rows ∧ (rows.map (·.id)).Nodup ∧
        List.Forall₂ (fun y row => row.Tells file y) symbols rows := by
  have hlarge : (stats path bytes).isLarge = true ↔ 100000 < lineCount (fileText bytes) := decide_eq_true_iff
  refine ⟨?_, ?_, ?_⟩
  · rw [hlarge, shouldStream, hasMoreLinesThan_eq lineLimit 0, decide_eq_true_iff, Nat.zero_add]
    rfl
  · rw [hlarge, lineCount_eq]
  · intro lang symbols tree hlang hread
    have hflatten : (batches path bytes tree).flatten = symbols := by
      rw [batches_eq hlang hread]
      exact flatten_chunks (by decide) symbols
    refine ⟨hflatten, ?_, ?_, ?_⟩
    · intro batch hbatch
      rw [batches_eq hlang hread] at hbatch
      obtain ⟨hone, hfits⟩ := length_of_mem_chunksFrom (by decide) batch hbatch
      exact ⟨List.ne_nil_of_length_pos hone, hfits⟩
    · intro batch hbatch
      rw [batches_eq hlang hread] at hbatch
      exact length_of_mem_dropLast_chunksFrom batch hbatch
    · intro file v
      have hrun := run_parseLargeFile file path bytes tree v
      rw [hflatten] at hrun
      refine ⟨_, _, hrun, rfl, Store.nodup_id_numbered ?_ _, Store.forall₂_numbered ?_ symbols _⟩
      · intro make hmake
        obtain ⟨y, -, rfl⟩ := List.mem_map.1 hmake
        exact fun _ _ => rfl
      · exact fun y id now => ⟨rfl, rfl, rfl, rfl, rfl, rfl⟩

/-- Two labels, on lines with three sorts of ends. -/
def bootFile : List UInt8 := Text.Utf8.encode "start:\r\n  jmp halt\rhalt:\n".toList

theorem kept_in_batches_boot : Language.ofExtension? "boot/Start.S".toList = some .assembly ∧
    ∃ w, (parseLargeFile (some (Id.nth 1)) "boot/Start.S".toList (some bootFile) none).run justCreated = (2, w) ∧
      w.store.symbols.length = 2 := by
  have hlang : Language.ofExtension? "boot/Start.S".toList = some .assembly := by decide
  have hlength : (Assembly.symbols (fileText bootFile)).length = 2 := by decide +kernel
  obtain ⟨-, -, hkept⟩ := kept_in_batches "boot/Start.S".toList bootFile
  obtain ⟨-, -, -, hkept⟩ := hkept .assembly _ none hlang rfl
  obtain ⟨rows, w, hrun, hrows, -, htell⟩ := hkept (Id.nth 1) justCreated
  refine ⟨hlang, w, hlength ▸ hrun, ?_⟩
  rw [hrows]
  exact htell.length_eq.symm.trans hlength

end LargeFile

end CodeSurvey
