/-
What a search for calls reports and adds: every call that the analyses find is either kept or skipped, and every row
that is added names its caller by the identifier of a symbol of the store, and the called symbol unless the call leads
outside (`extractCalls_accounts`).
-/
import CodeSurvey.Proofs.Calls.Kept
import Mathlib.Algebra.GroupWithZero.Nat

namespace CodeSurvey.Store

/-! ## Symbols that a row refers to -/

/-- The identifier is that of a symbol of a name, in a file of a repository that has a path. -/
def IsSymbolAt (s : Store) (repository : Id) (path name : String) (id : Id) : Prop :=
  ∃ f ∈ s.filesOf repository, f.path = path ∧ ∃ y ∈ s.symbolsIn f.id, y.name = name ∧ y.id = id

theorem isSymbolAt_of_lookUp? {s : Store} {repository id : Id} {path name : String}
    (h : s.lookUp? repository (some path) (some name) = some id) : s.IsSymbolAt repository path name id := by
  unfold lookUp? at h
  dsimp only at h
  split at h
  · cases h
  · obtain ⟨y, hy, rfl⟩ := Option.map_eq_some_iff.1 h
    have hmem : y ∈ s.symbols := List.mem_of_find?_eq_some hy
    have hfound := List.find?_some hy
    rw [Bool.and_eq_true, beq_iff_eq, Option.any_eq_true] at hfound
    obtain ⟨hname, f, hf, hplace⟩ := hfound
    rw [Bool.and_eq_true, beq_iff_eq, beq_iff_eq] at hplace
    have hid : f.id = y.fileId := by simpa using List.find?_some hf
    refine ⟨f, List.mem_filter.2 ⟨List.mem_of_find?_eq_some hf, by simp [hplace.1]⟩, hplace.2, y, ?_, hname, rfl⟩
    exact List.mem_filter.2 ⟨hmem, by simp [hid]⟩

theorem mem_filesOf_of_mem_readableFiles {s : Store} {repository : Id} {f : FileRow}
    (h : f ∈ s.readableFiles repository) : f ∈ s.filesOf repository := (List.mem_filter.1 h).1

/-- The caller of a row is known, either to the analysis or to the store. -/
theorem KeptFrom.isSymbolAt {s : Store} {repository : Id} {f : FileRow} {r : CallRecord Id} {c : CallRow}
    (h : s.KeptFrom repository f r c) : s.IsSymbolAt repository c.callerFile c.callerName c.callerId := by
  obtain ⟨make, hmake, hc⟩ := Option.map_eq_some_iff.1 h.row
  obtain ⟨-, -, hfile, -, -, hcaller, hid, -⟩ := callDraft?_spec hmake c.number
  rw [hc] at hfile hcaller hid
  cases hown : r.callerId with
  | none =>
    -- the analysis named its caller without an identifier, as for a paragraph that is no symbol of the file
    rw [hown, hfile, hcaller] at hid
    exact isSymbolAt_of_lookUp? hid
  | some i =>
    rw [hown] at hid
    obtain rfl : i = c.callerId := Option.some.inj hid
    obtain ⟨lang, -, hr⟩ := mem_callsFoundIn_iff.1 h.found
    obtain ⟨known, hknown, hname, hyid⟩ := Language.exists_caller_of_mem_calls hr hown
    obtain ⟨y, hy, rfl⟩ := List.mem_map.1 hknown
    refine ⟨f, mem_filesOf_of_mem_readableFiles h.file, h.path_and_callee.1, y, hy, ?_, Option.some.inj hyid⟩
    exact Option.some.inj (hname.symm.trans hcaller)

theorem KeptFrom.calleeId_eq_none_iff {s : Store} {repository : Id} {f : FileRow} {r : CallRecord Id} {c : CallRow}
    (h : s.KeptFrom repository f r c) : c.calleeId = none ↔ c.isExternal = true := by
  obtain ⟨make, hmake, hc⟩ := Option.map_eq_some_iff.1 h.row
  obtain ⟨-, -, -, -, hext, -, -, hcallee⟩ := callDraft?_spec hmake c.number
  rw [hc] at hext hcallee
  obtain ⟨lang, -, hr⟩ := mem_callsFoundIn_iff.1 h.found
  rw [hext, hcallee]
  rcases Language.callee_of_mem_calls hr with ⟨hout, hfile, hid⟩ | ⟨hin, known, hknown, hid⟩
  · -- without a file nothing is looked up
    rw [hout, hid, hfile]
    exact ⟨fun _ => rfl, fun _ => rfl⟩
  · obtain ⟨y, -, rfl⟩ := List.mem_map.1 hknown
    rw [hin, hid]
    constructor <;> intro hno <;> cases hno

/-! ## The account of a search -/

theorem length_numberedCalls :
    ∀ (n : Nat) (drafts : List (Nat → CallRow)), (numberedCalls n drafts).length = drafts.length
  | _, [] => rfl
  | n, _ :: drafts => congrArg (· + 1) (length_numberedCalls (n + 1) drafts)

theorem extractCalls_eq {s : Store} {repository : Id} (hrepository : (s.repository? repository).isSome = true)
    (hfiles : s.readableFiles repository ≠ []) :
    s.extractCalls repository =
      (.done (s.readableFiles repository).length (s.newCalls repository).length
        ((s.callsFound repository).length - (s.newCalls repository).length),
      { s with calls := s.calls ++ s.newCalls repository }) := by
  have hnone : (s.repository? repository).isNone = false := by simpa using hrepository
  have hsome : (s.filesOf repository).isEmpty = false := by
    rw [List.isEmpty_eq_false_iff]
    intro hempty
    exact hfiles (by rw [readableFiles, hempty]; rfl)
  unfold extractCalls newCalls
  dsimp only
  rw [hnone, hsome, List.isEmpty_eq_false_iff.2 hfiles, length_numberedCalls]
  rfl

theorem exists_done_iff {s : Store} {repository : Id} :
    (∃ files extracted skipped, (s.extractCalls repository).1 = .done files extracted skipped) ↔
      (s.repository? repository).isSome = true ∧ s.readableFiles repository ≠ [] := by
  constructor
  · rintro ⟨files, extracted, skipped, h⟩
    unfold extractCalls at h
    dsimp only at h
    split at h
    · cases h
    · rename_i hrepository
      split at h
      · cases h
      · split at h
        · cases h
        · rename_i hfiles
          exact ⟨by simpa [Option.isSome_iff_ne_none] using hrepository, by simpa using hfiles⟩
  · rintro ⟨hrepository, hfiles⟩
    rw [extractCalls_eq hrepository hfiles]
    exact ⟨_, _, _, rfl⟩

theorem length_newCalls_le (s : Store) (repository : Id) :
    (s.newCalls repository).length ≤ (s.callsFound repository).length := by
  rw [newCalls, length_numberedCalls]
  exact List.length_filterMap_le _ _

/-- A search is completed exactly if the repository has a file with a text. Then every call that was found is either
kept or skipped, and each row that was added has the identifier of a caller in the store, and none of a called symbol
exactly if the call leads outside. -/
theorem extractCalls_accounts (s : Store) (repository : Id) :
    ((∃ files extracted skipped, (s.extractCalls repository).1 = .done files extracted skipped) ↔
      (s.repository? repository).isSome = true ∧ s.readableFiles repository ≠ []) ∧
    ∀ files extracted skipped, (s.extractCalls repository).1 = .done files extracted skipped →
      extracted + skipped = ((s.readableFiles repository).map fun f => (s.callsFoundIn f).length).sum ∧
      ∃ added, (s.extractCalls repository).2 = { s with calls := s.calls ++ added } ∧ added.length = extracted ∧
        ∀ c ∈ added, c.repositoryId = repository ∧ s.IsSymbolAt repository c.callerFile c.callerName c.callerId ∧
          (c.calleeId = none ↔ c.isExternal = true) := by
  refine ⟨exists_done_iff, fun files extracted skipped h => ?_⟩
  obtain ⟨hrepository, hfiles⟩ := exists_done_iff.1 ⟨files, extracted, skipped, h⟩
  rw [extractCalls_eq hrepository hfiles] at h ⊢
  obtain ⟨-, rfl, rfl⟩ := CallExtraction.done.inj h
  refine ⟨?_, s.newCalls repository, rfl, rfl, fun c hc => ?_⟩
  · rw [Nat.add_sub_cancel' (s.length_newCalls_le repository), callsFound, List.length_flatMap]
  · obtain ⟨f, r, hkept⟩ := exists_keptFrom_of_mem_newCalls hc
    exact ⟨hkept.repositoryId_eq, hkept.isSymbolAt, hkept.calleeId_eq_none_iff⟩

/-- A repository with two files of one path, of which the second has no text but a symbol `MAIN`, and a third file whose
paragraphs are symbols. Programs are called outside of all paragraphs and below one that is no symbol. -/
def samePath : Store :=
  let file (path : String) (source : Option String) : Id → Moment → FileRow := fun id now =>
    ⟨id, Id.nth 0, path, "cobol", 5, source, now⟩
  let symbol (file : Id) (name : String) (line : Int) : Id → Moment → SymbolRow := fun id now =>
    { id := id, fileId := file, name := name, kind := .procedure, lineStart := line, lineEnd := none, signature := none,
      complexity := none, maintainability := none, codeLines := none, commentLines := none, docstring := none,
      hasDocstring := false, docstringLength := none, created := now }
  ((((({} : Store).addRepository (RepositoryRow.blank "tool")).addFile
    (file "a.cbl" (some "CALL 'P'\nMAIN.\n  PERFORM DONE\n  CALL 'Q'\nDONE.\n  CALL 'R'\n"))).addFile (file "a.cbl"
    none)).addFile
    (file "b.cbl" (some "MAIN.\n  PERFORM DONE\n"))).addSymbols
    [symbol (Id.nth 2) "MAIN" 2, symbol (Id.nth 3) "MAIN" 1, symbol (Id.nth 3) "DONE" 3]

theorem extractCalls_accounts_samePath :
    (samePath.extractCalls (Id.nth 0)).1 = .done 2 3 2 ∧
      ∃ added, (samePath.extractCalls (Id.nth 0)).2 = { samePath with calls := samePath.calls ++ added } ∧
        added.length = 3 ∧
        ∀ c ∈ added, c.repositoryId = Id.nth 0 ∧ samePath.IsSymbolAt (Id.nth 0) c.callerFile c.callerName c.callerId ∧
          (c.calleeId = none ↔ c.isExternal = true) := by
  have hcounts : (match (samePath.extractCalls (Id.nth 0)).1 with
      | .done files extracted skipped => decide ((files, extracted, skipped) = (2, 3, 2))
      | _ => false) = true := by decide +kernel
  have hdone : (samePath.extractCalls (Id.nth 0)).1 = .done 2 3 2 := by
    split at hcounts
    · simp_all
    · cases hcounts
  exact ⟨hdone, ((extractCalls_accounts samePath (Id.nth 0)).2 2 3 2 hdone).2⟩

end CodeSurvey.Store
