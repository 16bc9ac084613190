/-
Missing documentation in scans for code smells. What a scan is told of a symbol does not say whether it is documented
(`missingDocstrings_map_smellSubject`), so that each public function and class of the files with a text is blamed
(`scan_map_smellEntry`). A scan that goes through leaves a documented symbol blamed exactly if one of these is
documented (`afterSmellScan_blames_public`).
-/
import CodeSurvey.Api.Upload
import CodeSurvey.Proofs.Api.Answering
import CodeSurvey.Proofs.Smell.GodClass
import CodeSurvey.Proofs.Store.Identifier
import CodeSurvey.Proofs.Store.Rows
import CodeSurvey.Task.Findings
import Mathlib.Data.List.Nodup

namespace CodeSurvey

/-! ## Symbols in a scan -/

namespace SymbolRow

/-- Functions and classes are looked at. -/
def isExamined (y : SymbolRow) : Bool := y.kind == .function || y.kind == .classType

def isPublic (y : SymbolRow) : Bool := y.isExamined && !Smell.isInternal y.name

def HasExtent (y : SymbolRow) : Prop := y.isExamined = true → y.lineEnd ≠ none

instance (y : SymbolRow) : Decidable y.HasExtent := inferInstanceAs (Decidable (_ → _))

end SymbolRow

namespace Smell

/-- A finding of another kind than missing documentation, at known lines. -/
structure IsAside (f : SmellFinding) : Prop where
  kind : f.kind ≠ .missingDocstring
  startLine : f.startLine ≠ none
  endLine : f.endLine ≠ none

/-- The finding about missing documentation that a scan has for a symbol. -/
def blame (fileId : Json) (y : SymbolRow) : SmellFinding :=
  (Store.smellSubject y).finding fileId .missingDocstring .low ("Missing Docstring: " ++ y.name)
    s!"Public {y.kind.word} '{y.name}' is missing documentation."
    "Add a docstring explaining the purpose, parameters, and return value." 0 1

variable {fileId : Json} {y : SymbolRow} {ys : List SymbolRow}

@[simp] theorem symbolId_blame (fileId : Json) (y : SymbolRow) : (blame fileId y).symbolId = y.id.json := rfl

theorem contains_documentedKinds (y : SymbolRow) :
    documentedKinds.contains (Store.smellSubject y).kind = y.isExamined := by
  show documentedKinds.contains y.kind.word = (y.kind == .function || y.kind == .classType)
  cases y.kind <;> decide

theorem missingDocstring?_smellSubject (fileId : Json) (y : SymbolRow) :
    missingDocstring? fileId (Store.smellSubject y) = .ok (if y.isPublic then some (blame fileId y) else none) := by
  have hlacks : (Store.smellSubject y).lacksDocstring = true := rfl
  have hname : (Store.smellSubject y).name = some (.str y.name) := rfl
  unfold missingDocstring? SymbolRow.isPublic
  rw [contains_documentedKinds, hname]
  cases y.isExamined
  · rfl
  · cases hinternal : isInternal y.name <;> simp only [Option.getD_some, hinternal, hlacks] <;> rfl

/-- Every public symbol is blamed, whether it is documented or not. -/
theorem missingDocstrings_map_smellSubject (fileId : Json) (ys : List SymbolRow) :
    missingDocstrings fileId (ys.map Store.smellSubject) = .ok ((ys.filter (·.isPublic)).map (blame fileId)) := by
  have heach : (ys.map Store.smellSubject).mapM (missingDocstring? fileId) =
      .ok (ys.map fun y => if y.isPublic then some (blame fileId y) else none) := by
    rw [List.mapM_map]
    exact mapM_eq_ok_map fun y _ => missingDocstring?_smellSubject fileId y
  unfold missingDocstrings
  rw [heach]
  show Except.ok _ = Except.ok _
  rw [List.filterMap_map, ← List.filterMap_eq_map, List.filterMap_filter]
  rfl

/-! ## The other searches -/

def Succeeds (P : SmellFinding → Prop) (search : Except Fault (List SmellFinding)) : Prop :=
  ∃ found, search = .ok found ∧ ∀ f ∈ found, P f

def Fails {α : Type} (search : Except Fault α) : Prop := ∃ e, search = .error e

theorem succeeds_each {α : Type} {P : SmellFinding → Prop} {look : α → Except Fault (Option SmellFinding)} {xs : List α}
    (h : ∀ x ∈ xs, ∃ o, look x = .ok o ∧ ∀ f ∈ o, P f) : Succeeds P (do return (← xs.mapM look).filterMap id) := by
  choose! o hok hP using h
  refine ⟨(xs.map o).filterMap id, ?_, ?_⟩
  · rw [mapM_eq_ok_map hok]
    rfl
  · intro f hf
    rw [List.filterMap_map, List.mem_filterMap] at hf
    obtain ⟨x, hx, hfx⟩ := hf
    exact hP x hx f hfx

theorem fails_each {α : Type} {look : α → Except Fault (Option SmellFinding)} {xs : List α}
    (h : ∃ x ∈ xs, Fails (look x)) :
    Fails (do return (← xs.mapM look).filterMap id) := by
  obtain ⟨e, he⟩ := exists_mapM_eq_error h
  exact ⟨e, by rw [he]; rfl⟩

theorem isCallable_smellSubject (y : SymbolRow) : (Store.smellSubject y).isCallable = (y.kind == .function) := by
  show ["function", "method"].contains y.kind.word = _
  cases y.kind <;> decide

theorem isAside_finding {kind : SmellKind} (hkind : kind ≠ .missingDocstring) (hend : y.lineEnd ≠ none)
    (severity : Severity) (title description suggestion : String) (value threshold : Int) : IsAside
      ((Store.smellSubject y).finding fileId kind severity title description suggestion value threshold) :=
  ⟨hkind, Option.some_ne_none _, hend⟩

theorem span_smellSubject_of_some {last : Int} (h : y.lineEnd = some last) :
    (Store.smellSubject y).span = .ok (last - y.lineStart) := by
  have hlast : (Store.smellSubject y).lastLine = some last := h
  unfold Subject.span
  rw [hlast]
  rfl

theorem span_smellSubject_of_none (h : y.lineEnd = none) : Fails (Store.smellSubject y).span := by
  have hlast : (Store.smellSubject y).lastLine = none := h
  unfold Subject.span
  rw [hlast]
  exact ⟨_, rfl⟩

theorem longMethod?_smellSubject (fileId : Json) (h : y.HasExtent) :
    ∃ o, longMethod? fileId (Store.smellSubject y) = .ok o ∧ ∀ f ∈ o, IsAside f := by
  unfold longMethod?
  rw [isCallable_smellSubject]
  cases hkind : (y.kind == .function) with
  | false => exact ⟨none, rfl, by simp⟩
  | true =>
    have hend : y.lineEnd ≠ none := h (by simp [SymbolRow.isExamined, hkind])
    obtain ⟨last, hlast⟩ := Option.ne_none_iff_exists'.1 hend
    rw [span_smellSubject_of_some hlast]
    by_cases hshort : last - y.lineStart ≤ methodLineLimit
    · exact ⟨none, if_pos hshort, by simp⟩
    · refine ⟨some _, if_neg hshort, ?_⟩
      rintro f ⟨⟩
      exact isAside_finding (by decide) hend _ _ _ _ _ _

theorem featureEnvy?_smellSubject (fileId : Json) (ls : List (List Char)) (h : y.HasExtent) :
    ∃ o, featureEnvy? fileId ls (Store.smellSubject y) = .ok o ∧ ∀ f ∈ o, IsAside f := by
  unfold featureEnvy?
  rw [isCallable_smellSubject]
  cases hkind : (y.kind == .function) with
  | false => exact ⟨none, rfl, by simp⟩
  | true =>
    have hend : y.lineEnd ≠ none := h (by simp [SymbolRow.isExamined, hkind])
    obtain ⟨last, hlast⟩ := Option.ne_none_iff_exists'.1 hend
    have hneed : Subject.needLine (Store.smellSubject y).firstLine = .ok y.lineStart := rfl
    have hneedLast : Subject.needLine (Store.smellSubject y).lastLine = .ok last := by
      show Subject.needLine y.lineEnd = _
      rw [hlast]
      rfl
    rw [hneed, hneedLast]
    simp only [Bool.not_true, Bool.false_eq_true, if_false, bind, Except.bind, pure, Except.pure]
    split
    · exact ⟨none, rfl, by simp⟩
    · split
      · exact ⟨none, rfl, by simp⟩
      · split
        · exact ⟨none, rfl, by simp⟩
        · refine ⟨some _, rfl, ?_⟩
          rintro f ⟨⟩
          exact isAside_finding (by decide) hend _ _ _ _ _ _

theorem godClass?_smellSubject (fileId : Json) (key : String) (methods : Nat) (h : y.lineEnd ≠ none) :
    ∃ o, godClass? fileId ⟨key, Store.smellSubject y, methods⟩ = .ok o ∧ ∀ f ∈ o, IsAside f := by
  obtain ⟨last, hlast⟩ := Option.ne_none_iff_exists'.1 h
  unfold godClass?
  simp only [span_smellSubject_of_some hlast, bind, Except.bind, pure, Except.pure]
  split
  · exact ⟨none, rfl, by simp⟩
  · refine ⟨some _, rfl, ?_⟩
    rintro f ⟨⟩
    exact isAside_finding (by decide) h _ _ _ _ _ _

theorem isClass_smellSubject (y : SymbolRow) : (Store.smellSubject y).isClass = (y.kind == .classType) := by
  show (y.kind.word == "class") = _
  cases y.kind <;> decide

theorem foldlM_tallyStep_smellSubject (hids : (ys.map (·.id.text)).Nodup) :
    (ys.map Store.smellSubject).foldlM tallyStep [] = .ok (tallies (ys.map Store.smellSubject)) := by
  have hkeys : (ys.map Store.smellSubject).map (·.key) = ys.map (·.id.text) := List.map_map
  refine foldlM_tallyStep ?_ [] ((List.filter_sublist.map _).nodup (hkeys ▸ hids))
  intro c hc _
  obtain ⟨y, -, rfl⟩ := List.mem_map.1 hc
  exact Option.some_ne_none _

/-- The searches go through if it is known where functions and classes end. -/
theorem succeeds_otherSearches (fileId : Json) (content : List Char) (hids : (ys.map (·.id.text)).Nodup)
    (h : ∀ y ∈ ys, y.HasExtent) :
    Succeeds IsAside (longMethods fileId (ys.map Store.smellSubject)) ∧
    Succeeds IsAside (godClasses fileId (ys.map Store.smellSubject)) ∧
    Succeeds IsAside (featureEnvies fileId (ys.map Store.smellSubject) content) := by
  refine ⟨succeeds_each ?_, ?_, succeeds_each ?_⟩
  · intro x hx
    obtain ⟨y, hy, rfl⟩ := List.mem_map.1 hx
    exact longMethod?_smellSubject fileId (h y hy)
  · unfold godClasses
    rw [foldlM_tallyStep_smellSubject hids]
    refine succeeds_each fun t ht => ?_
    obtain ⟨front, c, back, hsplit, hclass, rfl⟩ := mem_tallies_iff.1 ht
    obtain ⟨y, hy, rfl⟩ := List.mem_map.1 (hsplit ▸ by simp : c ∈ ys.map Store.smellSubject)
    rw [isClass_smellSubject] at hclass
    exact godClass?_smellSubject fileId _ _ (h y hy (by simp [SymbolRow.isExamined, hclass]))
  · intro x hx
    obtain ⟨y, hy, rfl⟩ := List.mem_map.1 hx
    exact featureEnvy?_smellSubject fileId _ (h y hy)

/-- The search for long methods breaks off at a function without an end, that for god classes at such a class. -/
theorem fails_longMethods_or_godClasses (fileId : Json) (hids : (ys.map (·.id.text)).Nodup)
    (h : ¬ ∀ y ∈ ys, y.HasExtent) :
    Fails (longMethods fileId (ys.map Store.smellSubject)) ∨ Fails (godClasses fileId (ys.map Store.smellSubject)) := by
  simp only [SymbolRow.HasExtent, SymbolRow.isExamined, not_forall, not_not, Bool.or_eq_true] at h
  obtain ⟨y, hy, hkind | hkind, hend⟩ := h
  · refine .inl (fails_each ⟨_, List.mem_map_of_mem hy, ?_⟩)
    obtain ⟨e, he⟩ := span_smellSubject_of_none hend
    unfold longMethod?
    rw [isCallable_smellSubject, hkind, he]
    exact ⟨e, rfl⟩
  · right
    unfold godClasses
    obtain ⟨front, back, hsplit⟩ := List.append_of_mem (List.mem_map_of_mem (f := Store.smellSubject) hy)
    have hmem := mem_tallies_iff.2 ⟨front, _, back, hsplit, (isClass_smellSubject y).trans hkind, rfl⟩
    rw [foldlM_tallyStep_smellSubject hids]
    refine fails_each ⟨_, hmem, ?_⟩
    obtain ⟨e, he⟩ := span_smellSubject_of_none hend
    unfold godClass?
    rw [he]
    exact ⟨e, rfl⟩

/-! ## Files -/

section Files

variable {s : Store} {file : FileRow × List Char} {files : List (FileRow × List Char)}

theorem smells_smellEntry_eq (htext : file.2 ≠ []) : (s.smellEntry file).smells = (do
    let a ← missingDocstrings file.1.id.json ((s.symbolsIn file.1.id).map Store.smellSubject)
    let b ← longMethods file.1.id.json ((s.symbolsIn file.1.id).map Store.smellSubject)
    let c ← godClasses file.1.id.json ((s.symbolsIn file.1.id).map Store.smellSubject)
    let d ← featureEnvies file.1.id.json ((s.symbolsIn file.1.id).map Store.smellSubject) file.2
    return a ++ b ++ c ++ d) := by
  have hne : (s.smellEntry file).content.isEmpty = false := List.isEmpty_eq_false_iff.2 htext
  unfold FileEntry.smells
  rw [hne]
  rfl

/-- In a file where all ends are known, the public symbols are blamed, and everything else that is found is of another
kind. -/
theorem smells_smellEntry (htext : file.2 ≠ []) (hids : ((s.symbolsIn file.1.id).map (·.id.text)).Nodup)
    (h : ∀ y ∈ s.symbolsIn file.1.id, y.HasExtent) :
    ∃ others, (s.smellEntry file).smells =
        .ok (((s.symbolsIn file.1.id).filter (·.isPublic)).map (blame file.1.id.json) ++ others) ∧
        ∀ f ∈ others, IsAside f := by
  obtain ⟨⟨b, hb, hbP⟩, ⟨c, hc, hcP⟩, d, hd, hdP⟩ := succeeds_otherSearches file.1.id.json file.2 hids h
  refine ⟨b ++ c ++ d, ?_, ?_⟩
  · rw [smells_smellEntry_eq htext, missingDocstrings_map_smellSubject, hb, hc, hd, List.append_assoc b,
      ← List.append_assoc, ← List.append_assoc]
    rfl
  · intro f hf
    rcases List.mem_append.1 hf with hf | hf
    · rcases List.mem_append.1 hf with hf | hf
      · exact hbP f hf
      · exact hcP f hf
    · exact hdP f hf

theorem fails_smells_smellEntry (htext : file.2 ≠ []) (hids : ((s.symbolsIn file.1.id).map (·.id.text)).Nodup)
    (h : ¬ ∀ y ∈ s.symbolsIn file.1.id, y.HasExtent) : Fails (s.smellEntry file).smells := by
  rw [smells_smellEntry_eq htext, missingDocstrings_map_smellSubject]
  rcases fails_longMethods_or_godClasses file.1.id.json hids h with ⟨e, he⟩ | ⟨e, he⟩
  · rw [he]
    exact ⟨e, rfl⟩
  · rw [he]
    cases longMethods file.1.id.json ((s.symbolsIn file.1.id).map Store.smellSubject) with
    | error e' => exact ⟨e', rfl⟩
    | ok _ => exact ⟨e, rfl⟩

/-- Over all files, the findings of missing documentation are those about the public symbols, in their order. -/
theorem scan_map_smellEntry (htexts : ∀ file ∈ files, file.2 ≠ [])
    (hids : ∀ file ∈ files, ((s.symbolsIn file.1.id).map (·.id.text)).Nodup)
    (h : ∀ file ∈ files, ∀ y ∈ s.symbolsIn file.1.id, y.HasExtent) :
    ∃ findings, scan (files.map s.smellEntry) = .ok findings ∧
      findings.filter (·.kind == .missingDocstring) =
        files.flatMap (fun file => ((s.symbolsIn file.1.id).filter (·.isPublic)).map (blame file.1.id.json)) ∧
      ∀ f ∈ findings, f.startLine ≠ none ∧ f.endLine ≠ none := by
  have heach : ∀ file ∈ files, ∃ others, (s.smellEntry file).smells =
      .ok (((s.symbolsIn file.1.id).filter (·.isPublic)).map (blame file.1.id.json) ++ others) ∧
        ∀ f ∈ others, IsAside f :=
    fun file hfile => smells_smellEntry (htexts file hfile) (hids file hfile) (h file hfile)
  choose! others hsmells haside using heach
  refine ⟨files.flatMap fun file => ((s.symbolsIn file.1.id).filter (·.isPublic)).map (blame file.1.id.json) ++
    others file, ?_, ?_, ?_⟩
  · have hall : (files.map s.smellEntry).mapM FileEntry.smells = .ok (files.map fun file =>
        ((s.symbolsIn file.1.id).filter (·.isPublic)).map (blame file.1.id.json) ++ others file) := by
      rw [List.mapM_map]
      exact mapM_eq_ok_map hsmells
    unfold scan
    rw [hall, List.flatMap_def]
    rfl
  · rw [List.filter_flatMap]
    refine List.flatMap_congr fun file hfile => ?_
    have hothers : (others file).filter (·.kind == .missingDocstring) = [] :=
      List.filter_eq_nil_iff.2 fun f hf => by simpa using (haside file hfile f hf).kind
    rw [List.filter_append, hothers, List.append_nil, List.filter_eq_self]
    intro f hf
    obtain ⟨y, -, rfl⟩ := List.mem_map.1 hf
    rfl
  · intro f hf
    obtain ⟨file, hfile, hf⟩ := List.mem_flatMap.1 hf
    rcases List.mem_append.1 hf with hf | hf
    · obtain ⟨y, hy, rfl⟩ := List.mem_map.1 hf
      obtain ⟨hmem, hpublic⟩ := List.mem_filter.1 hy
      exact ⟨Option.some_ne_none _, h file hfile y hmem (Bool.and_eq_true_iff.1 hpublic).1⟩
    · exact ⟨(haside file hfile f hf).startLine, (haside file hfile f hf).endLine⟩

theorem fails_scan_map_smellEntry (htexts : ∀ file ∈ files, file.2 ≠ [])
    (hids : ∀ file ∈ files, ((s.symbolsIn file.1.id).map (·.id.text)).Nodup)
    (h : ¬ ∀ file ∈ files, ∀ y ∈ s.symbolsIn file.1.id, y.HasExtent) : Fails (scan (files.map s.smellEntry)) := by
  push Not at h
  obtain ⟨file, hfile, hopen⟩ := h
  have hbroken : Fails (s.smellEntry file).smells :=
    fails_smells_smellEntry (htexts file hfile) (hids file hfile) (by push Not; exact hopen)
  obtain ⟨e, he⟩ := exists_mapM_eq_error ⟨_, List.mem_map_of_mem hfile, hbroken⟩
  unfold scan
  rw [he]
  exact ⟨e, rfl⟩

end Files

end Smell

/-! ## The findings in the store -/

namespace Store

variable {s : Store} {r : Id}

/-- Symbols have regular identifiers, no two the same one. -/
structure HasSymbolKeys (s : Store) : Prop where
  regular : ∀ y ∈ s.symbols, y.id.IsRegular
  nodup : (s.symbols.map (·.id)).Nodup

/-- A finding of missing documentation in a repository is about a documented symbol. -/
def BlamesDocumented (s : Store) (r : Id) : Prop :=
  ∃ m ∈ s.smellsOf r, m.kind = .missingDocstring ∧ ∃ y ∈ s.symbols, m.symbolId = some y.id ∧ y.hasDocstring = true

theorem HasSymbolKeys.nodup_text (h : s.HasSymbolKeys) (file : Id) : ((s.symbolsIn file).map (·.id.text)).Nodup := by
  have hids : ((s.symbolsIn file).map (·.id)).Nodup := h.nodup.sublist (List.filter_sublist.map _)
  have htexts : (s.symbolsIn file).map (·.id.text) = ((s.symbolsIn file).map (·.id)).map Id.text := by
    rw [List.map_map]
    rfl
  rw [htexts]
  refine List.Nodup.map_on ?_ hids
  intro i hi j hj htext
  obtain ⟨y, hy, rfl⟩ := List.mem_map.1 hi
  obtain ⟨z, hz, rfl⟩ := List.mem_map.1 hj
  exact Id.text_inj (h.regular y (List.mem_filter.1 hy).1) (h.regular z (List.mem_filter.1 hz).1) htext

theorem blamesDocumented_iff {blamed : List SymbolRow} (hnodup : (s.symbols.map (·.id)).Nodup)
    (hknown : ∀ y ∈ blamed, y ∈ s.symbols)
    (h : ((s.smellsOf r).filter (·.kind == .missingDocstring)).map (·.symbolId) = blamed.map (some ·.id)) :
    s.BlamesDocumented r ↔ ∃ y ∈ blamed, y.hasDocstring = true := by
  constructor
  · rintro ⟨m, hm, hkind, y, hy, hid, hdoc⟩
    have hrow : m.symbolId ∈ blamed.map (some ·.id) := by
      rw [← h]
      exact List.mem_map_of_mem (List.mem_filter.2 ⟨hm, beq_iff_eq.2 hkind⟩)
    obtain ⟨z, hz, hzid⟩ := List.mem_map.1 hrow
    rw [hid] at hzid
    obtain rfl : z = y := List.inj_on_of_nodup_map hnodup (hknown z hz) hy (Option.some.inj hzid)
    exact ⟨z, hz, hdoc⟩
  · rintro ⟨y, hy, hdoc⟩
    have hrow : some y.id ∈ ((s.smellsOf r).filter (·.kind == .missingDocstring)).map (·.symbolId) := by
      rw [h]
      exact List.mem_map_of_mem hy
    obtain ⟨m, hm, hid⟩ := List.mem_map.1 hrow
    obtain ⟨hm, hkind⟩ := List.mem_filter.1 hm
    exact ⟨m, hm, beq_iff_eq.1 hkind, y, hknown y hy, hid, hdoc⟩

theorem exists_mapM_smellDraft? {findings : List SmellFinding}
    (h : ∀ f ∈ findings, f.startLine ≠ none ∧ f.endLine ≠ none) :
    ∃ drafts, findings.mapM (smellDraft? r) = some drafts ∧
      ∀ n, (numbered n drafts).map (fun m => (m.repositoryId, m.kind, m.symbolId)) =
      findings.map fun f => (some r, f.kind, idOf? f.symbolId) := by
  induction findings with
  | nil => exact ⟨[], rfl, fun _ => rfl⟩
  | cons f findings ih =>
    obtain ⟨hstart, hend⟩ := h f List.mem_cons_self
    obtain ⟨first, hfirst⟩ := Option.ne_none_iff_exists'.1 hstart
    obtain ⟨last, hlast⟩ := Option.ne_none_iff_exists'.1 hend
    obtain ⟨drafts, hdrafts, hrows⟩ := ih fun g hg => h g (List.mem_cons_of_mem f hg)
    have hdraft : ∃ make, smellDraft? r f = some make ∧
        ∀ id now, ((make id now).repositoryId, (make id now).kind, (make id now).symbolId) =
          (some r, f.kind, idOf? f.symbolId) := by
      unfold smellDraft?
      rw [hfirst, hlast]
      exact ⟨_, rfl, fun _ _ => rfl⟩
    obtain ⟨make, hmake, hrow⟩ := hdraft
    refine ⟨make :: drafts, ?_, fun n => ?_⟩
    · rw [List.mapM_cons, hmake, hdrafts]
      rfl
    · rw [numbered, List.map_cons, List.map_cons, hrow, hrows]

theorem smellsOf_clearSmells_addSmells {drafts : List (Id → Moment → SmellRow)}
    (h : ∀ m ∈ numbered s.issued drafts, m.repositoryId = some r) (q : Id) :
    ((s.clearSmells r).addSmells drafts).smellsOf q = if q = r then numbered s.issued drafts else s.smellsOf q := by
  show (s.smells.filter (·.repositoryId != some r) ++ numbered s.issued drafts).filter (·.repositoryId == some q) = _
  rw [List.filter_append, List.filter_filter]
  split
  · next hq =>
    subst hq
    have hold : s.smells.filter (fun m => m.repositoryId == some q && m.repositoryId != some q) = [] := by
      rw [List.filter_eq_nil_iff]
      simp
    rw [hold, List.nil_append, List.filter_eq_self]
    exact fun m hm => by simp [h m hm]
  · next hq =>
    have hnew : (numbered s.issued drafts).filter (·.repositoryId == some q) = [] := by
      rw [List.filter_eq_nil_iff]
      exact fun m hm => by simp [h m hm, Ne.symm hq]
    rw [hnew, List.append_nil]
    refine List.filter_congr fun m _ => ?_
    by_cases hm : m.repositoryId = some q <;> simp [hm, hq]

theorem idOf?_json {i : Id} (h : i.IsRegular) : idOf? i.json = some i := by
  have htext : i.json.asText? = some i.text := rfl
  rw [idOf?, htext, Option.bind_some, Id.ofRegular?_text h]

/-- The rows of missing documentation after a scan are about the public symbols, in their order. -/
theorem smellsOf_scanSmells {files : List (FileRow × List Char)} (hkeys : s.HasSymbolKeys) (hfiles : files ≠ [])
    (htexts : ∀ file ∈ files, file.2 ≠ []) (h : ∀ file ∈ files, ∀ y ∈ s.symbolsIn file.1.id, y.HasExtent) :
    ((s.scanSmells r files).smellsOf r |>.filter (·.kind == .missingDocstring)).map (·.symbolId) =
        ((files.flatMap fun file => s.symbolsIn file.1.id).filter (·.isPublic)).map (some ·.id) ∧
      (∀ q, q ≠ r → (s.scanSmells r files).smellsOf q = s.smellsOf q) ∧ (s.scanSmells r files).symbols = s.symbols := by
  obtain ⟨findings, hscan, hblamed, hlines⟩ :=
    Smell.scan_map_smellEntry htexts (fun file _ => hkeys.nodup_text file.1.id) h
  obtain ⟨drafts, hdrafts, hrows⟩ := exists_mapM_smellDraft? (r := r) hlines
  have hafter : s.scanSmells r files = (s.clearSmells r).addSmells drafts := by
    unfold scanSmells
    rw [List.isEmpty_eq_false_iff.2 hfiles, hscan]
    simp only [hdrafts]
    rfl
  have hnew : ∀ m ∈ numbered s.issued drafts, m.repositoryId = some r := by
    intro m hm
    have hmem := List.mem_map_of_mem (f := fun m => (m.repositoryId, m.kind, m.symbolId)) hm
    rw [hrows] at hmem
    obtain ⟨f, -, hf⟩ := List.mem_map.1 hmem
    exact (congrArg Prod.fst hf).symm
  rw [hafter]
  refine ⟨?_, fun q hq => by rw [smellsOf_clearSmells_addSmells hnew, if_neg hq], rfl⟩
  rw [smellsOf_clearSmells_addSmells hnew, if_pos rfl]
  calc ((numbered s.issued drafts).filter (·.kind == .missingDocstring)).map (·.symbolId)
    _ = (((numbered s.issued drafts).map fun m => (m.repositoryId, m.kind, m.symbolId)).filter
          (·.2.1 == .missingDocstring)).map (·.2.2) := by
      rw [List.filter_map, List.map_map]
      rfl
    _ = (findings.filter (·.kind == .missingDocstring)).map fun f => idOf? f.symbolId := by
      rw [hrows, List.filter_map, List.map_map]
      simp only [Function.comp_def]
    _ = files.flatMap fun file => ((s.symbolsIn file.1.id).filter (·.isPublic)).map fun y => idOf? y.id.json := by
      rw [hblamed, List.map_flatMap]
      simp only [List.map_map, Function.comp_def, Smell.symbolId_blame]
    _ = ((files.flatMap fun file => s.symbolsIn file.1.id).filter (·.isPublic)).map (some ·.id) := by
      rw [List.filter_flatMap, List.map_flatMap]
      refine List.flatMap_congr fun file _ => List.map_congr_left fun y hy => ?_
      exact idOf?_json (hkeys.regular y (List.mem_filter.1 (List.mem_filter.1 hy).1).1)

end Store

theorem Disk.ne_nil_of_textOf? {d : Disk} {f : FileRow} {t : List Char} (h : d.textOf? f = some t) : t ≠ [] := by
  unfold Disk.textOf? at h
  split at h
  · next t' hsource =>
    have hne := (Option.filter_eq_some_iff.1 hsource).2
    cases h
    intro hnil
    rw [String.toList_eq_nil_iff] at hnil
    subst hnil
    cases hne
  · have hne := (Option.filter_eq_some_iff.1 h).2
    intro hnil
    rw [hnil] at hne
    cases hne

namespace Service

def afterSmellScan (v : Service) (r : Id) : Service := ((scanSmells r).run v).2

def textSymbols (v : Service) (r : Id) : List SymbolRow := (v.texts r).flatMap fun file => v.store.symbolsIn file.1.id

/-- A scan for code smells goes through: some file has a text, and it is known where the symbols end that are looked at.
-/
structure SmellScanCompletes (v : Service) (r : Id) : Prop where
  texts : v.texts r ≠ []
  extents : ∀ y ∈ v.textSymbols r, y.HasExtent

variable {v : Service} {r : Id}

theorem text_ne_nil_of_mem_texts {file : FileRow × List Char} (h : file ∈ v.texts r) : file.2 ≠ [] := by
  unfold texts at h
  obtain ⟨f, -, hf⟩ := List.mem_filterMap.1 h
  obtain ⟨t, ht, rfl⟩ := Option.map_eq_some_iff.1 hf
  exact Disk.ne_nil_of_textOf? ht

theorem afterSmellScan_of_not_completes (hkeys : v.store.HasSymbolKeys) (h : ¬ v.SmellScanCompletes r) :
    v.afterSmellScan r = v := by
  have hsame : v.store.scanSmells r (v.texts r) = v.store := by
    unfold Store.scanSmells
    by_cases hnone : v.texts r = []
    · rw [hnone]
      rfl
    · have hopen : ¬ ∀ file ∈ v.texts r, ∀ y ∈ v.store.symbolsIn file.1.id, y.HasExtent := by
        refine fun hall => h ⟨hnone, fun y hy => ?_⟩
        obtain ⟨file, hfile, hmem⟩ := List.mem_flatMap.1 hy
        exact hall file hfile y hmem
      obtain ⟨e, he⟩ := Smell.fails_scan_map_smellEntry (fun _ hfile => text_ne_nil_of_mem_texts hfile)
        (fun file _ => hkeys.nodup_text file.1.id) hopen
      rw [List.isEmpty_eq_false_iff.2 hnone, he]
      rfl
  show { v with store := v.store.scanSmells r (v.texts r) } = v
  rw [hsame]

/-- A scan for code smells leaves the symbols and the findings of other repositories as they are. If it goes through,
its findings of missing documentation are about all public functions and classes in files with a text, and a documented
symbol is blamed exactly if one of these is documented. Else nothing changes. -/
theorem afterSmellScan_blames_public (v : Service) (r : Id) (hkeys : v.store.HasSymbolKeys) :
    (v.afterSmellScan r).store.symbols = v.store.symbols ∧
    (∀ q, q ≠ r → (v.afterSmellScan r).store.smellsOf q = v.store.smellsOf q) ∧
    (v.SmellScanCompletes r →
      (((v.afterSmellScan r).store.smellsOf r).filter (·.kind == .missingDocstring)).map (·.symbolId) =
        ((v.textSymbols r).filter (·.isPublic)).map (some ·.id) ∧
      ((v.afterSmellScan r).store.BlamesDocumented r ↔ ∃ y ∈ v.textSymbols r, y.isPublic = true ∧
        y.hasDocstring = true)) ∧
    (¬ v.SmellScanCompletes r → v.afterSmellScan r = v) := by
  by_cases hcompletes : v.SmellScanCompletes r
  · have hextents : ∀ file ∈ v.texts r, ∀ y ∈ v.store.symbolsIn file.1.id, y.HasExtent := fun file hfile y hy =>
      hcompletes.extents y (List.mem_flatMap.2 ⟨file, hfile, hy⟩)
    obtain ⟨hblamed, hothers, hsymbols⟩ := Store.smellsOf_scanSmells (r := r) hkeys hcompletes.texts
      (fun _ hfile => text_ne_nil_of_mem_texts hfile) hextents
    refine ⟨hsymbols, hothers, fun _ => ⟨hblamed, ?_⟩, fun h => absurd hcompletes h⟩
    have hknown : ∀ y ∈ (v.textSymbols r).filter (·.isPublic), y ∈ (v.store.scanSmells r (v.texts r)).symbols := by
      intro y hy
      obtain ⟨file, -, hmem⟩ := List.mem_flatMap.1 (List.mem_filter.1 hy).1
      rw [hsymbols]
      exact (List.mem_filter.1 hmem).1
    refine (Store.blamesDocumented_iff (hsymbols ▸ hkeys.nodup) hknown hblamed).trans ?_
    simp only [List.mem_filter, and_assoc]
  · have hsame := afterSmellScan_of_not_completes hkeys hcompletes
    rw [hsame]
    exact ⟨rfl, fun _ _ => rfl, fun h => absurd h hcompletes, fun _ => rfl⟩

end Service

def SymbolRow.documented (file : Id) : Id → Moment → SymbolRow := fun id now =>
  { id := id, fileId := file, name := "f", kind := .function, lineStart := 1, lineEnd := some 2, signature := none,
    complexity := none, maintainability := none, codeLines := none, commentLines := none, docstring := some "Does it.",
    hasDocstring := true, docstringLength := some 8, created := now }

/-- A repository with a documented function. -/
def Store.wellDocumented : Store :=
  let s := ({} : Store).addRepository (RepositoryRow.blank "tool")
  let s := s.addFile fun id now => ⟨id, Id.nth 0, "a.py", "python", 2, some "def f():\n    \"\"\"Does it.\"\"\"\n", now⟩
  s.addSymbols [.documented (Id.nth 1)]

/-- The scan goes through and finds that the function has no documentation. -/
theorem Service.afterSmellScan_blames_public_wellDocumented :
    Store.wellDocumented.HasSymbolKeys ∧ (Service.idle Store.wellDocumented).SmellScanCompletes (Id.nth 0) ∧
      ((Service.idle Store.wellDocumented).afterSmellScan (Id.nth 0)).store.BlamesDocumented (Id.nth 0) := by
  have hkeys : Store.wellDocumented.HasSymbolKeys := by
    refine ⟨fun y hy => ?_, by decide⟩
    rw [List.mem_singleton.1 hy]
    decide
  have htexts : (Service.idle Store.wellDocumented).textSymbols (Id.nth 0) = Store.wellDocumented.symbols := rfl
  have hcompletes : (Service.idle Store.wellDocumented).SmellScanCompletes (Id.nth 0) := by
    refine ⟨by decide, fun y hy => ?_⟩
    rw [htexts] at hy
    rw [List.mem_singleton.1 hy]
    decide
  have hblamed : ∃ y ∈ (Service.idle Store.wellDocumented).textSymbols (Id.nth 0), y.isPublic = true ∧
      y.hasDocstring = true := by
    rw [htexts]
    exact ⟨_, List.mem_singleton.2 rfl, by decide, rfl⟩
  have hscan :=
    (Service.afterSmellScan_blames_public (Service.idle Store.wellDocumented) (Id.nth 0) hkeys).2.2.1 hcompletes
  exact ⟨hkeys, hcompletes, hscan.2.2 hblamed⟩

end CodeSurvey
