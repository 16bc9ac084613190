/-
Removing a repository from the store. What the repository holds are its files and their symbols (`Holdings`), and rows
of ten tables refer to such holdings or to the repository. A gate or a run prevents the removal, and so does a finding
or a snapshot where these columns must not be empty (`Releases`). Otherwise the removal leaves the rows that refer to
nothing of the repository as they are, takes away its files, symbols and security issues, and cuts the references of its
code smells, duplications and snapshots; but its calls and its embeddings stay, with references that lead nowhere
(`removal_clean_iff_unreferenced`).
-/
import CodeSurvey.Api.Hosting
import CodeSurvey.Proofs.Gate.Completion

namespace CodeSurvey

/-! ## References -/

inductive Reference where
  | repository (id : Id)
  | file (id : Id)
  | symbol (id : Id)

/-- Rows with references to others. -/
class Refers (α : Type) where
  references : α → List Reference

open Refers (references)

/-- A repository is known by its own identifier. -/
instance : Refers RepositoryRow := ⟨fun r => [.repository r.id]⟩
instance : Refers FileRow := ⟨fun f => [.repository f.repositoryId]⟩
instance : Refers SymbolRow := ⟨fun y => [.file y.fileId]⟩
instance : Refers CallRow :=
  ⟨fun c => [.repository c.repositoryId, .symbol c.callerId] ++ (c.calleeId.map .symbol).toList⟩
instance : Refers VulnerabilityRow := ⟨fun i => [.repository i.repositoryId]⟩
instance : Refers SmellRow :=
  ⟨fun m => (m.repositoryId.map .repository).toList ++ (m.fileId.map .file).toList ++ (m.symbolId.map .symbol).toList⟩
instance : Refers DuplicationRow :=
  ⟨fun d => (d.repositoryId.map .repository).toList ++ (d.file1Id.map .file).toList ++ (d.file2Id.map .file).toList⟩
instance : Refers SnapshotRow := ⟨fun p => (p.repositoryId.map .repository).toList⟩
instance : Refers GateRow := ⟨fun g => [.repository g.repositoryId]⟩
instance : Refers RunRow := ⟨fun r => [.repository r.repositoryId]⟩
instance : Refers EmbeddingRow := ⟨fun e => [.symbol e.symbolId]⟩

/-- A repository with the files and the symbols that it holds. -/
structure Holdings where
  repository : Id
  files : List Id
  symbols : List Id

namespace Holdings

variable {α : Type} [Refers α]

/-- Does a reference lead to the repository or to what it holds? -/
def has (h : Holdings) : Reference → Bool
  | .repository id => id == h.repository
  | .file id => h.files.contains id
  | .symbol id => h.symbols.contains id

def touches (h : Holdings) (row : α) : Bool := (references row).any h.has

/-- The rows that refer to nothing of the repository. -/
def others (h : Holdings) (rows : List α) : List α := rows.filter fun row => !h.touches row

/-- No row refers to the repository or to what it holds. -/
def IsFree (h : Holdings) (rows : List α) : Prop := ∀ row ∈ rows, h.touches row = false

instance (h : Holdings) (rows : List α) : Decidable (h.IsFree rows) := inferInstanceAs (Decidable (∀ _ ∈ _, _))

end Holdings

namespace Store

def holdingsOf (s : Store) (repository : Id) : Holdings where
  repository := repository
  files := (s.filesOf repository).map (·.id)
  symbols := (s.symbols.filter fun y => ((s.filesOf repository).map (·.id)).contains y.fileId).map (·.id)

/-- The property holds of all tables of two stores. -/
structure TableWise (P : ∀ {α : Type} [Refers α], List α → List α → Prop) (s t : Store) : Prop where
  repositories : P s.repositories t.repositories
  files : P s.files t.files
  symbols : P s.symbols t.symbols
  calls : P s.calls t.calls
  vulnerabilities : P s.vulnerabilities t.vulnerabilities
  smells : P s.smells t.smells
  duplications : P s.duplications t.duplications
  snapshots : P s.snapshots t.snapshots
  gates : P s.gates t.gates
  runs : P s.runs t.runs
  embeddings : P s.embeddings t.embeddings

/-- All rows of `s` that refer to nothing of the repository are rows of `t`, in their order. -/
def KeepsOthers (gone : Holdings) (s t : Store) : Prop :=
  TableWise (fun rows rows' => (gone.others rows).Sublist rows') s t

/-- A reference that may be null leads to one of the given rows. -/
def LeadsTo (gone : List Id) (ref : Option Id) : Prop := ∃ i ∈ gone, ref = some i

/-- No row that cannot do without the repository refers to it: no gate, no run and, where findings must name their
repository and their files and snapshots their repository, no finding and no snapshot. The symbol of a code smell may be
missing. -/
structure Releases (d : Database) (gone : Holdings) (s : Store) : Prop where
  gates : gone.IsFree s.gates
  runs : gone.IsFree s.runs
  smells : d.bindsFindings = true →
    ∀ m ∈ s.smells, ¬ LeadsTo [gone.repository] m.repositoryId ∧ ¬ LeadsTo gone.files m.fileId
  duplications : d.bindsFindings = true → gone.IsFree s.duplications
  snapshots : d.bindsFindings = true → gone.IsFree s.snapshots

/-- In no table of the store does a row refer to the repository or to what it held. -/
def IsFreeOf (gone : Holdings) (t : Store) : Prop := TableWise (fun _ rows' => gone.IsFree rows') t t

end Store

/-! ## What removal does to a table -/

namespace Holdings

variable {α : Type} [Refers α] (h : Holdings)

theorem isFree_others (rows : List α) : h.IsFree (h.others rows) := by
  intro row hrow
  simpa using (List.mem_filter.1 hrow).2

theorem others_sublist (rows : List α) : (h.others rows).Sublist rows := List.filter_sublist

/-- A change that leaves rows alone which refer to nothing of the repository keeps them. -/
theorem others_sublist_map {f : α → α} (hf : ∀ row, h.touches row = false → f row = row) (rows : List α) :
    (h.others rows).Sublist (rows.map f) := by
  have hsame : (h.others rows).map f = h.others rows := by
    refine (List.map_congr_left fun row hrow => ?_).trans (List.map_id _)
    exact hf row (h.isFree_others rows row hrow)
  rw [← hsame]
  exact (h.others_sublist rows).map f

theorem isFree_map {f : α → α} (hf : ∀ row, h.touches (f row) = false) (rows : List α) : h.IsFree (rows.map f) := by
  rw [IsFree, List.forall_mem_map]
  exact fun row _ => hf row

end Holdings

namespace Store

theorem leads_eq_false_iff {gone : List Id} {ref : Option Id} : leads gone ref = false ↔ ¬ LeadsTo gone ref := by
  cases ref <;> simp [leads, LeadsTo]

theorem cleared_eq_self {gone : List Id} {ref : Option Id} (h : ¬ LeadsTo gone ref) : cleared gone ref = ref := by
  cases ref with
  | none => rfl
  | some i =>
    have hkept : i ∉ gone := fun hi => h ⟨i, hi, rfl⟩
    simp [cleared, hkept]

theorem not_leadsTo_cleared (gone : List Id) (ref : Option Id) : ¬ LeadsTo gone (cleared gone ref) := by
  rintro ⟨i, hi, hcleared⟩
  have hkept := (Option.filter_eq_some_iff.1 hcleared).2
  simp [hi] at hkept

end Store

namespace Holdings

open Store (LeadsTo)

variable {h : Holdings}

theorem any_has_eq_false_iff {kind : Id → Reference} {gone : List Id} (hkind : ∀ i, h.has (kind i) = gone.contains i)
    (ref : Option Id) :
    (ref.map kind).toList.any h.has = false ↔ ¬ LeadsTo gone ref := by
  cases ref <;> simp [LeadsTo, hkind]

theorem has_repository (h : Holdings) (i : Id) : h.has (.repository i) = [h.repository].contains i := by
  rw [List.contains_cons, List.contains_nil, Bool.or_false]
  rfl

theorem touches_smell {m : SmellRow} : h.touches m = false ↔
    (¬ LeadsTo [h.repository] m.repositoryId ∧ ¬ LeadsTo h.files m.fileId) ∧ ¬ LeadsTo h.symbols m.symbolId := by
  unfold touches references instRefersSmellRow
  rw [List.any_append, List.any_append, Bool.or_eq_false_iff, Bool.or_eq_false_iff,
    any_has_eq_false_iff h.has_repository, any_has_eq_false_iff fun _ => rfl, any_has_eq_false_iff fun _ => rfl]

theorem touches_duplication {d : DuplicationRow} : h.touches d = false ↔
    (¬ LeadsTo [h.repository] d.repositoryId ∧ ¬ LeadsTo h.files d.file1Id) ∧ ¬ LeadsTo h.files d.file2Id := by
  unfold touches references instRefersDuplicationRow
  rw [List.any_append, List.any_append, Bool.or_eq_false_iff, Bool.or_eq_false_iff,
    any_has_eq_false_iff h.has_repository, any_has_eq_false_iff fun _ => rfl, any_has_eq_false_iff fun _ => rfl]

theorem touches_snapshot {p : SnapshotRow} : h.touches p = false ↔ ¬ LeadsTo [h.repository] p.repositoryId :=
  any_has_eq_false_iff h.has_repository p.repositoryId

theorem touches_eq_of_references {α : Type} [Refers α] {row : α} {ref : Reference} (hrow : references row = [ref]) :
    h.touches row = h.has ref := by
  rw [touches, hrow, List.any_cons, List.any_nil, Bool.or_false]

end Holdings

namespace Store

variable (s : Store) (id : Id)

/-- The removal, table by table: four tables lose the rows that refer to what is gone, in three the references are cut.
Gates, runs, calls and embeddings are not touched. -/
theorem removeRepository_eq : s.removeRepository id =
    let gone := s.holdingsOf id
    { s with
      repositories := gone.others s.repositories
      files := gone.others s.files
      symbols := gone.others s.symbols
      vulnerabilities := gone.others s.vulnerabilities
      smells := s.smells.map fun m => { m with
        repositoryId := cleared [gone.repository] m.repositoryId
        fileId := cleared gone.files m.fileId
        symbolId := cleared gone.symbols m.symbolId }
      duplications := s.duplications.map fun d => { d with
        repositoryId := cleared [gone.repository] d.repositoryId
        file1Id := cleared gone.files d.file1Id
        file2Id := cleared gone.files d.file2Id }
      snapshots := s.snapshots.map fun p => { p with repositoryId := cleared [gone.repository] p.repositoryId } } := by
  simp only [removeRepository, Holdings.others, Holdings.touches, references, List.any_cons, List.any_nil,
    Bool.or_false, Holdings.has]
  rfl

theorem keepsOthers_removeRepository : KeepsOthers (s.holdingsOf id) s (s.removeRepository id) := by
  rw [removeRepository_eq]
  exact {
    repositories := List.Sublist.refl _
    files := List.Sublist.refl _
    symbols := List.Sublist.refl _
    calls := Holdings.others_sublist _ _
    vulnerabilities := List.Sublist.refl _
    smells := Holdings.others_sublist_map _ (fun m hm => by
      obtain ⟨⟨hrepository, hfile⟩, hsymbol⟩ := Holdings.touches_smell.1 hm
      rw [cleared_eq_self hrepository, cleared_eq_self hfile, cleared_eq_self hsymbol]) _
    duplications := Holdings.others_sublist_map _ (fun d hd => by
      obtain ⟨⟨hrepository, hfile1⟩, hfile2⟩ := Holdings.touches_duplication.1 hd
      rw [cleared_eq_self hrepository, cleared_eq_self hfile1, cleared_eq_self hfile2]) _
    snapshots := Holdings.others_sublist_map _ (fun p hp => by
      rw [cleared_eq_self (Holdings.touches_snapshot.1 hp)]) _
    gates := Holdings.others_sublist _ _
    runs := Holdings.others_sublist _ _
    embeddings := Holdings.others_sublist _ _ }

/-- The tables that the removal does not look at are all that can refer to the repository afterwards. -/
theorem isFreeOf_removeRepository_iff : IsFreeOf (s.holdingsOf id) (s.removeRepository id) ↔
    (s.holdingsOf id).IsFree s.gates ∧ (s.holdingsOf id).IsFree s.runs ∧
    (s.holdingsOf id).IsFree s.calls ∧ (s.holdingsOf id).IsFree s.embeddings := by
  rw [removeRepository_eq]
  constructor
  · exact fun h => ⟨h.gates, h.runs, h.calls, h.embeddings⟩
  · rintro ⟨hgates, hruns, hcalls, hembeddings⟩
    exact {
      repositories := Holdings.isFree_others _ _
      files := Holdings.isFree_others _ _
      symbols := Holdings.isFree_others _ _
      calls := hcalls
      vulnerabilities := Holdings.isFree_others _ _
      smells := Holdings.isFree_map _ (fun m => Holdings.touches_smell.2
        ⟨⟨not_leadsTo_cleared _ _, not_leadsTo_cleared _ _⟩, not_leadsTo_cleared _ _⟩) _
      duplications := Holdings.isFree_map _ (fun d => Holdings.touches_duplication.2
        ⟨⟨not_leadsTo_cleared _ _, not_leadsTo_cleared _ _⟩, not_leadsTo_cleared _ _⟩) _
      snapshots := Holdings.isFree_map _ (fun p => Holdings.touches_snapshot.2 (not_leadsTo_cleared _ _)) _
      gates := hgates
      runs := hruns
      embeddings := hembeddings }

theorem hasFindings_eq_false_iff : s.hasFindings id = false ↔
    (∀ m ∈ s.smells, ¬ LeadsTo [id] m.repositoryId ∧ ¬ LeadsTo (s.holdingsOf id).files m.fileId) ∧
    (s.holdingsOf id).IsFree s.duplications ∧ (s.holdingsOf id).IsFree s.snapshots := by
  unfold hasFindings Holdings.IsFree
  simp only [Bool.or_eq_false_iff, List.any_eq_false, Bool.not_eq_true, leads_eq_false_iff,
    Holdings.touches_duplication, Holdings.touches_snapshot, and_assoc]
  rfl

theorem isFree_iff (d : Database) : s.isFree d.bindsFindings id = true ↔ s.Releases d (s.holdingsOf id) := by
  have hgates : (s.gate? id).isNone = true ↔ (s.holdingsOf id).IsFree s.gates := by
    rw [gate?, Option.isNone_iff_eq_none, List.find?_eq_none]
    refine forall₂_congr fun g _ => ?_
    rw [Holdings.touches_eq_of_references rfl, Bool.not_eq_true]
    rfl
  have hruns : (s.runsOf id).isEmpty = true ↔ (s.holdingsOf id).IsFree s.runs := by
    rw [runsOf, List.isEmpty_iff, List.filter_eq_nil_iff]
    refine forall₂_congr fun r _ => ?_
    rw [Holdings.touches_eq_of_references rfl, Bool.not_eq_true]
    rfl
  unfold isFree
  rw [Bool.and_eq_true, Bool.and_eq_true, hgates, hruns, Bool.not_eq_true', Bool.and_eq_false_imp,
    hasFindings_eq_false_iff]
  constructor
  · rintro ⟨⟨hgates, hruns⟩, hfindings⟩
    exact ⟨hgates, hruns, fun h => (hfindings h).1, fun h => (hfindings h).2.1, fun h => (hfindings h).2.2⟩
  · exact fun h => ⟨⟨h.gates, h.runs⟩, fun hbinds => ⟨h.smells hbinds, h.duplications hbinds, h.snapshots hbinds⟩⟩

theorem AddsRun.not_releases {s t : Store} {id : Id} (h : s.AddsRun t id) (d : Database) :
    ¬ t.Releases d (t.holdingsOf id) := by
  obtain ⟨run, n, hruns, hrepository, -⟩ := h.run
  intro hfree
  have hrun := hfree.runs run (hruns ▸ List.mem_append_right _ (List.mem_singleton_self run))
  rw [Holdings.touches_eq_of_references rfl, hrepository] at hrun
  exact absurd hrun (by simp [Holdings.has, holdingsOf])

end Store

/-! ## Requests for removal -/

namespace Api

theorem exists_run_hostedNamed {id : String} {v : Service} {row : RepositoryRow} (hmem : row ∈ v.store.repositories)
    (hurl : row.githubUrl.isSome) (hid : Id.ofRegular? id = some row.id) :
    ∃ found, (hostedNamed id).run v = (.ok found, v) ∧ found.id = row.id := by
  have hsome : ((hosted v.store).find? (·.id == row.id)).isSome := by
    rw [List.find?_isSome]
    exact ⟨row, List.mem_filter.2 ⟨hmem, hurl⟩, beq_self_eq_true _⟩
  obtain ⟨found, hfound⟩ := Option.isSome_iff_exists.1 hsome
  have hsame := List.find?_some hfound
  refine ⟨found, ?_, beq_iff_eq.1 hsame⟩
  unfold hostedNamed
  rw [Answering.run_bind_ok (Answering.run_store v), hid]
  dsimp only [Option.bind_some]
  rw [hfound]
  rfl

theorem exists_run_removeHosted {id : String} {v : Service} {row : RepositoryRow} (hmem : row ∈ v.store.repositories)
    (hurl : row.githubUrl.isSome) (hid : Id.ofRegular? id = some row.id) :
    ∃ body, (v.store.Releases v.database (v.store.holdingsOf row.id) →
        (removeHosted id).run v = (.ok body, { v with store := v.store.removeRepository row.id })) ∧
      (¬ v.store.Releases v.database (v.store.holdingsOf row.id) →
        (removeHosted id).run v = (.error (.broken .badValue), v)) := by
  obtain ⟨found, hfound, hsame⟩ := exists_run_hostedNamed hmem hurl hid
  have hget := (Answering.Yields.of_service v).run_eq rfl
  refine ⟨.obj [("message", .str ("Repository " ++ id ++ " deleted successfully"))], ?_⟩
  unfold removeHosted
  rw [Answering.run_bind_ok hfound, Answering.run_bind_ok hget, hsame, ← Store.isFree_iff]
  cases v.store.isFree v.database.bindsFindings row.id
  · exact ⟨nofun, fun _ => rfl⟩
  · exact ⟨fun _ => rfl, fun h => absurd rfl h⟩

end Api

/-- A service with a repository that was imported and checked by hand. -/
def Service.withChecked : Service :=
  let order : ImportOrder := ⟨"https://github.com/acme/app", "main", none⟩
  ((Api.checkByHand (Id.nth 0).text).run (.idle (({} : Store).addRepository (.ordered order "acme" "app")))).2

end CodeSurvey
