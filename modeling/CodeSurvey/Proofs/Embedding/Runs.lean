/-
Runs that make the vectors of repositories' symbols, one after the other, with a language model that answers each run in
its own way. A run fails exactly if one of its requests does, and then it leaves the store as it was; else it adds one
row for each symbol that had none (`embedWith_cases`). So after a run that does not fail every symbol of the repository
has one row, and it stays so (`runs_embed_each_symbol_once`).
-/
import CodeSurvey.Api.Upload
import CodeSurvey.Proofs.Embedding.Batches
import CodeSurvey.Proofs.Store.Rows
import Mathlib.Data.List.Nodup

namespace CodeSurvey

namespace Store

/-! ## Rows added -/

/-- The store with rows of vectors behind those it has. -/
def withEmbeddings (s : Store) (added : List EmbeddingRow) : Store :=
  { s with embeddings := s.embeddings ++ added, issued := s.issued + added.length }

theorem withEmbeddings_nil (s : Store) : s.withEmbeddings [] = s := by
  unfold withEmbeddings
  rw [List.append_nil, List.length_nil, Nat.add_zero]

theorem withEmbeddings_withEmbeddings (s : Store) (l m : List EmbeddingRow) :
    (s.withEmbeddings l).withEmbeddings m = s.withEmbeddings (l ++ m) := by
  unfold withEmbeddings
  rw [List.append_assoc, List.length_append, Nat.add_assoc]

def vectorRows (s : Store) (model : String) (dimensions : Int) (vectorOf : SymbolRow → List Float)
    (symbols : List SymbolRow) :
    List EmbeddingRow :=
  numbered s.issued (symbols.map fun y id now => ⟨id, y.id, vectorOf y, model, dimensions, now⟩)

theorem keepVectors_map (s : Store) (model : String) (dimensions : Int) (vectorOf : SymbolRow → List Float)
    (symbols : List SymbolRow) : s.keepVectors model dimensions symbols (symbols.map vectorOf) =
      s.withEmbeddings (s.vectorRows model dimensions vectorOf symbols) := by
  unfold keepVectors
  rw [← List.map_prod_left_eq_zip, List.map_map]
  unfold addEmbeddings withEmbeddings vectorRows
  rw [length_numbered]
  rfl

theorem map_symbolId_vectorRows (s : Store) (model : String) (dimensions : Int) (vectorOf : SymbolRow → List Float)
    (symbols : List SymbolRow) : (s.vectorRows model dimensions vectorOf symbols).map (·.symbolId) =
      symbols.map (·.id) := by
  unfold vectorRows
  refine map_numbered ?_ symbols s.issued
  exact fun _ _ _ => rfl

/-! ## Symbols without a vector -/

theorem mem_bareSymbols_iff {s : Store} {r : Id} {y : SymbolRow} :
    y ∈ s.bareSymbols r ↔ y ∈ (s.symbolsOf r).map (·.1) ∧ y.id ∉ s.embeddings.map (·.symbolId) := by
  unfold bareSymbols
  rw [List.mem_filter, Bool.not_eq_true', List.any_eq_false]
  refine and_congr_right fun _ => ?_
  simp only [beq_iff_eq, List.mem_map, not_exists, not_and]

theorem bareSymbols_eq_nil_iff {s : Store} {r : Id} :
    s.bareSymbols r = [] ↔ ∀ y ∈ (s.symbolsOf r).map (·.1), y.id ∈ s.embeddings.map (·.symbolId) := by
  rw [List.eq_nil_iff_forall_not_mem]
  simp only [mem_bareSymbols_iff, not_and, not_not]

theorem bareSymbols_withEmbeddings_eq_nil_iff {s : Store} {r : Id} {added : List EmbeddingRow} :
    (s.withEmbeddings added).bareSymbols r = [] ↔ ∀ y ∈ s.bareSymbols r, y.id ∈ added.map (·.symbolId) := by
  rw [bareSymbols_eq_nil_iff]
  have hrows : (s.withEmbeddings added).embeddings = s.embeddings ++ added := rfl
  have hsymbols : (s.withEmbeddings added).symbolsOf r = s.symbolsOf r := rfl
  simp only [hrows, hsymbols, mem_bareSymbols_iff, List.map_append, List.mem_append, and_imp]
  exact forall₂_congr fun y _ => or_iff_not_imp_left

/-- No two symbols have one identifier, and no two rows of vectors belong to one symbol. -/
structure IsKeyed (s : Store) : Prop where
  symbols : (s.symbols.map (·.id)).Nodup
  embeddings : (s.embeddings.map (·.symbolId)).Nodup

theorem IsKeyed.nodup_bareSymbols {s : Store} (h : s.IsKeyed) (r : Id) : ((s.bareSymbols r).map (·.id)).Nodup := by
  refine h.symbols.sublist (List.Sublist.map _ ?_)
  unfold bareSymbols
  rw [map_fst_symbolsOf]
  exact List.filter_sublist.trans List.filter_sublist

theorem IsKeyed.withEmbeddings {s : Store} (h : s.IsKeyed) {r : Id} {added : List EmbeddingRow}
    (hadded : added.map (·.symbolId) = (s.bareSymbols r).map (·.id)) : (s.withEmbeddings added).IsKeyed where
  symbols := h.symbols
  embeddings := by
    show ((s.embeddings ++ added).map (·.symbolId)).Nodup
    rw [List.map_append, hadded]
    refine h.embeddings.append (h.nodup_bareSymbols r) fun i hold hnew => ?_
    obtain ⟨y, hy, rfl⟩ := List.mem_map.1 hnew
    exact (mem_bareSymbols_iff.1 hy).2 hold

theorem IsKeyed.exists_filter_eq {s : Store} (h : s.IsKeyed) {i : Id} (hi : i ∈ s.embeddings.map (·.symbolId)) :
    ∃ row, s.embeddings.filter (·.symbolId == i) = [row] := by
  have hcount := List.count_eq_one_of_mem h.embeddings hi
  rw [List.count_eq_countP, List.countP_map, List.countP_eq_length_filter] at hcount
  exact List.length_eq_one_iff.1 hcount

theorem IsKeyed.eq_of_mem_symbolsOf {s : Store} (h : s.IsKeyed) {q r : Id} {y z : SymbolRow}
    (hy : y ∈ (s.symbolsOf q).map (·.1)) (hz : z ∈ (s.symbolsOf r).map (·.1)) (hid : y.id = z.id) : q = r := by
  rw [map_fst_symbolsOf, List.mem_filter] at hy hz
  obtain rfl : y = z := List.inj_on_of_nodup_map h.symbols hy.1 hz.1 hid
  cases hfile : s.file? y.fileId with
  | none =>
    rw [hfile] at hy
    cases hy.2
  | some f =>
    rw [hfile, Option.any_some, beq_iff_eq] at hy hz
    exact hy.2.symm.trans hz.2

end Store

/-! ## A run -/

/-- A run that is asked for: the repository, and the language model as it will answer. -/
structure EmbeddingOrder where
  repository : Id
  ai : AiService

/-- The record of the run says that it has made the vectors of so many symbols. -/
def EmbeddingRun.Reports (run : EmbeddingRun) (n : Nat) : Prop :=
  ∀ name, (run.record name).get? "symbols_processed" = some (.int n)

namespace Service

def embedWith (v : Service) (o : EmbeddingOrder) : Except Embedding.Error EmbeddingRun × Service :=
  (embedRepository o.repository).run { v with ai := o.ai }

def afterRuns (v : Service) (orders : List EmbeddingOrder) : Service := orders.foldl (fun w o => (w.embedWith o).2) v

def vectorFor (o : EmbeddingOrder) (y : SymbolRow) : List Float :=
  o.ai.vectorOf (Embedding.cleaned (some y.embeddingText.toList))

/-- The language model is needed and cannot be reached, or the answer to one of the requests is a failure. -/
def RunFails (v : Service) (o : EmbeddingOrder) : Prop :=
  v.store.bareSymbols o.repository ≠ [] ∧ (v.hasAi = false ∨
    ∃ i m, i * Embedding.batchSize < (v.store.bareSymbols o.repository).length ∧ o.ai.replies[i]? = some (.failure m))

structure MakesVectors (v : Service) : Prop where
  enabled : v.settings.enableEmbeddings = true
  key : v.settings.openaiKey.isEmpty = false

theorem run_withAi_bind {α β : Type} (talk : StateM AiService α) (f : α → Work β) (v : Service) :
    (withAi talk >>= f).run v = (f (talk.run v.ai).1).run { v with ai := (talk.run v.ai).2 } := rfl

theorem embedWith_of_bareSymbols_eq_nil {v : Service} (hv : v.MakesVectors) {o : EmbeddingOrder}
    (h : v.store.bareSymbols o.repository = []) : v.embedWith o = (.ok .nothingNew, { v with ai := o.ai }) := by
  unfold embedWith embedRepository
  simp only [StateT.run_bind, StateT.run_get, pure_bind, hv.enabled, hv.key, Bool.not_true,
    Bool.false_eq_true, ↓reduceIte, List.isEmpty_iff, h]
  rfl

/-- The vectors that the language model gives to the texts of the symbols decide how the run ends. -/
theorem embedWith_of_bareSymbols_ne_nil {v : Service} (hv : v.MakesVectors) {o : EmbeddingOrder}
    (h : v.store.bareSymbols o.repository ≠ []) {vectors : Except Embedding.Error (List (List Float))} {ai : AiService}
    (hvectors : (Embedding.many v.hasAi v.settings.openaiModel
      ((v.store.bareSymbols o.repository).map fun y => some y.embeddingText.toList)).run o.ai = (vectors, ai)) :
    v.embedWith o = match vectors with
      | .error e => (.error e, { v with ai := ai })
      | .ok l => (.ok (.done l.length v.settings.openaiModel), { v with
          ai := ai
          store := v.store.keepVectors v.settings.openaiModel v.settings.embeddingDimensions
            (v.store.bareSymbols o.repository) l }) := by
  have htalk : StateT.run (Embedding.many v.hasAi v.settings.openaiModel
      ((v.store.bareSymbols o.repository).map fun y => some y.embeddingText.toList)).run o.ai = (vectors, ai) :=
    hvectors
  unfold embedWith embedRepository
  rw [StateT.run_bind, StateT.run_get, pure_bind]
  simp only [hv.enabled, hv.key, Bool.not_true, Bool.false_eq_true, ↓reduceIte, List.isEmpty_iff, h]
  rw [run_withAi_bind]
  simp only [htalk]
  cases vectors <;> rfl

/-- What a run can do: fail and leave the store as it was, or add a row for each symbol that has none. -/
theorem embedWith_cases {v : Service} (hv : v.MakesVectors) (o : EmbeddingOrder) :
    (v.RunFails o ∧ ∃ e ai, v.embedWith o = (.error e, { v with ai := ai })) ∨
    (¬ v.RunFails o ∧ ∃ run ai added,
      v.embedWith o = (.ok run, { v with ai := ai, store := v.store.withEmbeddings added }) ∧
      run.Reports added.length ∧
      added = v.store.vectorRows v.settings.openaiModel v.settings.embeddingDimensions (vectorFor o)
        (v.store.bareSymbols o.repository)) := by
  unfold RunFails
  by_cases hbare : v.store.bareSymbols o.repository = []
  · rw [embedWith_of_bareSymbols_eq_nil hv hbare, hbare]
    refine .inr ⟨fun h => h.1 rfl, .nothingNew, o.ai, [], ?_, fun name => rfl, rfl⟩
    rw [Store.withEmbeddings_nil]
  · have hmany := Embedding.run_many v.hasAi v.settings.openaiModel
      ((v.store.bareSymbols o.repository).map fun y => some y.embeddingText.toList) o.ai
    rw [List.length_map, List.map_map] at hmany
    obtain ⟨hfails, e, ai, hrun⟩ | ⟨hfails, ai, hrun, -⟩ := hmany
    · rw [embedWith_of_bareSymbols_ne_nil hv hbare hrun]
      exact .inl ⟨⟨hbare, hfails⟩, e, ai, rfl⟩
    · rw [embedWith_of_bareSymbols_ne_nil hv hbare hrun]
      refine .inr ⟨?_, .done (v.store.bareSymbols o.repository).length v.settings.openaiModel, ai, _, ?_,
        fun name => ?_, rfl⟩
      · rintro ⟨-, hai | hfailure⟩
        · exact absurd (hai.symm.trans hfails.1) Bool.false_ne_true
        · exact hfails.2 hfailure
      · rw [← Store.keepVectors_map]
        simp only [List.length_map]
        rfl
      · unfold Store.vectorRows
        rw [Store.length_numbered, List.length_map]
        rfl

/-! ## Runs one after the other -/

/-- Runs change nothing but the rows of vectors, of which they only add some. -/
structure Extends (v w : Service) : Prop where
  settings : w.settings = v.settings
  hasAi : w.hasAi = v.hasAi
  store : ∃ added, w.store = v.store.withEmbeddings added

theorem Extends.refl (v : Service) : v.Extends v := ⟨rfl, rfl, [], v.store.withEmbeddings_nil.symm⟩

theorem Extends.trans {u v w : Service} (h : u.Extends v) (h' : v.Extends w) : u.Extends w := by
  obtain ⟨l, hl⟩ := h.store
  obtain ⟨m, hm⟩ := h'.store
  exact ⟨h'.settings.trans h.settings, h'.hasAi.trans h.hasAi, l ++ m,
    by rw [hm, hl, Store.withEmbeddings_withEmbeddings]⟩

theorem Extends.makesVectors {v w : Service} (h : v.Extends w) (hv : v.MakesVectors) : w.MakesVectors :=
  ⟨h.settings ▸ hv.enabled, h.settings ▸ hv.key⟩

/-- Once all symbols of a repository have vectors, it stays so. -/
theorem Extends.bareSymbols_eq_nil {v w : Service} (h : v.Extends w) {r : Id} (hr : v.store.bareSymbols r = []) :
    w.store.bareSymbols r = [] := by
  obtain ⟨added, hadded⟩ := h.store
  rw [hadded, Store.bareSymbols_withEmbeddings_eq_nil_iff, hr]
  exact fun y hy => absurd hy List.not_mem_nil

theorem extends_embedWith {v : Service} (hv : v.MakesVectors) (o : EmbeddingOrder) : v.Extends (v.embedWith o).2 := by
  obtain ⟨-, e, ai, hrun⟩ | ⟨-, run, ai, added, hrun, -⟩ := embedWith_cases hv o
  · rw [hrun]
    exact ⟨rfl, rfl, [], v.store.withEmbeddings_nil.symm⟩
  · rw [hrun]
    exact ⟨rfl, rfl, added, rfl⟩

theorem isKeyed_embedWith {v : Service} (hv : v.MakesVectors) (hkeyed : v.store.IsKeyed) (o : EmbeddingOrder) :
    (v.embedWith o).2.store.IsKeyed := by
  obtain ⟨-, e, ai, hrun⟩ | ⟨-, run, ai, added, hrun, -, hadded⟩ := embedWith_cases hv o
  · rw [hrun]
    exact hkeyed
  · rw [hrun]
    exact hkeyed.withEmbeddings (r := o.repository) (by rw [hadded, Store.map_symbolId_vectorRows])

/-- The induction is on the runs that are left: each extends the service and keeps the identifiers apart. -/
theorem extends_afterRuns {v : Service} (hv : v.MakesVectors) (orders : List EmbeddingOrder) :
    v.Extends (v.afterRuns orders) ∧ (v.store.IsKeyed → (v.afterRuns orders).store.IsKeyed) := by
  induction orders generalizing v with
  | nil => exact ⟨.refl v, id⟩
  | cons o orders ih =>
    have hstep := extends_embedWith hv o
    obtain ⟨hlater, hkeyed⟩ := ih (hstep.makesVectors hv)
    exact ⟨hstep.trans hlater, fun h => hkeyed (isKeyed_embedWith hv h o)⟩

/-- From any store in which no symbol has two rows of vectors, after any runs: the next run fails exactly if it has
something to do and the language model cannot be reached or fails one of its requests, and then the store is as before.
Otherwise it says how many rows it has added, each of them has the vector of the text of a symbol of the repository,
every symbol of the repository has exactly one row, and all earlier rows are kept, among them those of other
repositories' symbols, which get no new ones. From then on, whatever runs come between, a run of the repository adds
nothing and says that it has worked on no symbol. -/
theorem runs_embed_each_symbol_once {v : Service} (hv : v.MakesVectors) (hkeyed : v.store.IsKeyed)
    (earlier : List EmbeddingOrder) (o : EmbeddingOrder) :
    ((∃ e, ((v.afterRuns earlier).embedWith o).1 = .error e) ↔ (v.afterRuns earlier).RunFails o) ∧
    ((v.afterRuns earlier).RunFails o → ((v.afterRuns earlier).embedWith o).2.store = (v.afterRuns earlier).store) ∧
    (¬ (v.afterRuns earlier).RunFails o → ∃ run added t, ((v.afterRuns earlier).embedWith o).1 = .ok run ∧
      ((v.afterRuns earlier).embedWith o).2.store = t ∧ t = (v.afterRuns earlier).store.withEmbeddings added ∧
      run.Reports added.length ∧
      (∀ row ∈ added, ∃ y ∈ (t.symbolsOf o.repository).map (·.1), row.symbolId = y.id ∧ row.vector = vectorFor o y) ∧
      (∀ y ∈ (t.symbolsOf o.repository).map (·.1), ∃ row, t.embeddings.filter (·.symbolId == y.id) = [row]) ∧
      (∀ other, other ≠ o.repository → ∀ y ∈ (t.symbolsOf other).map (·.1),
        t.embeddings.filter (·.symbolId == y.id) = (v.afterRuns earlier).store.embeddings.filter (·.symbolId == y.id)) ∧
      ∀ (later : List EmbeddingOrder) (again : EmbeddingOrder), again.repository = o.repository →
        ∃ last, ((((v.afterRuns earlier).embedWith o).2.afterRuns later).embedWith again).1 = .ok last ∧
          last.Reports 0 ∧
          ((((v.afterRuns earlier).embedWith o).2.afterRuns later).embedWith again).2.store =
            (((v.afterRuns earlier).embedWith o).2.afterRuns later).store) := by
  obtain ⟨hbefore, hkept⟩ := extends_afterRuns hv earlier
  have hw := hbefore.makesVectors hv
  have hwkeyed := hkept hkeyed
  generalize v.afterRuns earlier = w at hw hwkeyed ⊢
  have hnext := extends_embedWith hw o
  have hnextKeyed := isKeyed_embedWith hw hwkeyed o
  obtain ⟨hfails, e, ai, hrun⟩ | ⟨hfails, run, ai, added, hrun, hreports, hadded⟩ := embedWith_cases hw o
  · rw [hrun]
    exact ⟨⟨fun _ => hfails, fun _ => ⟨e, rfl⟩⟩, fun _ => rfl, fun h => absurd hfails h⟩
  · -- the rows added are those of all symbols that had none, so that none is left
    have hempty : (w.embedWith o).2.store.bareSymbols o.repository = [] := by
      rw [hrun, Store.bareSymbols_withEmbeddings_eq_nil_iff, hadded, Store.map_symbolId_vectorRows]
      exact fun y hy => List.mem_map_of_mem hy
    have hstore : (w.embedWith o).2.store = w.store.withEmbeddings added := by rw [hrun]
    have hrows : ∀ row ∈ added, ∃ y ∈ (w.store.symbolsOf o.repository).map (·.1), row.symbolId = y.id ∧
        row.vector = vectorFor o y := by
      rw [hadded]
      refine Store.forall_mem_numbered fun make hmake id now => ?_
      obtain ⟨y, hy, rfl⟩ := List.mem_map.1 hmake
      exact ⟨y, (Store.mem_bareSymbols_iff.1 hy).1, rfl, rfl⟩
    refine ⟨⟨?_, fun h => absurd h hfails⟩, fun h => absurd h hfails,
      fun _ => ⟨run, added, _, ?_, rfl, hstore, hreports, ?_, ?_, ?_, ?_⟩⟩
    · rintro ⟨e, he⟩
      rw [hrun] at he
      cases he
    · rw [hrun]
    · rw [hstore]
      exact hrows
    · exact fun y hy => hnextKeyed.exists_filter_eq (Store.bareSymbols_eq_nil_iff.1 hempty y hy)
    · intro other hother y hy
      rw [hstore] at hy ⊢
      have hnone : added.filter (·.symbolId == y.id) = [] := by
        rw [List.filter_eq_nil_iff]
        intro row hrow hsame
        obtain ⟨z, hz, hid, -⟩ := hrows row hrow
        exact hother (hwkeyed.eq_of_mem_symbolsOf hy hz ((beq_iff_eq.1 hsame).symm.trans hid))
      show (w.store.embeddings ++ added).filter _ = _
      rw [List.filter_append, hnone, List.append_nil]
    · intro later again hagain
      have hmakes := hnext.makesVectors hw
      have hlater := (extends_afterRuns hmakes later).1
      rw [embedWith_of_bareSymbols_eq_nil (hlater.makesVectors hmakes) (hagain ▸ hlater.bareSymbols_eq_nil hempty)]
      exact ⟨.nothingNew, rfl, fun name => rfl, rfl⟩

/-- A service with two symbols of one file, of which the first has a vector. -/
def halfEmbedded : Service :=
  let symbol (name : String) : Id → Moment → SymbolRow := fun id now =>
    { id := id, fileId := Id.nth 1, name := name, kind := .function, lineStart := 1, lineEnd := none, signature := none,
      complexity := none, maintainability := none, codeLines := none, commentLines := none, docstring := none,
      hasDocstring := false, docstringLength := none, created := now }
  { settings := { Settings.standard with openaiKey := "key" }, hasAi := true, ai := ⟨[], fun _ => [], []⟩,
    mailLogin := fun _ => false, today := "",
    store := (((({} : Store).addRepository (RepositoryRow.blank "tool")).addFile
      fun id now => ⟨id, Id.nth 0, "a.py", "python", 2, none, now⟩).addSymbols [symbol "f", symbol "g"]).addEmbeddings
        [fun id now => ⟨id, Id.nth 2, [], "text-embedding-3-small", 1536, now⟩] }

/-- The first run fails and the second completes; then there is nothing left to do. -/
theorem runs_embed_each_symbol_once_afterFailure :
    let refused : EmbeddingOrder := ⟨Id.nth 0, ⟨[.failure "busy"], fun t => [t.length.toFloat], []⟩⟩
    let answered : EmbeddingOrder := ⟨Id.nth 0, ⟨[], fun t => [t.length.toFloat], []⟩⟩
    (∃ e, (halfEmbedded.embedWith refused).1 = .error e) ∧
      (halfEmbedded.embedWith refused).2.store = halfEmbedded.store ∧
    ∃ run added t, ((halfEmbedded.afterRuns [refused]).embedWith answered).1 = .ok run ∧ run.Reports added.length ∧
      ((halfEmbedded.afterRuns [refused]).embedWith answered).2.store = t ∧
        t = halfEmbedded.store.withEmbeddings added ∧
      (∀ y ∈ (t.symbolsOf (Id.nth 0)).map (·.1), ∃ row, t.embeddings.filter (·.symbolId == y.id) = [row]) ∧
      ∃ last, ((((halfEmbedded.afterRuns [refused]).embedWith answered).2.afterRuns [refused]).embedWith refused).1 =
        .ok last ∧
        last.Reports 0 := by
  intro refused answered
  have hmakes : halfEmbedded.MakesVectors := ⟨rfl, by decide⟩
  have hkeyed : halfEmbedded.store.IsKeyed := ⟨by decide, by decide⟩
  have hone : (halfEmbedded.store.bareSymbols (Id.nth 0)).length = 1 := by decide
  have hbare : halfEmbedded.store.bareSymbols (Id.nth 0) ≠ [] := List.ne_nil_of_length_pos (by omega)
  obtain ⟨herror, hsame, -⟩ := runs_embed_each_symbol_once hmakes hkeyed [] refused
  have hrequests : 0 * Embedding.batchSize < (halfEmbedded.store.bareSymbols (Id.nth 0)).length := by
    rw [hone]
    decide
  have hfails : halfEmbedded.RunFails refused := ⟨hbare, .inr ⟨0, "busy", hrequests, rfl⟩⟩
  obtain ⟨-, -, hdone⟩ := runs_embed_each_symbol_once hmakes hkeyed [refused] answered
  have hstore : (halfEmbedded.afterRuns [refused]).store = halfEmbedded.store := hsame hfails
  have hcompletes : ¬ (halfEmbedded.afterRuns [refused]).RunFails answered := by
    rintro ⟨-, hai | ⟨i, m, -, hreply⟩⟩
    · rw [(extends_afterRuns hmakes [refused]).1.hasAi] at hai
      cases hai
    · cases hreply
  obtain ⟨run, added, t, hrun, ht, htstore, hreports, -, heach, -, hagain⟩ := hdone hcompletes
  obtain ⟨last, hlast, hzero, -⟩ := hagain [refused] refused rfl
  exact ⟨herror.2 hfails, hsame hfails, run, added, t, hrun, hreports, ht, hstore ▸ htstore, heach, last, hlast, hzero⟩

end Service

end CodeSurvey
