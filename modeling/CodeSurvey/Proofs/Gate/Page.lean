/-
The page on a gate and the name of the repository. The name is put into the page as it is, at two places
(`exists_loosePage_eq`), and the page that is served for a run is the one on the result of its check
(`page_holds_name`).
-/
import CodeSurvey.Proofs.Fault
import CodeSurvey.Proofs.Gate.Webhook
import CodeSurvey.Proofs.Text.Piece

namespace CodeSurvey

open Text Answering

namespace Gate

theorem exists_intercalate_eq (sep : String) (ps qs rs : List String) (a b c d : String) : ∃ head middle tail, ∀ name,
    sep.intercalate (ps ++ (a ++ name ++ b) :: (qs ++ (c ++ name ++ d) :: rs)) =
      head ++ name ++ middle ++ name ++ tail := by
  refine ⟨String.ofList ((ps.map String.toList).flatMap (· ++ sep.toList)) ++ a,
    b ++ String.ofList ((qs.map String.toList).flatMap (sep.toList ++ ·)) ++ sep ++ c,
    d ++ String.ofList ((rs.map String.toList).flatMap (sep.toList ++ ·)), fun name => String.toList_inj.1 ?_⟩
  rw [String.toList_intercalate, List.map_append, List.map_cons, List.map_append, List.map_cons, ← joinWith,
    joinWith_append_cons, List.flatMap_append, List.flatMap_cons]
  simp

/-- The name of the repository stands in the page twice, as it is given. -/
theorem exists_page_eq (time : String) (passed : Bool) (summary : String) (rows : List CheckRow) :
    ∃ head middle tail, ∀ name, page time name passed summary rows = head ++ name ++ middle ++ name ++ tail :=
  exists_intercalate_eq _ _ _ _ _ _ _ _

theorem exists_loosePage_eq (time : String) (gate : Json) : (∃ e, ∀ name, loosePage time name gate = .error e) ∨
    ∃ head middle tail, ∀ name, loosePage time name gate = .ok (head ++ name ++ middle ++ name ++ tail) := by
  unfold loosePage
  cases looseChecks gate with
  | error e => exact .inl ⟨e, fun _ => rfl⟩
  | ok checks =>
    cases hrows : checks.mapM CheckRow.ofJson with
    | error e => exact .inl ⟨e, fun _ => by simp [bind, Except.bind, hrows]⟩
    | ok rows =>
      obtain ⟨head, middle, tail, hpage⟩ :=
        exists_page_eq time (looselyPassed gate) ((gate.get? "summary").getD (.str "")).display rows
      exact .inr ⟨head, middle, tail, fun name => by simp [bind, Except.bind, pure, Except.pure, hrows, hpage]⟩

theorem loosePage_fields (time name : String) (r : Result) :
    loosePage time name (.obj r.fields) = .ok (r.page time name) := by
  have hchecks : looseChecks (.obj r.fields) = .ok (r.checks.map Check.record) := rfl
  have hrows : (r.checks.map Check.record).mapM CheckRow.ofJson = .ok (r.checks.map Check.row) := by
    rw [mapM_eq_ok_iff, List.forall₂_map_left_iff, List.forall₂_map_right_iff, List.forall₂_same]
    exact fun c _ => rfl
  unfold loosePage
  rw [hchecks]
  simp only [bind, Except.bind, hrows]
  rfl

end Gate

theorem Api.run_report {v : Service} {text page : String} {run : RunRow} (htext : Id.ofText? text.toList = some run.id)
    (hrun : v.store.run? run.id = some run) (hreport : run.report = some page) (hpage : page ≠ "") :
    (Api.report text).run v = (.ok (.str page), v) := by
  have hfilter : (run.report.filter fun p => !p.isEmpty) = some page := by
    rw [hreport, Option.filter_some, if_pos (by simpa using hpage)]
  unfold Api.report idInPath
  rw [run_bind_ok ((Yields.of_shaped _ v).run_eq htext), run_bind_ok (run_store v),
    run_bind_ok ((Yields.of_found _ _ v).run_eq hrun), run_bind_ok ((Yields.of_found _ _ v).run_eq hfilter)]
  rfl

theorem Api.run_checkByHand {v : Service} {id : String} {row : RepositoryRow} (hfresh : v.store.HasFreshRuns)
    (hrow : (Id.ofText? id.toList).bind v.store.repository? = some row) {result : Gate.Result}
    (hresult : v.store.checkGate row.id = some result) :
    ∃ run w, (Api.checkByHand id).run v = (.ok (.obj (result.fields ++ [("run.id", run.id.json)])), w) ∧
      w.store.run? run.id = some run ∧ run.report = some (result.page v.today row.name) := by
  -- the gate is made before the run, so the run gets the identifier behind it
  let m := v.store.ensureGate row.id
  let request : Store.RunRequest := { trigger := "manual", status := "runnning" }
  let started := RunRow.started row.id request m.nextId m.now
  let page := result.page v.today row.name
  have hruns : m.runs = v.store.runs := by
    rcases v.store.ensureGate_cases row.id with ⟨-, h⟩ | ⟨-, h⟩ <;> exact (congrArg Store.runs h).trans rfl
  have hstarted : (m.startRun row.id request).runs = v.store.runs ++ [started] := congrArg (· ++ [started]) hruns
  have hnew : ∀ r ∈ v.store.runs, r.id ≠ started.id :=
    fun r hr => hfresh r hr _ (v.store.grows_ensureGate row.id).issued
  obtain ⟨i, hi, hrow⟩ := Option.bind_eq_some_iff.1 hrow
  refine ⟨started.complete result page (m.startRun row.id request).now,
    { v with store := (m.startRun row.id request).completeRun started.id result page }, ?_, ?_, ?_⟩
  · unfold Api.checkByHand idInPath
    have hof := (Yields.of_repositoryOf i v).run_eq hrow
    rw [run_bind_ok ((Yields.of_shaped _ v).run_eq hi), run_bind_ok hof, run_bind_ok (run_checkGate_of_some hresult)]
    rfl
  · exact Store.run?_completeRun hstarted hnew result page
  · exact RunRow.report_complete started result (Gate.page_ne_empty _ _ _ _ _) _

namespace Gate

theorem count_append_append (c : Char) (head name middle tail : String) :
    (head ++ name ++ middle ++ name ++ tail).toList.count c =
      head.toList.count c + middle.toList.count c + tail.toList.count c + 2 * name.toList.count c := by
  simp only [String.toList_append, List.count_append]
  omega

/-- The name of a repository is put into the page on its gate as it is, at two places, so that a page has two signs `<`
more for each one in the name. The page that is served for a run is the page on the result of the check, under the name
that the repository has; there is a result if no limit is missing. -/
theorem page_holds_name (time : String) (gate : Json) :
    ((∃ e, ∀ name, loosePage time name gate = .error e) ∨
      ∃ head middle tail, ∀ name, loosePage time name gate = .ok (head ++ name ++ middle ++ name ++ tail)) ∧
    (∀ x y p q, loosePage time x gate = .ok p → loosePage time y gate = .ok q →
      p.toList.count '<' + 2 * y.toList.count '<' = q.toList.count '<' + 2 * x.toList.count '<') ∧
    ∀ (v : Service) (id : String) (row : RepositoryRow), v.store.HasFreshRuns →
      (Id.ofText? id.toList).bind v.store.repository? = some row → (v.store.limitsOf row.id).AreSet →
      ∃ fields run page w, (Api.checkByHand id).run v = (.ok (.obj (fields ++ [("run.id", run.json)])), w) ∧
        loosePage v.today row.name (.obj fields) = .ok page ∧
        ∀ text, Id.ofText? text.toList = some run → (Api.report text).run w = (.ok (.str page), w) := by
  refine ⟨exists_loosePage_eq time gate, fun x y p q hp hq => ?_, fun v id row hfresh hrow hset => ?_⟩
  · rcases exists_loosePage_eq time gate with ⟨e, h⟩ | ⟨head, middle, tail, h⟩
    · cases (h x).symm.trans hp
    · obtain rfl := Except.ok.inj ((h x).symm.trans hp)
      obtain rfl := Except.ok.inj ((h y).symm.trans hq)
      rw [count_append_append, count_append_append]
      omega
  · obtain ⟨result, hresult⟩ := Option.isSome_iff_exists.1 (Store.isSome_checkGate_iff.2 hset)
    obtain ⟨run, w, hcheck, hrun, hreport⟩ := Api.run_checkByHand hfresh hrow hresult
    exact ⟨_, run.id, _, w, hcheck, loosePage_fields _ _ _,
      fun text htext => Api.run_report htext hrun hreport (page_ne_empty _ _ _ _ _)⟩

def taggedService : Service := .idle (({} : Store).addRepository (RepositoryRow.blank "<b>tool</b>"))

/-- A repository whose name has tags in it is checked, and the page of the run is asked for. -/
theorem page_holds_name_tags : ∃ fields run page w,
    (Api.checkByHand (Id.nth 0).text).run taggedService = (.ok (.obj (fields ++ [("run.id", Id.json run)])), w) ∧
    loosePage "" "<b>tool</b>" (.obj fields) = .ok page ∧
    ∀ text, Id.ofText? text.toList = some run → (Api.report text).run w = (.ok (.str page), w) :=
  (page_holds_name "" .null).2.2 taggedService (Id.nth 0).text
    (RepositoryRow.blank "<b>tool</b>" (Id.nth 0) ({} : Store).now)
    (fun run hrun => by cases hrun) rfl GateLimits.areSet_standard

end Gate

end CodeSurvey
