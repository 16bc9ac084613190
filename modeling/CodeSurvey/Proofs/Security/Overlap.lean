/-
Scans for security issues that overlap. A request clears the issues of a repository at once and queues the scan, which
adds what it finds; nothing keeps a second request from coming before the scan of the first. After the last request
every scan that waits adds the issues once more (`exists_copies_of_run?`), so they are stored once exactly if no scan
was waiting then (`scans_stored_once_iff`).
-/
import CodeSurvey.Api.Security
import CodeSurvey.Api.Upload
import CodeSurvey.Proofs.Api.Answering
import CodeSurvey.Proofs.Store.Rows

namespace CodeSurvey

namespace Store

def foundIssues (s : Store) (repository : Id) : List (Id → Moment → VulnerabilityRow) :=
  (s.filesOf repository).flatMap (issueDrafts repository)

/-- The rows of several scans that found the same, each with the number of its first identifier. -/
def copies (starts : List Nat) (drafts : List (Id → Moment → VulnerabilityRow)) : List VulnerabilityRow :=
  starts.flatMap fun n => numbered n drafts

theorem length_copies (starts : List Nat) (drafts : List (Id → Moment → VulnerabilityRow)) :
    (copies starts drafts).length = starts.length * drafts.length := by
  simp [copies, List.length_flatMap]

theorem copies_eq_numbered_iff {starts : List Nat} {drafts : List (Id → Moment → VulnerabilityRow)}
    (hstarts : starts ≠ []) :
    (∃ n, copies starts drafts = numbered n drafts) ↔ drafts = [] ∨ starts.length = 1 := by
  constructor
  · rintro ⟨n, h⟩
    have hlength := congrArg List.length h
    rw [length_copies, length_numbered] at hlength
    rcases Nat.eq_zero_or_pos drafts.length with hnone | hsome
    · exact .inl (List.length_eq_zero_iff.1 hnone)
    · exact .inr (Nat.eq_of_mul_eq_mul_right hsome (hlength.trans (Nat.one_mul _).symm))
  · rintro (rfl | hone)
    · exact ⟨0, by simp [copies, numbered]⟩
    · obtain ⟨n, rfl⟩ := List.length_eq_one_iff.1 hone
      exact ⟨n, by simp [copies]⟩

theorem repositoryId_of_mem_foundIssues {s : Store} {repository : Id} :
    ∀ make ∈ s.foundIssues repository, ∀ id now, (make id now).repositoryId = repository := by
  intro make hmake id now
  obtain ⟨f, -, hmake⟩ := List.mem_flatMap.1 hmake
  unfold issueDrafts at hmake
  cases hsource : f.source with
  | none => simp [hsource] at hmake
  | some t =>
    simp only [hsource, List.mem_map] at hmake
    obtain ⟨i, -, rfl⟩ := hmake
    rfl

theorem foundIssues_clearVulnerabilities (s : Store) (repository other : Id) :
    (s.clearVulnerabilities repository).foundIssues other = s.foundIssues other := rfl

theorem foundIssues_scanSecurity (s : Store) (repository other : Id) :
    (s.scanSecurity repository).foundIssues other = s.foundIssues other := rfl

theorem vulnerabilitiesOf_clearVulnerabilities (s : Store) (repository other : Id) :
    (s.clearVulnerabilities repository).vulnerabilitiesOf other = if other = repository then [] else
      s.vulnerabilitiesOf other := by
  unfold clearVulnerabilities vulnerabilitiesOf
  rw [List.filter_filter]
  split
  · next h =>
    subst h
    simp
  · next h =>
    refine List.filter_congr fun row _ => ?_
    by_cases hrow : row.repositoryId = other
    · simp [hrow, h]
    · simp [hrow]

theorem vulnerabilitiesOf_scanSecurity (s : Store) (repository other : Id) :
    (s.scanSecurity repository).vulnerabilitiesOf other =
      s.vulnerabilitiesOf other ++ if other = repository then numbered s.issued (s.foundIssues repository) else [] := by
  have hrows : ∀ row ∈ numbered s.issued (s.foundIssues repository), row.repositoryId = repository :=
    forall_mem_numbered repositoryId_of_mem_foundIssues
  show (s.vulnerabilities ++ numbered s.issued (s.foundIssues repository)).filter _ = _
  rw [List.filter_append]
  refine congrArg (s.vulnerabilitiesOf other ++ ·) ?_
  split
  · next h =>
    rw [List.filter_eq_self]
    intro row hrow
    rw [hrows row hrow, h, beq_self_eq_true]
  · next h =>
    rw [List.filter_eq_nil_iff]
    intro row hrow
    rw [hrows row hrow, beq_iff_eq]
    exact fun hsame => h hsame.symm

end Store

/-! ## Requests and scans in any order -/

/-- A step of some scan: its request, or the scan itself, which follows at some later time. -/
inductive ScanStep where
  | request (repository : Id)
  | scan (repository : Id)
deriving DecidableEq

/-- The store with the repositories whose scans wait. -/
structure ScanQueue where
  store : Store
  waiting : List Id := []

namespace ScanQueue

/-- Takes a step: a request needs the repository, and a scan needs a request that waits for it. -/
def step? (q : ScanQueue) : ScanStep → Option ScanQueue
  | .request r =>
    if (q.store.repository? r).isSome then some ⟨q.store.clearVulnerabilities r, q.waiting ++ [r]⟩ else none
  | .scan r => if r ∈ q.waiting then some ⟨q.store.scanSecurity r, q.waiting.erase r⟩ else none

def run? (q : ScanQueue) : List ScanStep → Option ScanQueue
  | [] => some q
  | a :: rest => (q.step? a).bind (run? · rest)

theorem step?_cases {q q' : ScanQueue} {a : ScanStep} (h : q.step? a = some q') :
    (∃ r, a = .request r ∧ q' = ⟨q.store.clearVulnerabilities r, q.waiting ++ [r]⟩) ∨
    (∃ r, a = .scan r ∧ r ∈ q.waiting ∧ q' = ⟨q.store.scanSecurity r, q.waiting.erase r⟩) := by
  cases a with
  | request r =>
    simp only [step?, Option.ite_none_right_eq_some] at h
    exact .inl ⟨r, rfl, (Option.some.inj h.2).symm⟩
  | scan r =>
    simp only [step?, Option.ite_none_right_eq_some] at h
    exact .inr ⟨r, rfl, h.1, (Option.some.inj h.2).symm⟩

theorem run?_append (q : ScanQueue) (l m : List ScanStep) : q.run? (l ++ m) = (q.run? l).bind (run? · m) := by
  induction l generalizing q with
  | nil => rfl
  | cons a l ih =>
    rw [List.cons_append, run?, run?]
    cases q.step? a with
    | none => rfl
    | some q' => exact ih q'

variable {q q' : ScanQueue} {a : ScanStep} {steps : List ScanStep}

theorem foundIssues_of_step? (h : q.step? a = some q') (r : Id) : q'.store.foundIssues r = q.store.foundIssues r := by
  obtain ⟨p, -, rfl⟩ | ⟨p, -, -, rfl⟩ := step?_cases h <;> rfl

/-- Each request of a repository adds one scan to those that wait for it, and each scan takes one away. -/
theorem count_waiting_of_step? (h : q.step? a = some q') (r : Id) :
    q'.waiting.count r + [a].count (.scan r) = q.waiting.count r + [a].count (.request r) := by
  obtain ⟨p, rfl, rfl⟩ | ⟨p, rfl, hp, rfl⟩ := step?_cases h
  · by_cases hr : p = r <;> simp [hr]
  · by_cases hr : p = r
    · subst hr
      have hpos : 0 < q.waiting.count p := List.count_pos_iff.2 hp
      have hone : [ScanStep.scan p].count (.scan p) = 1 := List.count_singleton_self
      have hnone : [ScanStep.scan p].count (.request p) = 0 := by simp
      rw [List.count_erase_self, hone, hnone]
      omega
    · rw [List.count_erase_of_ne (Ne.symm hr)]
      simp [hr]

theorem count_waiting_of_run? (h : q.run? steps = some q') (r : Id) :
    q'.waiting.count r + steps.count (.scan r) = q.waiting.count r + steps.count (.request r) := by
  induction steps generalizing q with
  | nil =>
    cases h
    rfl
  | cons a rest ih =>
    obtain ⟨p, hp, hrest⟩ := Option.bind_eq_some_iff.1 h
    have hstep := count_waiting_of_step? hp r
    have hrun := ih hrest
    rw [← List.singleton_append, List.count_append, List.count_append]
    omega

theorem foundIssues_of_run? (h : q.run? steps = some q') (r : Id) : q'.store.foundIssues r = q.store.foundIssues r := by
  induction steps generalizing q with
  | nil =>
    cases h
    rfl
  | cons a rest ih =>
    obtain ⟨p, hp, hrest⟩ := Option.bind_eq_some_iff.1 h
    rw [ih hrest, foundIssues_of_step? hp]

/-- As long as a repository is not requested again, each of its scans adds its issues once more. The induction is on the
steps that are left. -/
theorem exists_copies_of_run? {r : Id} (h : q.run? steps = some q') (hrequest : .request r ∉ steps) :
    ∃ starts : List Nat, starts.length = steps.count (.scan r) ∧
      q'.store.vulnerabilitiesOf r = q.store.vulnerabilitiesOf r ++ Store.copies starts (q.store.foundIssues r) := by
  induction steps generalizing q with
  | nil =>
    cases h
    exact ⟨[], rfl, (List.append_nil _).symm⟩
  | cons a rest ih =>
    obtain ⟨p, hp, hrest⟩ := Option.bind_eq_some_iff.1 h
    obtain ⟨starts, hlength, hrows⟩ := ih hrest fun hmem => hrequest (List.mem_cons_of_mem a hmem)
    rw [foundIssues_of_step? hp] at hrows
    obtain ⟨o, rfl, rfl⟩ | ⟨o, rfl, -, rfl⟩ := step?_cases hp
    · -- only the request of another repository can come, and it clears nothing of this one
      have hne : r ≠ o := by
        rintro rfl
        exact hrequest List.mem_cons_self
      refine ⟨starts, by simpa using hlength, ?_⟩
      rw [hrows, Store.vulnerabilitiesOf_clearVulnerabilities, if_neg hne]
    · rw [Store.vulnerabilitiesOf_scanSecurity] at hrows
      by_cases hr : r = o
      · subst hr
        refine ⟨q.store.issued :: starts, by simpa using hlength, ?_⟩
        rw [hrows, if_pos rfl, List.append_assoc]
        rfl
      · refine ⟨starts, ?_, by rw [hrows, if_neg hr, List.append_nil]⟩
        rw [hlength, List.count_cons_of_ne]
        simpa using Ne.symm hr

/-- Once nothing waits any more, the issues of a repository are those that the scans behind its last request have found.
-/
theorem exists_copies_of_finished {s t : Store} {r : Id} {before after : List ScanStep}
    (hrun : run? ⟨s, []⟩ (before ++ .request r :: after) = some ⟨t, []⟩) (hlast : .request r ∉ after) :
    ∃ starts : List Nat, starts ≠ [] ∧ starts.length + before.count (.scan r) = before.count (.request r) + 1 ∧
      t.vulnerabilitiesOf r = Store.copies starts (s.foundIssues r) := by
  rw [run?_append] at hrun
  obtain ⟨p, hbefore, hrest⟩ := Option.bind_eq_some_iff.1 hrun
  obtain ⟨o, ho, hafter⟩ := Option.bind_eq_some_iff.1 hrest
  obtain ⟨starts, hlength, hrows⟩ := exists_copies_of_run? hafter hlast
  have hfound : o.store.foundIssues r = s.foundIssues r := by rw [foundIssues_of_step? ho, foundIssues_of_run? hbefore]
  have hbeforeCount := count_waiting_of_run? hbefore r
  have hrequestCount := count_waiting_of_step? ho r
  have hafterCount := count_waiting_of_run? hafter r
  have hrequests : after.count (.request r) = 0 := List.count_eq_zero.2 hlast
  have hone : [ScanStep.request r].count (.request r) = 1 := List.count_singleton_self
  have hnone : [ScanStep.request r].count (.scan r) = 0 := by simp
  -- every scan that waits after the last request is among the steps behind it, since none waits in the end
  simp only [List.count_nil] at hbeforeCount hafterCount
  refine ⟨starts, List.ne_nil_of_length_pos (by omega), by omega, ?_⟩
  obtain ⟨_, hreq, rfl⟩ | ⟨_, hreq, -⟩ := step?_cases ho
  · cases hreq
    rw [hrows, hfound, Store.vulnerabilitiesOf_clearVulnerabilities, if_pos rfl]
    rfl
  · cases hreq

theorem vulnerabilitiesOf_of_not_requested {s t : Store} {r : Id} (hrun : run? ⟨s, []⟩ steps = some ⟨t, []⟩)
    (hrequest : .request r ∉ steps) : t.vulnerabilitiesOf r = s.vulnerabilitiesOf r := by
  obtain ⟨starts, hlength, hrows⟩ := exists_copies_of_run? hrun hrequest
  have hcount := count_waiting_of_run? hrun r
  have hrequests : steps.count (.request r) = 0 := List.count_eq_zero.2 hrequest
  have hscans : steps.count (.scan r) = 0 := by
    simp only [List.count_nil] at hcount
    omega
  rw [hrows, List.length_eq_zero_iff.1 (hlength.trans hscans)]
  exact List.append_nil _

theorem run?_requests_first {s : Store} {r : Id} (h : (s.repository? r).isSome) :
    ∃ t, run? ⟨s, []⟩ [.request r, .request r, .scan r, .scan r] = some ⟨t, []⟩ := by
  have hkept : ((s.clearVulnerabilities r).repository? r).isSome := h
  exact ⟨_, by simp [run?, step?, h, hkept]; rfl⟩

end ScanQueue

theorem run_scanSecurity {v : Service} {id : String} {row : RepositoryRow}
    (h : (Id.ofRegular? id).bind v.store.repository? = some row) :
    ((Api.scanSecurity id).run v).2 =
      { v with store := (v.store.clearVulnerabilities row.id).scanSecurity row.id } := by
  unfold Api.scanSecurity
  rw [Answering.run_bind_ok (run_repositoryNamed h)]
  rfl

/-- A request to scan that is served alone is a request step with its scan behind it, but requests and scans can come in
any order. When nothing waits any more, the issues of a repository are stored once for every scan behind its last
request: those of the requests before it that were still waiting, and its own. So each issue is stored once exactly if
there is none or no scan of the repository was waiting when the last request came; two requests before both scans store
all of them twice. The issues of repositories that were not requested are as before. -/
theorem scans_stored_once_iff (s : Store) (r : Id) :
    (∀ (v : Service) (id : String) (row : RepositoryRow), v.store = s → row.id = r →
      (Id.ofRegular? id).bind s.repository? = some row →
        ∃ t, ScanQueue.run? ⟨s, []⟩ [.request r, .scan r] = some ⟨t, []⟩ ∧
          ((Api.scanSecurity id).run v).2 = { v with store := t }) ∧
    ((s.repository? r).isSome →
      ∃ t m n, ScanQueue.run? ⟨s, []⟩ [.request r, .request r, .scan r, .scan r] = some ⟨t, []⟩ ∧
        t.vulnerabilitiesOf r = Store.numbered m (s.foundIssues r) ++ Store.numbered n (s.foundIssues r)) ∧
    ∀ (t : Store) (before after : List ScanStep),
      ScanQueue.run? ⟨s, []⟩ (before ++ .request r :: after) = some ⟨t, []⟩ → .request r ∉ after →
        (∃ starts : List Nat, starts.length + before.count (.scan r) = before.count (.request r) + 1 ∧
          t.vulnerabilitiesOf r = starts.flatMap fun n => Store.numbered n (s.foundIssues r)) ∧
        ((∃ n, t.vulnerabilitiesOf r = Store.numbered n (s.foundIssues r)) ↔
          s.foundIssues r = [] ∨ before.count (.request r) = before.count (.scan r)) ∧
        ∀ other, .request other ∉ before ++ .request r :: after →
          t.vulnerabilitiesOf other = s.vulnerabilitiesOf other := by
  refine ⟨?_, fun hr => ?_, fun t before after hrun hlast => ?_⟩
  · rintro v id row rfl rfl hrow
    have hkept : (v.store.repository? row.id).isSome := by
      obtain ⟨i, -, hfind⟩ := Option.bind_eq_some_iff.1 hrow
      unfold Store.repository? at hfind ⊢
      have hid : row.id = i := beq_iff_eq.1 (List.find?_some hfind :)
      rw [hid, hfind]
      rfl
    exact ⟨_, by simp [ScanQueue.run?, ScanQueue.step?, hkept], run_scanSecurity hrow⟩
  · obtain ⟨t, hrun⟩ := ScanQueue.run?_requests_first hr
    have hrun' : ScanQueue.run? ⟨s, []⟩ ([.request r] ++ .request r :: [.scan r, .scan r]) = some ⟨t, []⟩ := hrun
    obtain ⟨starts, -, hlength, hrows⟩ := ScanQueue.exists_copies_of_finished hrun' (by simp)
    obtain ⟨m, n, rfl⟩ := List.length_eq_two.1 (by simpa using hlength)
    exact ⟨t, m, n, hrun, by rw [hrows]; simp [Store.copies]⟩
  · obtain ⟨starts, hstarts, hlength, hrows⟩ := ScanQueue.exists_copies_of_finished hrun hlast
    refine ⟨⟨starts, hlength, hrows⟩, ?_, fun other => ScanQueue.vulnerabilitiesOf_of_not_requested hrun⟩
    rw [hrows, Store.copies_eq_numbered_iff hstarts]
    exact or_congr_right (by omega)

/-- A repository with one file, whose only line passes a text of its own making to the shell. -/
def Store.shellCall : Store :=
  (({} : Store).addRepository (RepositoryRow.blank "tool")).addFile fun id now =>
    ⟨id, Id.nth 0, "a.py", "python", 1, some "os.system(\"ls \" + name)\n", now⟩

/-- Two scans that overlap store the one issue twice. -/
theorem scans_stored_once_iff_shellCall :
    ∃ t m n, ScanQueue.run? ⟨Store.shellCall, []⟩
        [.request (Id.nth 0), .request (Id.nth 0), .scan (Id.nth 0), .scan (Id.nth 0)] = some ⟨t, []⟩ ∧
      (Store.shellCall.foundIssues (Id.nth 0)).length = 1 ∧ (t.vulnerabilitiesOf (Id.nth 0)).length = 2 ∧
      t.vulnerabilitiesOf (Id.nth 0) = Store.numbered m (Store.shellCall.foundIssues (Id.nth 0)) ++
        Store.numbered n (Store.shellCall.foundIssues (Id.nth 0)) ∧
      ¬ ∃ n, t.vulnerabilitiesOf (Id.nth 0) = Store.numbered n (Store.shellCall.foundIssues (Id.nth 0)) := by
  have hissues : (Store.shellCall.foundIssues (Id.nth 0)).length = 1 := by decide +kernel
  obtain ⟨t, m, n, hrun, hrows⟩ := (scans_stored_once_iff Store.shellCall (Id.nth 0)).2.1 (by decide)
  have honce :=
    ((scans_stored_once_iff Store.shellCall (Id.nth 0)).2.2 t [.request (Id.nth 0)] [.scan (Id.nth 0), .scan (Id.nth 0)]
    hrun (by decide)).2.1
  refine ⟨t, m, n, hrun, hissues, ?_, hrows, ?_⟩
  · rw [hrows, List.length_append, Store.length_numbered, Store.length_numbered, hissues]
  · rw [honce]
    rintro (hnone | hcount)
    · rw [hnone] at hissues
      cases hissues
    · revert hcount
      decide

end CodeSurvey
