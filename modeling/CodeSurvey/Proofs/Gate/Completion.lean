/-
Runs of quality gates and the gates themselves, in the store. A run is started without a verdict and completed later,
and between the two a gate may be made. Whichever comes first, all that is left in the end is one finished run more and
at most one gate more (`AddsRun`); only if a limit of the gate is missing, the run stays open (`LeavesRun`). A store
that only grows that way, or is told the limits of a repository, stays in order (`Changes.isOrderly`) and keeps what it
has (`Changes.continues`).
-/
import CodeSurvey.Proofs.Gate.Verdict
import CodeSurvey.Proofs.Store.Rows

namespace CodeSurvey

/-! ## Finished runs -/

def RunRow.checks (r : RunRow) : List Json := ((r.details.get? "checks").bind Json.items?).getD []

/-- The record of a check has a value and a threshold, and the value does not exceed the threshold. -/
def Json.KeepsThreshold (check : Json) : Prop :=
  ∃ value threshold : Int, check.get? "value" = some (.int value) ∧ check.get? "threshold" = some (.int threshold) ∧
    value ≤ threshold

/-- The run is finished: it has a time and a page, and its status, its verdict and its checks agree. -/
structure RunRow.IsFinished (r : RunRow) : Prop where
  completed : r.completed.isSome = true
  report : ∃ page, r.report = some page ∧ page ≠ ""
  status : r.status = "passed" ∨ r.status = "failed"
  passed_iff : r.status = "passed" ↔ r.passed = some true
  length_checks : r.checks.length = 4
  checks_iff : r.passed = some true ↔ ∀ check ∈ r.checks, check.KeepsThreshold

/-- The run is open: it has neither a verdict nor a time nor a page. -/
structure RunRow.IsOpen (r : RunRow) : Prop where
  completed : r.completed = none
  report : r.report = none
  passed : r.passed = none
  details : r.details = .null

theorem Gate.Check.keepsThreshold_record_iff (c : Gate.Check) : c.record.KeepsThreshold ↔ c.passed = true := by
  unfold Gate.Check.passed
  rw [decide_eq_true_eq]
  constructor
  · rintro ⟨value, threshold, hvalue, hthreshold, hle⟩
    cases hvalue
    cases hthreshold
    exact hle
  · exact fun hle => ⟨c.value, c.limit, rfl, rfl, hle⟩

theorem Gate.page_ne_empty (time repository : String) (passed : Bool) (summary : String) (rows : List Gate.CheckRow) :
    Gate.page time repository passed summary rows ≠ "" := by
  intro h
  have hlist := congrArg String.toList h
  unfold Gate.page at hlist
  rw [String.toList_intercalate] at hlist
  cases hlist

theorem Gate.Result.keepsThreshold_iff (result : Gate.Result) :
    (∀ check ∈ result.checks.map Gate.Check.record, check.KeepsThreshold) ↔ result.passed = true := by
  unfold Gate.Result.passed
  rw [List.all_eq_true, List.forall_mem_map]
  exact forall₂_congr fun c _ => c.keepsThreshold_record_iff

theorem RunRow.report_complete (r : RunRow) (result : Gate.Result) {page : String} (hpage : page ≠ "") (now : Moment) :
    (r.complete result page now).report = some page :=
  if_neg (by rwa [String.isEmpty_iff])

theorem RunRow.isFinished_complete (r : RunRow) {result : Gate.Result} (hchecks : result.checks.length = 4)
    {page : String} (hpage : page ≠ "") (now : Moment) : (r.complete result page now).IsFinished where
  completed := rfl
  report := ⟨page, r.report_complete result hpage now, hpage⟩
  status := by
    unfold RunRow.complete
    cases result.passed
    · exact .inr rfl
    · exact .inl rfl
  passed_iff := by
    unfold RunRow.complete
    cases result.passed <;> simp
  length_checks := by
    show (result.checks.map Gate.Check.record).length = 4
    rw [List.length_map, hchecks]
  checks_iff := by
    show some result.passed = some true ↔ ∀ check ∈ result.checks.map Gate.Check.record, check.KeepsThreshold
    rw [Option.some_inj, result.keepsThreshold_iff]

/-! ## One run more -/

namespace Store

variable {s t : Store} {repository : Id} {target : Option Id}

/-- No run has an identifier that is still to be handed out. -/
def HasFreshRuns (s : Store) : Prop := ∀ run ∈ s.runs, ∀ n, s.issued ≤ n → run.id ≠ Id.nth n

/-- The store `t` has one finished run more than `s`, at most one gate more, both of one repository, and is otherwise
the same. A gate is only added where there was none, and it is a standard one. -/
structure AddsRun (s t : Store) (repository : Id) : Prop where
  run : ∃ run n, t.runs = s.runs ++ [run] ∧ run.repositoryId = repository ∧ run.IsFinished ∧
    run.id = Id.nth n ∧ s.issued ≤ n ∧ n < t.issued
  gate : (t.gates = s.gates ∧ (s.gate? repository).isSome) ∨
    (s.gate? repository = none ∧ ∃ id, t.gates = s.gates ++ [⟨id, repository, {}⟩])
  others : { t with runs := s.runs, gates := s.gates, issued := s.issued } = s

/-- The store `t` has one open run more than `s`, of that repository, and is otherwise the same. -/
structure LeavesRun (s t : Store) (repository : Id) : Prop where
  run : ∃ run n, t.runs = s.runs ++ [run] ∧ run.repositoryId = repository ∧ run.IsOpen ∧
    run.id = Id.nth n ∧ s.issued ≤ n ∧ n < t.issued
  others : { t with runs := s.runs, issued := s.issued } = s

theorem leavesRun_startRun (s : Store) (repository : Id) (request : RunRequest) :
    s.LeavesRun (s.startRun repository request) repository :=
  ⟨⟨_, s.issued, rfl, rfl, ⟨rfl, rfl, rfl, rfl⟩, rfl, Nat.le_refl _, Nat.lt_succ_self _⟩, rfl⟩

theorem ensureGate_cases (s : Store) (repository : Id) :
    ((s.gate? repository).isSome ∧ s.ensureGate repository = s) ∨
    (s.gate? repository = none ∧ s.ensureGate repository = s.addGate fun id => ⟨id, repository, {}⟩) := by
  unfold ensureGate
  cases h : s.gate? repository with
  | none => exact .inr ⟨rfl, rfl⟩
  | some g => exact .inl ⟨rfl, rfl⟩

/-- A run with an identifier that no other run has is the only one that is completed. -/
theorem runs_completeRun {old : List RunRow} {run : RunRow} (hruns : s.runs = old ++ [run])
    (hnew : ∀ r ∈ old, r.id ≠ run.id) (result : Gate.Result) (page : String) :
    (s.completeRun run.id result page).runs = old ++ [run.complete result page s.now] := by
  show s.runs.map _ = _
  rw [hruns, List.map_append, List.map_singleton, if_pos rfl]
  congr 1
  refine (List.map_congr_left fun r hr => ?_).trans (List.map_id old)
  rw [if_neg (hnew r hr)]
  rfl

theorem run?_completeRun {old : List RunRow} {run : RunRow} (hruns : s.runs = old ++ [run])
    (hnew : ∀ r ∈ old, r.id ≠ run.id) (result : Gate.Result) (page : String) :
    (s.completeRun run.id result page).run? run.id = some (run.complete result page s.now) := by
  have hid : (run.complete result page s.now).id = run.id := rfl
  rw [run?, runs_completeRun hruns hnew, List.find?_append, List.find?_eq_none.2 fun r hr => by simpa using hnew r hr]
  simp [hid]

/-- A run that was started since, under a new identifier, and for which there is a gate, is completed. -/
theorem addsRun_completeRun {m : Store} {run : RunRow} {n : Nat} (hnew : ∀ r ∈ s.runs, r.id ≠ Id.nth n)
    (hruns : m.runs = s.runs ++ [run]) (hrepository : run.repositoryId = repository) (hid : run.id = Id.nth n)
    (hissued : s.issued ≤ n ∧ n < m.issued)
    (hgate : (m.gates = s.gates ∧ (s.gate? repository).isSome) ∨
      (s.gate? repository = none ∧ ∃ id, m.gates = s.gates ++ [⟨id, repository, {}⟩]))
    (hothers : { m with runs := s.runs, gates := s.gates, issued := s.issued } = s) {result : Gate.Result}
    (hchecks : result.checks.length = 4) {page : String} (hpage : page ≠ "") :
    s.AddsRun (m.completeRun (Id.nth n) result page) repository where
  run := by
    refine ⟨run.complete result page m.now, n, ?_, hrepository,
      run.isFinished_complete hchecks hpage m.now, hid, hissued⟩
    rw [← hid] at hnew ⊢
    exact runs_completeRun hruns hnew result page
  gate := hgate
  others := hothers

theorem addsRun_of_started (hnew : ∀ run ∈ s.runs, run.id ≠ s.nextId) (request : RunRequest) {result : Gate.Result}
    (hchecks : result.checks.length = 4) {page : String} (hpage : page ≠ "") :
    s.AddsRun (((s.startRun repository request).ensureGate repository).completeRun s.nextId result page)
      repository := by
  have hruns : (s.startRun repository request).runs = s.runs ++ [.started repository request s.nextId s.now] := rfl
  rcases (s.startRun repository request).ensureGate_cases repository with ⟨hsome, hstore⟩ | ⟨hnone, hstore⟩
  · rw [hstore]
    exact addsRun_completeRun hnew hruns rfl rfl ⟨Nat.le_refl _, Nat.lt_succ_self _⟩ (.inl ⟨rfl, hsome⟩)
      rfl hchecks hpage
  · rw [hstore]
    exact addsRun_completeRun (m := (s.startRun repository request).addGate _) hnew hruns rfl rfl
      ⟨Nat.le_refl _, Nat.lt_add_of_pos_right Nat.two_pos⟩ (.inr ⟨hnone, _, rfl⟩) rfl hchecks hpage

theorem addsRun_of_checked (hfresh : s.HasFreshRuns) (request : RunRequest) {result : Gate.Result}
    (hchecks : result.checks.length = 4) {page : String} (hpage : page ≠ "") :
    s.AddsRun (((s.ensureGate repository).startRun repository request).completeRun
      (s.ensureGate repository).nextId result page)
      repository := by
  rcases s.ensureGate_cases repository with ⟨hsome, hstore⟩ | ⟨hnone, hstore⟩
  · rw [hstore]
    have hruns : (s.startRun repository request).runs = s.runs ++ [.started repository request s.nextId s.now] := rfl
    exact addsRun_completeRun (fun r hr => hfresh r hr _ (Nat.le_refl _)) hruns rfl rfl
      ⟨Nat.le_refl _, Nat.lt_succ_self _⟩
      (.inl ⟨rfl, hsome⟩) rfl hchecks hpage
  · rw [hstore]
    let m := s.addGate fun id => ⟨id, repository, {}⟩
    have hruns : (m.startRun repository request).runs = s.runs ++ [.started repository request m.nextId m.now] := rfl
    exact addsRun_completeRun (fun r hr => hfresh r hr _ (Nat.le_succ _)) hruns rfl rfl
      ⟨Nat.le_succ _, Nat.lt_succ_self _⟩
      (.inr ⟨hnone, _, rfl⟩) rfl hchecks hpage

/-! ## What a request can do -/

/-- The store `t` has at most one run more than `s`, which is finished if no limit of its repository is missing, and at
most one gate more, which is a standard one of a repository that had none. -/
structure Grows (s t : Store) : Prop where
  runs : t.runs = s.runs ∨ ∃ run n, t.runs = s.runs ++ [run] ∧ ((s.limitsOf run.repositoryId).AreSet → run.IsFinished) ∧
    run.id = Id.nth n ∧ s.issued ≤ n ∧ n < t.issued
  gates : t.gates = s.gates ∨
    ∃ gate, s.gate? gate.repositoryId = none ∧ gate.limits = ({} : GateLimits) ∧ t.gates = s.gates ++ [gate]
  issued : s.issued ≤ t.issued

theorem Grows.refl (s : Store) : s.Grows s := ⟨.inl rfl, .inl rfl, Nat.le_refl _⟩

theorem grows_ensureGate (s : Store) (repository : Id) : s.Grows (s.ensureGate repository) := by
  rcases s.ensureGate_cases repository with ⟨-, hstore⟩ | ⟨hnone, hstore⟩
  · rw [hstore]
    exact .refl s
  · rw [hstore]
    exact ⟨.inl rfl, .inr ⟨_, hnone, rfl, rfl⟩, Nat.le_succ _⟩

theorem AddsRun.grows {s t : Store} {repository : Id} (h : s.AddsRun t repository) : s.Grows t := by
  obtain ⟨run, n, hruns, -, hfinished, hid, hfirst, hlast⟩ := h.run
  refine ⟨.inr ⟨run, n, hruns, fun _ => hfinished, hid, hfirst, hlast⟩, ?_, by omega⟩
  rcases h.gate with ⟨hsame, -⟩ | ⟨hnone, id, hgates⟩
  · exact .inl hsame
  · exact .inr ⟨_, hnone, rfl, hgates⟩

theorem LeavesRun.grows {s t : Store} {repository : Id} (h : s.LeavesRun t repository)
    (hset : ¬ (s.limitsOf repository).AreSet) : s.Grows t := by
  obtain ⟨run, n, hruns, rfl, -, hid, hfirst, hlast⟩ := h.run
  exact ⟨.inr ⟨run, n, hruns, fun h => absurd h hset, hid, hfirst, hlast⟩,
    .inl (congrArg Store.gates h.others :), by omega⟩

/-- The store `t` is what `s` has grown to, but for the limits of the repository for which they are set, if any are.
None of those is missing. -/
def Changes (target : Option Id) (s t : Store) : Prop :=
  ∃ m, s.Grows m ∧ (t = m ∨ ∃ id limits, target = some id ∧ limits.AreSet ∧ t = m.updateGate id fun _ => limits)

theorem Grows.changes {s t : Store} (h : s.Grows t) {target : Option Id} : s.Changes target t := ⟨t, h, .inl rfl⟩

theorem gate?_updateGate (s : Store) (repository id : Id) (change : GateLimits → GateLimits) :
    (s.updateGate repository change).gate? id =
      (s.gate? id).map fun g => if g.repositoryId = repository then { g with limits := change g.limits } else g := by
  unfold updateGate gate?
  have hsame : ((fun g : GateRow => g.repositoryId == id) ∘
      fun g => if g.repositoryId = repository then { g with limits := change g.limits } else
      g) = (·.repositoryId == id) := by
    funext g
    simp only [Function.comp_apply]
    split <;> rfl
  rw [List.find?_map, hsame]

theorem ensureGate_updateGate (s : Store) (repository : Id) (change : GateLimits → GateLimits) :
    ((s.ensureGate repository).updateGate repository change).ensureGate repository =
      (s.ensureGate repository).updateGate repository change := by
  obtain ⟨g, hgate, -⟩ := s.gate?_ensureGate repository
  rcases ((s.ensureGate repository).updateGate repository change).ensureGate_cases repository with
    ⟨-, hstore⟩ | ⟨hnone, -⟩
  · exact hstore
  · rw [gate?_updateGate, hgate] at hnone
    cases hnone

/-! ## What stays -/

/-- The store `t` has all runs of `s`, and the gates of the repositories that are `left` alone. -/
structure Continues (left : Id → Prop) (s t : Store) : Prop where
  runs : s.runs <+: t.runs
  gate : ∀ id, left id → ∀ g, s.gate? id = some g → t.gate? id = some g
  limits : ∀ id, left id → t.limitsOf id = s.limitsOf id

theorem limitsOf_eq {id : Id} (h : t.gate? id = s.gate? id) : t.limitsOf id = s.limitsOf id := by
  unfold limitsOf
  rw [h]

theorem Grows.continues (h : s.Grows t) : s.Continues (fun _ => True) t := by
  have hruns : s.runs <+: t.runs := by
    rcases h.runs with hsame | ⟨run, n, hruns, -⟩
    · exact ⟨[], by rw [hsame, List.append_nil]⟩
    · exact ⟨[run], hruns.symm⟩
  rcases h.gates with hsame | ⟨gate, hnone, hlimits, hgates⟩
  · have hgate : ∀ id, t.gate? id = s.gate? id := fun id => by rw [gate?, hsame]; rfl
    exact ⟨hruns, fun id _ g hg => (hgate id).trans hg, fun id _ => limitsOf_eq (hgate id)⟩
  · have hgate : ∀ id, t.gate? id = (s.gate? id).or ([gate].find? (·.repositoryId == id)) := fun id => by
      rw [gate?, hgates, List.find?_append]
      rfl
    refine ⟨hruns, fun id _ g hg => ?_, fun id _ => ?_⟩
    · rw [hgate, hg, Option.some_or]
    · by_cases hid : gate.repositoryId = id
      -- a repository without a gate has the standard limits, and so has the new gate
      · subst hid
        unfold limitsOf
        rw [hgate, hnone, Option.none_or, List.find?_singleton, beq_self_eq_true]
        exact hlimits
      · refine limitsOf_eq ?_
        rw [hgate, List.find?_singleton, beq_eq_false_iff_ne.2 hid]
        exact Option.or_none

theorem continues_updateGate (s : Store) (id : Id) (change : GateLimits → GateLimits) :
    s.Continues (fun i => i ≠ id) (s.updateGate id change) := by
  have hgate : ∀ i, i ≠ id → (s.updateGate id change).gate? i = s.gate? i := by
    intro i hi
    rw [gate?_updateGate]
    cases hg : s.gate? i with
    | none => rfl
    | some g =>
      have hrepository : g.repositoryId = i := beq_iff_eq.1 (List.find?_some hg :)
      rw [Option.map_some, if_neg (hrepository ▸ hi)]
  exact ⟨List.prefix_refl _, fun i hi g hg => (hgate i hi).trans hg, fun i hi => limitsOf_eq (hgate i hi)⟩

theorem Continues.trans {left right : Id → Prop} {m : Store} (h : s.Continues left m) (h' : m.Continues right t) :
    s.Continues (fun id => left id ∧ right id) t where
  runs := h.runs.trans h'.runs
  gate id hid g hg := h'.gate id hid.2 g (h.gate id hid.1 g hg)
  limits id hid := (h'.limits id hid.2).trans (h.limits id hid.1)

theorem Continues.mono {left right : Id → Prop} (h : s.Continues left t) (hle : ∀ id, right id → left id) :
    s.Continues right t :=
  ⟨h.runs, fun id hid => h.gate id (hle id hid), fun id hid => h.limits id (hle id hid)⟩

theorem Changes.continues (h : s.Changes target t) : s.Continues (fun id => target ≠ some id) t := by
  obtain ⟨m, hgrows, rfl | ⟨i, limits, rfl, -, rfl⟩⟩ := h
  · exact hgrows.continues.mono fun _ _ => trivial
  · refine (hgrows.continues.trans (m.continues_updateGate i fun _ => limits)).mono fun id hid => ⟨trivial, ?_⟩
    rintro rfl
    exact hid rfl

/-! ## Order -/

/-- What holds of the runs and the gates of a store, if no limit is missing for the repositories that are `whole`. -/
structure IsOrderly (whole : Id → Prop) (s : Store) : Prop where
  fresh : s.HasFreshRuns
  limits : ∀ id, whole id → (s.limitsOf id).AreSet
  finished : ∀ run ∈ s.runs, whole run.repositoryId → run.IsFinished
  gates : (s.gates.map (·.repositoryId)).Nodup

theorem Grows.mem_runs (h : s.Grows t) {run : RunRow} (hrun : run ∈ t.runs) : run ∈ s.runs ∨
    (((s.limitsOf run.repositoryId).AreSet → run.IsFinished) ∧ ∃ n, run.id = Id.nth n ∧ n < t.issued) := by
  rcases h.runs with hsame | ⟨new, n, hruns, hfinished, hid, -, hn⟩
  · exact .inl (hsame ▸ hrun)
  · rcases List.mem_append.1 (hruns ▸ hrun) with hrun | hrun
    · exact .inl hrun
    · obtain rfl := List.mem_singleton.1 hrun
      exact .inr ⟨hfinished, n, hid, hn⟩

theorem Grows.isOrderly {whole : Id → Prop} (h : s.Grows t) (hs : s.IsOrderly whole) : t.IsOrderly whole where
  fresh := by
    intro run hrun n hn
    rcases h.mem_runs hrun with hold | ⟨-, m, hid, hm⟩
    · exact hs.fresh run hold n (Nat.le_trans h.issued hn)
    · rw [hid, Ne, Id.nth_inj]
      omega
  limits id hid := h.continues.limits id trivial ▸ hs.limits id hid
  finished := by
    intro run hrun hwhole
    rcases h.mem_runs hrun with hold | ⟨hfinished, -⟩
    · exact hs.finished run hold hwhole
    · exact hfinished (hs.limits _ hwhole)
  gates := by
    rcases h.gates with hsame | ⟨gate, hnone, -, hgates⟩
    · exact hsame ▸ hs.gates
    · rw [hgates, List.map_append, List.map_singleton, List.nodup_append]
      refine ⟨hs.gates, List.pairwise_singleton _ _, ?_⟩
      -- the new gate is for a repository under which none was found
      intro i hi j hj
      obtain ⟨g, hg, rfl⟩ := List.mem_map.1 hi
      rw [List.mem_singleton.1 hj]
      exact fun hsame => absurd (beq_iff_eq.2 hsame) (List.find?_eq_none.1 hnone g hg)

theorem isOrderly_updateGate {whole : Id → Prop} (hs : s.IsOrderly whole) (id : Id) {limits : GateLimits}
    (hset : limits.AreSet) : (s.updateGate id fun _ => limits).IsOrderly whole where
  fresh := hs.fresh
  limits := by
    intro i hi
    have hold := hs.limits i hi
    unfold limitsOf at hold ⊢
    rw [gate?_updateGate]
    cases hgate : s.gate? i with
    | none => exact GateLimits.areSet_standard
    | some g =>
      rw [hgate] at hold
      rw [Option.map_some, Option.map_some, Option.getD_some]
      split
      · exact hset
      · exact hold
  finished := hs.finished
  gates := by
    have hsame : (s.updateGate id fun _ => limits).gates.map (·.repositoryId) = s.gates.map (·.repositoryId) := by
      unfold updateGate
      rw [List.map_map]
      refine List.map_congr_left fun g _ => ?_
      simp only [Function.comp_apply]
      split <;> rfl
    rw [hsame]
    exact hs.gates

theorem Changes.isOrderly {whole : Id → Prop} (h : s.Changes target t) (hs : s.IsOrderly whole) :
    t.IsOrderly whole := by
  obtain ⟨m, hgrows, rfl | ⟨id, limits, -, hset, rfl⟩⟩ := h
  · exact hgrows.isOrderly hs
  · exact isOrderly_updateGate (hgrows.isOrderly hs) id hset

end Store

end CodeSurvey
