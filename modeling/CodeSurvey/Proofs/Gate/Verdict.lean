/-
What the verdict of a quality gate rests on. A gate has seven limits, but a check looks at four of them, which must not
be missing: the numbers of code smells and of security issues (`passed_iff_of_checkGate`). Neither the complexity of the
symbols nor the latest snapshot takes part in it, nor do the limits set for them (`checkGate_congr`). So a repository
passes with all its limits kept exactly if those that are not looked at happen to be kept
(`checkGate_rests_on_findings`).
-/
import CodeSurvey.Api.Gates
import CodeSurvey.Api.Upload
import CodeSurvey.Proofs.Api.Answering
import Mathlib.Data.List.Basic

namespace CodeSurvey

def Store.latestSnapshot? (s : Store) (r : Id) : Option SnapshotRow := (latestFirst (·.created) (s.snapshotsOf r)).head?

namespace GateLimits

/-- None of the limits for the numbers of findings is missing. -/
structure AreSet (l : GateLimits) : Prop where
  smells : l.smells.isSome
  criticalSmells : l.criticalSmells.isSome
  vulnerabilities : l.vulnerabilities.isSome
  criticalVulnerabilities : l.criticalVulnerabilities.isSome

structure AdmitsFindings (l : GateLimits) (s : Store) (r : Id) : Prop where
  smells : ∀ most ∈ l.smells, (s.smellsOf r).length ≤ most
  criticalSmells : ∀ most ∈ l.criticalSmells, (s.smellsOf r).countP (·.severity == .critical) ≤ most
  vulnerabilities : ∀ most ∈ l.vulnerabilities, (s.vulnerabilitiesOf r).length ≤ most
  criticalVulnerabilities : ∀ most ∈ l.criticalVulnerabilities,
    (s.vulnerabilitiesOf r).countP (·.severity == "critical") ≤ most

/-- The limits for the code itself are kept: by every symbol of known complexity, and by the latest snapshot if there is
one. -/
structure AdmitsCode (l : GateLimits) (s : Store) (r : Id) : Prop where
  complexity : ∀ p ∈ s.symbolsOf r, ∀ c, p.1.complexity = some c → ∀ most ∈ l.complexity, c ≤ most
  qualityScore : ∀ p, s.latestSnapshot? r = some p → ∀ least ∈ l.qualityScore, least ≤ p.figures.qualityScore
  duplicationPercentage : ∀ p, s.latestSnapshot? r = some p →
    ∀ most ∈ l.duplicationPercentage, p.figures.duplicationPercentage ≤ most

theorem areSet_standard : ({} : GateLimits).AreSet := ⟨rfl, rfl, rfl, rfl⟩

end GateLimits

namespace Store

variable {s t : Store} {r : Id}

/-! ## The gate that is checked -/

theorem gate?_ensureGate (s : Store) (r : Id) : ∃ g, (s.ensureGate r).gate? r = some g ∧ g.limits = s.limitsOf r := by
  unfold ensureGate limitsOf
  cases h : s.gate? r with
  | some g => exact ⟨g, h, rfl⟩
  | none =>
    refine ⟨⟨s.nextId, r, {}⟩, ?_, rfl⟩
    unfold gate? at h
    simp [gate?, addGate, h]

theorem limitsOf_ensureGate (s : Store) (r : Id) : (s.ensureGate r).limitsOf r = s.limitsOf r := by
  obtain ⟨g, hgate, hlimits⟩ := s.gate?_ensureGate r
  rw [limitsOf, hgate, Option.map_some, Option.getD_some, hlimits]

/-- Only the numbers of findings, their limits and the order to block take part in a check. -/
theorem checkGate_congr (hsmells : t.smellsOf r = s.smellsOf r)
    (hissues : t.vulnerabilitiesOf r = s.vulnerabilitiesOf r) (hlimits : ∃ complexity score duplication, t.limitsOf r =
      { s.limitsOf r with complexity := complexity, qualityScore := score, duplicationPercentage := duplication }) :
    t.checkGate r = s.checkGate r := by
  obtain ⟨complexity, score, duplication, hlimits⟩ := hlimits
  unfold checkGate
  rw [hsmells, hissues, hlimits]

theorem checkGate_ensureGate (s : Store) (r : Id) : (s.ensureGate r).checkGate r = s.checkGate r := by
  have hrows : (s.ensureGate r).smellsOf r = s.smellsOf r ∧
      (s.ensureGate r).vulnerabilitiesOf r = s.vulnerabilitiesOf r := by
    unfold ensureGate
    split <;> exact ⟨rfl, rfl⟩
  exact checkGate_congr hrows.1 hrows.2 ⟨_, _, _, s.limitsOf_ensureGate r⟩

theorem checkGate_eq_some_iff {result : Gate.Result} : s.checkGate r = some result ↔
    ∃ smells ∈ (s.limitsOf r).smells, ∃ criticalSmells ∈ (s.limitsOf r).criticalSmells,
      ∃ issues ∈ (s.limitsOf r).vulnerabilities, ∃ criticalIssues ∈ (s.limitsOf r).criticalVulnerabilities,
        ⟨[⟨"Code Smells", (s.smellsOf r).length, smells⟩,
          ⟨"Critical Smells", ((s.smellsOf r).filter (·.severity == .critical)).length, criticalSmells⟩,
          ⟨"Vulnerabilities", (s.vulnerabilitiesOf r).length, issues⟩,
          ⟨"Critical Vulnerabilities", ((s.vulnerabilitiesOf r).filter (·.severity == "critical")).length,
            criticalIssues⟩],
          (s.limitsOf r).blocks.getD false⟩ = result := by
  unfold checkGate
  simp only [Option.bind_eq_bind, Option.bind_eq_some_iff, Option.pure_def, Option.some_inj, Option.mem_def]

theorem isSome_checkGate_iff : (s.checkGate r).isSome ↔ (s.limitsOf r).AreSet := by
  rw [Option.isSome_iff_exists]
  constructor
  · rintro ⟨result, hresult⟩
    obtain ⟨a, ha, b, hb, c, hc, d, hd, -⟩ := checkGate_eq_some_iff.1 hresult
    exact ⟨Option.isSome_of_mem ha, Option.isSome_of_mem hb, Option.isSome_of_mem hc, Option.isSome_of_mem hd⟩
  · rintro ⟨ha, hb, hc, hd⟩
    exact ⟨_, checkGate_eq_some_iff.2 ⟨_, Option.get_mem ha, _, Option.get_mem hb, _, Option.get_mem hc, _,
      Option.get_mem hd, rfl⟩⟩

theorem checkGate_eq_none_iff : s.checkGate r = none ↔ ¬ (s.limitsOf r).AreSet := by
  rw [← isSome_checkGate_iff, Option.not_isSome_iff_eq_none]

theorem length_checks_of_checkGate {result : Gate.Result} (h : s.checkGate r = some result) :
    result.checks.length = 4 := by
  obtain ⟨_, -, _, -, _, -, _, -, rfl⟩ := checkGate_eq_some_iff.1 h
  rfl

theorem passed_iff_of_checkGate {result : Gate.Result} (h : s.checkGate r = some result) :
    result.passed = true ↔ (s.limitsOf r).AdmitsFindings s r := by
  obtain ⟨a, ha, b, hb, c, hc, d, hd, rfl⟩ := checkGate_eq_some_iff.1 h
  simp only [Gate.Result.passed, List.all_cons, List.all_nil, Bool.and_true, Bool.and_eq_true, Gate.Check.passed,
    decide_eq_true_eq, ← List.countP_eq_length_filter]
  constructor
  · rintro ⟨hsmells, hcritical, hissues, hcriticalIssues⟩
    exact ⟨fun _ h => Option.mem_unique ha h ▸ hsmells, fun _ h => Option.mem_unique hb h ▸ hcritical,
      fun _ h => Option.mem_unique hc h ▸ hissues, fun _ h => Option.mem_unique hd h ▸ hcriticalIssues⟩
  · exact fun h => ⟨h.smells a ha, h.criticalSmells b hb, h.vulnerabilities c hc, h.criticalVulnerabilities d hd⟩

theorem blocksMerge_iff_of_checkGate {result : Gate.Result} (h : s.checkGate r = some result) :
    result.blocksMerge = true ↔ result.passed = false ∧ (s.limitsOf r).blocks = some true := by
  obtain ⟨_, -, _, -, _, -, _, -, rfl⟩ := checkGate_eq_some_iff.1 h
  rw [Gate.Result.blocksMerge, Bool.and_eq_true, Bool.not_eq_true', and_comm]
  refine and_congr_right fun _ => ?_
  cases (s.limitsOf r).blocks <;> simp

/-- A repository without a gate has the standard limits, so it has a gate if some are missing. -/
theorem ensureGate_of_not_areSet (h : ¬ (s.limitsOf r).AreSet) : s.ensureGate r = s := by
  unfold limitsOf at h
  unfold ensureGate
  cases hgate : s.gate? r with
  | some g => rfl
  | none =>
    rw [hgate] at h
    exact absurd GateLimits.areSet_standard h

end Store

theorem GateLimits.not_admitsCode_iff {l : GateLimits} {s : Store} {r : Id} : ¬ l.AdmitsCode s r ↔
    (∃ p ∈ s.symbolsOf r, ∃ c, p.1.complexity = some c ∧ ∃ most ∈ l.complexity, most < c) ∨
    (∃ p, s.latestSnapshot? r = some p ∧ ∃ least ∈ l.qualityScore, ¬ least ≤ p.figures.qualityScore) ∨
    ∃ p, s.latestSnapshot? r = some p ∧ ∃ most ∈ l.duplicationPercentage, ¬ p.figures.duplicationPercentage ≤ most := by
  constructor
  · intro h
    by_contra hnone
    simp only [not_or, not_exists, not_and, Int.not_lt, not_not] at hnone
    exact h ⟨hnone.1, hnone.2.1, hnone.2.2⟩
  · rintro (⟨p, hp, c, hc, most, hmost, hlt⟩ | ⟨p, hp, least, hleast, hscore⟩ | ⟨p, hp, most, hmost, hduplication⟩) h
    · exact absurd (h.complexity p hp c hc most hmost) (Int.not_le.2 hlt)
    · exact hscore (h.qualityScore p hp least hleast)
    · exact hduplication (h.duplicationPercentage p hp most hmost)

theorem exists_run_gateOf (v : Service) (r : Id) :
    ∃ g, (Api.gateOf r).run v = (.ok g, { v with store := v.store.ensureGate r }) := by
  obtain ⟨g, hgate, -⟩ := v.store.gate?_ensureGate r
  have hcommit : (Answering.commit fun s => s.ensureGate r).run v =
      (.ok (), { v with store := v.store.ensureGate r }) := rfl
  refine ⟨g, ?_⟩
  unfold Api.gateOf
  rw [Answering.run_bind_ok hcommit, Answering.run_bind_ok (Answering.run_store _), hgate]
  rfl

theorem run_checkGate (v : Service) (r : Id) : (Api.checkGate r).run v =
    ((v.store.checkGate r).elim (.error (.broken .wrongType)) .ok, { v with store := v.store.ensureGate r }) := by
  obtain ⟨g, hof⟩ := exists_run_gateOf v r
  unfold Api.checkGate
  rw [Answering.run_bind_ok hof, Answering.run_bind_ok (Answering.run_store _), v.store.checkGate_ensureGate r]
  cases v.store.checkGate r <;> rfl

theorem run_checkGate_of_some {v : Service} {r : Id} {result : Gate.Result} (h : v.store.checkGate r = some result) :
    (Api.checkGate r).run v = (.ok result, { v with store := v.store.ensureGate r }) := by
  rw [run_checkGate, h]
  rfl

theorem run_checkGate_of_not_areSet {v : Service} {r : Id} (h : ¬ (v.store.limitsOf r).AreSet) :
    (Api.checkGate r).run v = (.error (.broken .wrongType), v) := by
  rw [run_checkGate, Store.checkGate_eq_none_iff.2 h, Store.ensureGate_of_not_areSet h]
  rfl

/-- A check breaks off if a limit for the numbers of findings is missing, and nothing is changed. Otherwise it has a
result, and makes a standard gate for a repository without one. The repository passes exactly if it keeps the four
limits for the numbers of its findings, and a merge is blocked exactly if it does not pass and the gate is to block. So
it passes with some limit broken exactly if those four are kept and the limit for complexity, for the quality score or
for duplications is not: these three and what they are about can be changed at will without a change of the result. -/
theorem checkGate_rests_on_findings (v : Service) (r : Id) :
    let limits := v.store.limitsOf r
    (¬ limits.AreSet → (Api.checkGate r).run v = (.error (.broken .wrongType), v)) ∧
    (limits.AreSet → ∃ result, (Api.checkGate r).run v = (.ok result, { v with store := v.store.ensureGate r }) ∧
      (result.passed = true ↔ limits.AdmitsFindings v.store r) ∧
      (result.blocksMerge = true ↔ result.passed = false ∧ limits.blocks = some true) ∧
      (result.passed = true ∧ ¬ (limits.AdmitsFindings v.store r ∧ limits.AdmitsCode v.store r) ↔
        limits.AdmitsFindings v.store r ∧
          ((∃ p ∈ v.store.symbolsOf r, ∃ c, p.1.complexity = some c ∧ ∃ most ∈ limits.complexity, most < c) ∨
            (∃ p, v.store.latestSnapshot? r = some p ∧ ∃ least ∈ limits.qualityScore,
              ¬ least ≤ p.figures.qualityScore) ∨
            ∃ p, v.store.latestSnapshot? r = some p ∧
              ∃ most ∈ limits.duplicationPercentage, ¬ p.figures.duplicationPercentage ≤ most)) ∧
      ∀ w : Service, w.store.smellsOf r = v.store.smellsOf r →
      w.store.vulnerabilitiesOf r = v.store.vulnerabilitiesOf r →
        (∃ complexity score duplication, w.store.limitsOf r = { limits with
          complexity := complexity, qualityScore := score, duplicationPercentage := duplication }) →
        ((Api.checkGate r).run w).1 = .ok result) := by
  intro limits
  refine ⟨run_checkGate_of_not_areSet, fun hset => ?_⟩
  obtain ⟨result, hresult⟩ := Option.isSome_iff_exists.1 (Store.isSome_checkGate_iff.2 hset)
  have hpassed := Store.passed_iff_of_checkGate hresult
  refine ⟨result, run_checkGate_of_some hresult, hpassed, Store.blocksMerge_iff_of_checkGate hresult, ?_, ?_⟩
  · rw [hpassed, ← GateLimits.not_admitsCode_iff]
    exact and_congr_right fun hfindings => not_congr (and_iff_right hfindings)
  · intro w hsmells hissues hlimits
    rw [run_checkGate w r, Store.checkGate_congr hsmells hissues hlimits, hresult]
    rfl

/-- A snapshot of low quality with many duplications. -/
def SnapshotRow.poor : Id → Moment → SnapshotRow := fun id now =>
  ⟨id, some (Id.nth 0), { qualityScore := 12, duplicationPercentage := 35 }, .null, now⟩

/-- A repository with one symbol of high complexity and a poor snapshot. -/
def Store.tangled : Store :=
  let s := ({} : Store).addRepository (RepositoryRow.blank "tool")
  let s := s.addFile fun id now => ⟨id, Id.nth 0, "a.py", "python", 20, none, now⟩
  let s := s.addSymbols [fun id now =>
    { id := id, fileId := Id.nth 1, name := "f", kind := .function, lineStart := 1, lineEnd := some 20,
      signature := none, complexity := some 50, maintainability := none, codeLines := none, commentLines :=
        none, docstring := none,
      hasDocstring := false, docstringLength := none, created := now }]
  s.addSnapshot .poor

/-- It passes the standard gate and no merge is blocked, although none of the three limits for its code is kept; and it
passes with the strictest of these limits as well. -/
theorem checkGate_rests_on_findings_tangled :
    ∃ result w, (Api.checkGate (Id.nth 0)).run (.idle .tangled) = (.ok result, w) ∧ result.passed = true ∧
      result.blocksMerge = false ∧
      (∃ p ∈ Store.tangled.symbolsOf (Id.nth 0), ∃ c, p.1.complexity = some c ∧
        ∃ most ∈ ({} : GateLimits).complexity, most < c) ∧
      (∃ p, Store.tangled.latestSnapshot? (Id.nth 0) = some p ∧
        (∃ least ∈ ({} : GateLimits).qualityScore, ¬ least ≤ p.figures.qualityScore) ∧
        ∃ most ∈ ({} : GateLimits).duplicationPercentage, ¬ p.figures.duplicationPercentage ≤ most) ∧
      ¬ ({} : GateLimits).AdmitsCode .tangled (Id.nth 0) ∧
      ((Api.checkGate (Id.nth 0)).run (.idle (Store.tangled.addGate fun id =>
        ⟨id, Id.nth 0, { complexity := some 0, qualityScore := some 100, duplicationPercentage := some 0 }⟩))).1 =
          .ok result := by
  obtain ⟨result, hrun, hpassed, hblocks, hbroken, hsame⟩ :=
    (checkGate_rests_on_findings (.idle .tangled) (Id.nth 0)).2 GateLimits.areSet_standard
  have hfindings : ({} : GateLimits).AdmitsFindings .tangled (Id.nth 0) := by constructor <;> rintro most ⟨⟩ <;> decide
  have hpass : result.passed = true := hpassed.2 hfindings
  have hcomplex : ∃ p ∈ Store.tangled.symbolsOf (Id.nth 0), ∃ c, p.1.complexity = some c ∧
      ∃ most ∈ ({} : GateLimits).complexity, most < c := ⟨_, List.mem_cons_self, 50, rfl, 10, rfl, by decide⟩
  have hlatest : Store.tangled.latestSnapshot? (Id.nth 0) = some (.poor (Id.nth 3) (Store.momentOf 3)) := by
    have hsnapshots : Store.tangled.snapshotsOf (Id.nth 0) = [.poor (Id.nth 3) (Store.momentOf 3)] := rfl
    rw [Store.latestSnapshot?, hsnapshots, latestFirst, List.mergeSort_singleton]
    rfl
  refine ⟨result, _, hrun, hpass, ?_, hcomplex, ⟨_, hlatest, ⟨70, rfl, by decide⟩, 10, rfl, by decide⟩, ?_, ?_⟩
  · rw [← Bool.not_eq_true, hblocks, hpass]
    simp
  · exact fun hcode => (hbroken.2 ⟨hfindings, .inl hcomplex⟩).2 ⟨hfindings, hcode⟩
  · exact hsame _ rfl rfl ⟨some 0, some 100, some 0, rfl⟩

end CodeSurvey
