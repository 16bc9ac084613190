/-
The figures of a repository's security issues. Every issue that a scan writes has one of four severities, and nothing
but a scan writes issues: whatever requests and tasks there are, and however scans overlap, all issues of the store are
of these severities (`isGraded_of_reached`). So the figures that different requests give of a repository agree
(`security_figures_agree`).
-/
import CodeSurvey.Proofs.Api.Keeping
import CodeSurvey.Proofs.CallGraph.Records
import CodeSurvey.Proofs.Security.Overlap
import CodeSurvey.Scenario.Step
import Mathlib.Algebra.BigOperators.Group.List.Basic

namespace CodeSurvey

/-! ## What changes rows -/

/-- The severities that issues are counted by. -/
def severities : List String := ["critical", "high", "medium", "low"]

/-- Every security issue has one of the severities that are counted. -/
def Store.IsGraded (s : Store) : Prop := ∀ v ∈ s.vulnerabilities, v.severity ∈ severities

namespace Store.IsGraded

variable {s : Store}

theorem ensureGate (h : s.IsGraded) (id : Id) : (s.ensureGate id).IsGraded := by
  unfold Store.ensureGate
  split
  · exact h
  · exact h

theorem scanSmells (h : s.IsGraded) (id : Id) (files : List (FileRow × List Char)) :
    (s.scanSmells id files).IsGraded := by
  unfold Store.scanSmells
  split
  · exact h
  · split
    · exact h
    · dsimp only
      split
      · exact h
      · exact h

theorem scanDuplications (h : s.IsGraded) (id : Id) (files : List (FileRow × List Char)) :
    (s.scanDuplications id files).IsGraded := by
  unfold Store.scanDuplications
  split
  · exact h
  · exact h

theorem extractCalls (h : s.IsGraded) (id : Id) : (s.extractCalls id).2.IsGraded := by
  unfold Store.extractCalls
  split
  · exact h
  · split
    · exact h
    · dsimp only
      split
      · exact h
      · exact h

theorem parse (h : s.IsGraded) (id : Id) (trees : List (String × SyntaxTree)) (files : List SourceFile) :
    (s.parse id trees files).2.IsGraded := by
  have hkept : ∀ (read : List (SourceFile × List (Symbol × Option (List Char)))) (s : Store), s.IsGraded →
      (s.keepSources id read).IsGraded := by
    intro read
    induction read with
    | nil => exact fun _ h => h
    | cons f read ih => exact fun s h => ih (s.keepSource id f.1 f.2) h
  exact hkept _ s h

theorem keepMetadata? (h : s.IsGraded) {t : Store} {id : Id} {m : GitHub.Metadata}
    (ht : s.keepMetadata? id m = some t) :
    t.IsGraded := by
  unfold Store.keepMetadata? at ht
  split at ht
  · cases ht
  · split at ht
    · cases ht
      exact h
    · cases ht

theorem keepBatch (h : s.IsGraded) (file : Option Id) (batch : List Symbol) : (s.keepBatch file batch).IsGraded := by
  unfold Store.keepBatch
  split
  · exact h
  · exact h

/-- Taking rows away leaves those that are graded. -/
theorem removeRepository (h : s.IsGraded) (id : Id) : (s.removeRepository id).IsGraded :=
  fun v hv => h v (List.mem_filter.1 hv).1

theorem clearVulnerabilities (h : s.IsGraded) (id : Id) : (s.clearVulnerabilities id).IsGraded :=
  fun v hv => h v (List.mem_filter.1 hv).1

theorem addIssues (h : s.IsGraded) (drafts : List (Id → Moment → VulnerabilityRow))
    (hdrafts : ∀ make ∈ drafts, ∀ id now, (make id now).severity ∈ severities) :
    (s.addVulnerabilities drafts).IsGraded :=
  fun v hv =>
    (List.mem_append.1 hv).elim (h v) (forall_mem_numbered (P := fun row => row.severity ∈ severities) hdrafts v)

theorem scanSecurity (h : s.IsGraded) (id : Id) : (s.scanSecurity id).IsGraded := by
  refine h.addIssues _ fun make hmake i now => ?_
  obtain ⟨f, -, hmake⟩ := List.mem_flatMap.1 hmake
  unfold issueDrafts at hmake
  split at hmake
  · obtain ⟨issue, -, rfl⟩ := List.mem_map.1 hmake
    show issue.weakness.severity ∈ severities
    cases issue.weakness <;> decide
  · cases hmake

/-- Rows of all other tables can be added. -/
theorem enter (h : s.IsGraded) {t : Table} (ht : t ≠ .vulnerability) (row : Json) : (s.enter t row).IsGraded := by
  have hone {α : Type} (add : α → Store) (o : Option α) (hadd : ∀ a, (add a).IsGraded) :
      ((o.map add).getD s).IsGraded := by
    cases o with
    | none => exact h
    | some a => exact hadd a
  cases t with
  | vulnerability => exact absurd rfl ht
  | snapshot => exact h
  | _ => exact hone _ _ fun _ => h

end Store.IsGraded

namespace Work.Keeps

variable (id : Id)

theorem scanSmells : Keeps Store.IsGraded (scanSmells id) := .bind_get fun _ _ => .commit fun _ h => h.scanSmells id _

theorem scanDuplications : Keeps Store.IsGraded (scanDuplications id) :=
  .bind_get fun _ _ => .commit fun _ h => h.scanDuplications id _

theorem embedRepository : Keeps Store.IsGraded (embedRepository id) := by
  refine .bind_get fun _ _ => .ite (.ok _) (.ite (.ok _) (.ite (.ok _) (.bind (.withAi _) fun _ => ?_)))
  split
  · exact .ok _
  · exact .bind (.commit fun _ h => h) fun _ => .ok _

theorem afterParse : Keeps Store.IsGraded (afterParse id) :=
  .bind (.commit fun _ h => h.extractCalls id) fun _ => .bind_get fun _ _ =>
    .ite (.bind (.embedRepository id) fun _ => .ok _) (.ok _)

theorem parseRepository (archive : Option Archive) (trees : List (String × SyntaxTree)) :
    Keeps Store.IsGraded (parseRepository id archive trees) := by
  refine .bind_current fun _ _ => .ite (.ok _) (.bind (.commit fun _ h => h) fun _ => ?_)
  split
  · exact .bind (.commit fun _ h => h) fun _ => .ok _
  · refine .bind_get fun _ _ => .bind (.disk _) fun _ => ?_
    split
    · exact .bind (.commit fun _ h => h) fun _ => .ok _
    · exact .bind_current fun _ hs => .bind (.commit fun _ _ => hs.parse id trees _) fun _ => .bind (.afterParse id)
        fun _ => .ok _

theorem learn (token : Option String) (owner name : String) : Keeps Store.IsGraded (learn id token owner name) := by
  refine .bind_get fun _ _ => .bind (.withWeb _) fun _ => ?_
  split
  · exact .ok _
  · refine .bind_current fun s hs => ?_
    split
    next t ht => exact .bind (.commit fun _ _ => hs.keepMetadata? ht) fun _ => .ok _
    next => exact .ok _

theorem fetchAndParse (order : ImportOrder) (owner name : String) :
    Keeps Store.IsGraded (fetchAndParse id order owner name) := by
  refine .bind_get fun _ _ => .ite (.bind (.commit fun _ h => h) fun _ => .ok _) (.bind (.withGit _) fun _ => ?_)
  split
  · exact .bind (.commit fun _ h => h) fun _ => .ok _
  · exact .ite (.bind (.commit fun _ h => h) fun _ => .ok _) (.bind (.commit fun _ h => h) fun _ =>
      .bind (.parseRepository id ..) fun _ => .ok _)

theorem importRepository (order : ImportOrder) : Keeps Store.IsGraded (importRepository id order) := by
  refine .bind_current fun _ _ => .ite (.ok _) (.bind (.commit fun _ h => h) fun _ => ?_)
  split
  · exact .bind (.commit fun _ h => h) fun _ => .ok _
  · exact .bind (.learn id ..) fun _ => .ite (.fetchAndParse id ..) (.ok _)

theorem parseLargeFile (file : Option Id) (path : List Char) (bytes : Option (List UInt8)) (tree : Option SyntaxTree) :
    Keeps Store.IsGraded (parseLargeFile file path bytes tree) :=
  .bind (.forIn (fun _ _ => .bind (.commit fun _ h => h.keepBatch file _) fun _ => .ok _) _) fun _ => .ok _

theorem ingestSymbols (symbols : List Symbol) : Keeps Store.IsGraded (ingestSymbols id symbols) := by
  induction symbols with
  | nil => exact .ok _
  | cons y rest ih =>
    refine .bind_get fun _ _ => .bind (.withAi _) fun _ => ?_
    split
    · exact .ok _
    · exact .bind (.commit fun _ h => h) fun _ => ih

theorem ingestFile (f : List (List Char) × List UInt8) : Keeps Store.IsGraded (ingestFile id f) := by
  refine .bind_current fun _ _ => ?_
  split
  · exact .ok _
  · exact .ingestSymbols _ _

theorem ingest (directory : List (List Char)) (name : Option String) :
    Keeps Store.IsGraded (ingest directory name) := by
  refine .bind_get fun _ _ => ?_
  extract_lets place
  split
  · exact .bind (.commit fun _ h => h) fun _ => .ok _
  · refine .bind (.forIn
      (fun _ _ => .bind (.forIn (fun _ _ => .bind (.ingestFile _ _) fun _ => .ok _) _) fun _ => .ok _) _) fun _ => .ok _

end Work.Keeps

/-! ## All requests -/

namespace Api

open Answering Assistant

theorem keeps_upload (r : Request) : Keeps Store.IsGraded (upload r) := by
  unfold upload
  split
  · exact .guarded <| .bind .settings fun _ => .guarded <| .bind_store fun _ _ => .bind (.commit fun _ h => h) fun _ =>
      .bind (.lift (.parseRepository ..)) fun _ => .bind (.commit fun _ h => h) fun _ => .ok _
  · exact .error _

theorem keeps_importNew (r : Request) : Keeps Store.IsGraded (importNew r) := by
  refine .bind (.record r) fun _ => .bind (.accepted _) fun _ => ?_
  split
  · exact .error _
  · refine .bind_store fun _ _ => ?_
    split
    · exact .bind (.error _) fun _ => .bind (.commit fun _ h => h) fun _ => .bind (.doing (.importRepository ..))
        fun _ => .ok _
    · exact .bind (.commit fun _ h => h) fun _ => .bind (.doing (.importRepository ..)) fun _ => .ok _

theorem keeps_removeHosted (id : String) : Keeps Store.IsGraded (removeHosted id) :=
  .bind (.bind_store fun _ _ => .found ..) fun _ => .bind_get fun _ _ => .guarded <|
    .bind (.commit fun _ h => h.removeRepository _) fun _ => .ok _

theorem keeps_writeDocs (o : DocOrder) : Keeps Store.IsGraded (writeDocs o) :=
  .bind_get fun _ _ => .ite (.ok _) <| .bind (.doing (.withAi _)) fun _ => .bind (.unbroken _) fun _ =>
    .bind (.commit fun _ h => h) fun _ => .ok _

theorem keeps_gateOf (id : Id) : Keeps Store.IsGraded (gateOf id) :=
  .bind (.commit fun _ h => h.ensureGate id) fun _ => .bind_store fun _ _ => .found ..

theorem keeps_checkGate (id : Id) : Keeps Store.IsGraded (checkGate id) := by
  refine .bind (keeps_gateOf id) fun _ => .bind_store fun _ _ => ?_
  split
  · exact .ok _
  · exact .error _

theorem keeps_startRun (id : Id) (request : Store.RunRequest) : Keeps Store.IsGraded (startRun id request) :=
  .bind_store fun _ _ => .bind (.commit fun _ h => h) fun _ => .ok _

theorem keeps_completeRun (row : RepositoryRow) (run : Id) (result : Gate.Result) :
    Keeps Store.IsGraded (completeRun row run result) :=
  .bind_get fun _ _ => .commit fun _ h => h

theorem keeps_runTracked (name : String) {request : Answering Store.RunRequest}
    (hrequest : Keeps Store.IsGraded request)
    (more : Gate.Result → List (String × Json)) : Keeps Store.IsGraded (runTracked name request more) := by
  refine .bind_store fun _ _ => ?_
  split
  · exact .ok _
  · refine .bind hrequest fun _ => .bind (.bind (keeps_startRun ..) fun _ => .bind (keeps_checkGate _) fun _ =>
      .bind (keeps_completeRun ..) fun _ => .ok _) fun _ => .ok _

theorem keeps_githubWebhook (r : Request) : Keeps Store.IsGraded (githubWebhook r) :=
  .bind .settings fun _ => .bind (keeps_checkSignature ..) fun _ => .ite (.ok _) <| .bind (.value r) fun _ =>
    .bind (keeps_payloadField ..) fun _ => .ite (.ok _) <| .bind (keeps_payloadField ..) fun _ =>
    .bind (keeps_payloadField ..) fun _ => .bind (keeps_payloadField ..) fun _ => .bind (keeps_fullName _) fun _ =>
    .bind_get fun _ _ => keeps_runTracked _ (keeps_pullRequest ..) _

theorem keeps_gitlabWebhook (r : Request) : Keeps Store.IsGraded (gitlabWebhook r) :=
  .bind .settings fun _ => .bind (.ite (.error _) (.ok _)) fun _ => .ite (.ok _) <| .bind (.value r) fun _ =>
    .bind (keeps_payloadField ..) fun _ => .bind (keeps_payloadField ..) fun _ => .ite (.ok _) <|
    .bind (keeps_payloadField ..) fun _ => .bind (keeps_payloadField ..) fun _ => .bind (keeps_fullName _) fun _ =>
    .bind_get fun _ _ => keeps_runTracked _ (keeps_mergeRequest ..) _

theorem keeps_notifyChat (r : Request) : Keeps Store.IsGraded (notifyChat r) :=
  .bind (.record r) fun _ => .bind (.accepted _) fun _ => .bind (.accepted _) fun _ => .bind (.accepted _) fun _ =>
    .bind (.repositoryOf _) fun _ => .bind (keeps_checkGate _) fun _ => .bind (.doing (.post _)) fun _ => .ok _

theorem keeps_notifyMail (r : Request) : Keeps Store.IsGraded (notifyMail r) :=
  .bind (.record r) fun _ => .bind (.accepted _) fun _ => .bind (.accepted _) fun _ => .bind (.repositoryOf _) fun _ =>
    .bind (keeps_checkGate _) fun _ => .bind_get fun _ _ => .ite (.ok _) <| .bind (.doing (.send _)) fun _ => .ok _

theorem keeps_scanSecurity (id : String) : Keeps Store.IsGraded (scanSecurity id) :=
  .bind (.repositoryNamed _) fun _ => .bind (.commit fun _ h => h.clearVulnerabilities _) fun _ =>
    .bind (.commit fun _ h => h.scanSecurity _) fun _ => .ok _

theorem keeps_startDuplications (id : String) : Keeps Store.IsGraded (startDuplications id) :=
  .bind (.shaped _) fun _ => .bind (.repositoryOf _) fun _ => .bind (.lift (.scanDuplications _)) fun _ => .ok _

theorem keeps_startSmells (id : String) : Keeps Store.IsGraded (startSmells id) :=
  .bind (.shaped _) fun _ => .bind (.repositoryOf _) fun _ => .bind (.lift (.scanSmells _)) fun _ => .ok _

theorem keeps_autoDocument (r : Request) (id : String) : Keeps Store.IsGraded (autoDocument r id) :=
  .bind (.bind (.shaped _) fun _ => .bind (.limit ..) fun _ => .bind (.repositoryOf _) fun _ =>
    .bind (.rowCount _) fun _ => .ok _) fun _ => keeps_writeDocs _

theorem keeps_createSnapshot (id : String) : Keeps Store.IsGraded (createSnapshot id) :=
  .bind (.shaped _) fun _ => .bind (.repositoryOf _) fun _ => .bind_store fun _ _ =>
    .bind (.commit fun _ h => h) fun _ => .ok _

theorem keeps_fullScan (id : String) : Keeps Store.IsGraded (fullScan id) :=
  .bind (.shaped _) fun _ => .bind (.repositoryOf _) fun _ => .bind (.lift (.scanDuplications _)) fun _ =>
    .bind (.lift (.scanSmells _)) fun _ => .bind (.commit fun _ h => h) fun _ => .ok _

theorem keeps_getGate (id : String) : Keeps Store.IsGraded (getGate id) :=
  .bind (.shaped _) fun _ => .bind (keeps_gateOf _) fun _ => .ok _

theorem keeps_setGate (r : Request) (id : String) : Keeps Store.IsGraded (setGate r id) :=
  .bind (.record r) fun _ => .bind (.accepted _) fun _ => .bind (.shaped _) fun _ => .bind (keeps_gateOf _) fun _ =>
    .bind_get fun _ _ => .guarded <| .bind (.commit fun _ h => h) fun _ => .bind (keeps_gateOf _) fun _ => .ok _

theorem keeps_checkByHand (id : String) : Keeps Store.IsGraded (checkByHand id) :=
  .bind (.shaped _) fun _ => .bind (.repositoryOf _) fun _ => .bind (keeps_checkGate _) fun _ =>
    .bind (keeps_startRun ..) fun _ => .bind (keeps_completeRun ..) fun _ => .ok _

theorem keeps_of_mem_routes : ∀ route ∈ routes, ∀ r args, Keeps Store.IsGraded (route.answer r args) := by
  simp only [routes, List.forall_mem_cons, page, fixed, withId, withFile, List.not_mem_nil, IsEmpty.forall_iff,
    implies_true, and_true,
    keeps_elsewhere, keeps_root, keeps_health, keeps_config,
    keeps_upload, keeps_uploadStatus, keeps_listRepositories, keeps_importPlace, keeps_getRepository,
    keeps_listFiles, keeps_fileContent, keeps_listSymbols,
    keeps_semanticSearch, keeps_similarSymbols, keeps_searchStats,
    keeps_similarCode, keeps_complexFunctions, keeps_dashboard, keeps_hardFunctions,
    keeps_validateAddress, keeps_importNew, keeps_listHosted, keeps_getHosted, keeps_removeHosted, keeps_hostedStats,
    keeps_callGraph, keeps_callStats, keeps_dependencies, keeps_deadCode, keeps_circularCalls,
    keeps_scanSecurity, keeps_listVulnerabilities, keeps_securityStats,
    keeps_explain, keeps_convert, keeps_refactor, keeps_generate, keeps_complete, keeps_assistantStatus,
    keeps_ask, keeps_context,
    keeps_startDuplications, keeps_listDuplications, keeps_startSmells, keeps_listSmells, keeps_listUndocumented,
    keeps_autoDocument, keeps_createSnapshot, keeps_history, keeps_fullScan,
    keeps_githubWebhook, keeps_gitlabWebhook, keeps_getGate, keeps_setGate, keeps_checkByHand,
    keeps_report, keeps_listRuns, keeps_notifyChat, keeps_notifyMail]

end Api

theorem keeps_respond (r : Request) : Work.Keeps Store.IsGraded (respond r) := by
  unfold respond
  split
  · exact .ok _
  · refine .bind ?_ fun _ => .ok _
    unfold Api.answer
    dsimp only
    split
    next route args hfind =>
      have hroute : route ∈ Api.routes := by
        obtain ⟨p, hp, hfit⟩ := List.mem_filterMap.1 (List.mem_of_find?_eq_some hfind)
        obtain ⟨_, -, heq⟩ := Option.map_eq_some_iff.1 hfit
        obtain rfl := congrArg Prod.fst heq
        exact hp
      exact .bind ⟨(Api.keeps_of_mem_routes route hroute _ args).run⟩ fun _ => .ok _
    next => exact .ok _

/-! ## Scenarios -/

namespace Scenario

theorem keeps_parse (repository : String) (archive : Option Archive) (trees : List (String × SyntaxTree)) :
    Work.Keeps Store.IsGraded (parse repository archive trees) :=
  .bind (.parseRepository ..) fun _ => .ok _

theorem keeps_extractCalls (repository : String) : Work.Keeps Store.IsGraded (extractCalls repository) :=
  .bind_current fun _ hs => .bind (.commit fun _ _ => hs.extractCalls _) fun _ => .ok _

theorem keeps_embed (repository : String) : Work.Keeps Store.IsGraded (embed repository) := by
  refine .bind (.embedRepository _) fun _ => ?_
  split
  · exact .ok _
  · exact .ok _

theorem keeps_importFrom (repository : String) (order : ImportOrder) :
    Work.Keeps Store.IsGraded (importFrom repository order) := by
  refine .bind (.importRepository ..) fun _ => ?_
  split
  · exact .bind_current fun _ _ => .ok _
  · exact .ok _

theorem keeps_parseFile (file : Option String) (path : String) (bytes : Option (List UInt8)) :
    Work.Keeps Store.IsGraded (parseFile file path bytes) :=
  .bind (.parseLargeFile ..) fun _ => .ok _

theorem keeps_takeIn (place : List (List Char)) (files : Archive) (name : Option String) :
    Work.Keeps Store.IsGraded (takeIn place files name) :=
  .bind (.disk _) fun _ => .bind (.ingest ..) fun _ => .ok _

theorem store_label (s : Scenario) (name id : Option String) : (s.label name id).service = s.service := by
  unfold label
  split
  · rfl
  · rfl

/-- No step but a row added by hand leaves an issue behind that is not graded. -/
theorem isGraded_step {s : Scenario} (h : s.service.store.IsGraded) {a : Step}
    (ha : ∀ label row, a ≠ .add .vulnerability label row) : (s.step a).2.service.store.IsGraded := by
  cases a with
  | add table label row =>
    show (Scenario.label _ _ _).service.store.IsGraded
    rw [store_label]
    exact h.enter (fun ht => ha label row (ht ▸ rfl)) row
  | request r label statusOnly =>
    show (Scenario.label _ _ _).service.store.IsGraded
    rw [store_label]
    exact (keeps_respond r).run s.service h
  | parse repository archive trees => exact (keeps_parse repository archive trees).run s.service h
  | extractCalls repository => exact (keeps_extractCalls repository).run s.service h
  | embed repository => exact (keeps_embed repository).run s.service h
  | importFrom repository order => exact (keeps_importFrom repository order).run s.service h
  | parseFile file name bytes => exact (keeps_parseFile file (s.directory ++ "/" ++ name) bytes).run s.service h
  | ingest directory files name => exact (keeps_takeIn _ files name).run s.service h
  | _ => exact h

/-- The states that steps lead to from one without security issues, if no issue is added by hand. The two halves of a
scan need not come together: the scan of one request may follow on another request. -/
inductive Reached : Scenario → Prop
  | start {s : Scenario} (h : s.service.store.vulnerabilities = []) : Reached s
  | step {s : Scenario} (h : Reached s) (a : Step) (ha : ∀ label row, a ≠ .add .vulnerability label row) :
    Reached (s.step a).2
  | clear {s : Scenario} (h : Reached s) (id : Id) :
      Reached { s with service := { s.service with store := s.service.store.clearVulnerabilities id } }
  | scan {s : Scenario} (h : Reached s) (id : Id) :
      Reached { s with service := { s.service with store := s.service.store.scanSecurity id } }

theorem isGraded_of_reached {s : Scenario} (h : s.Reached) : s.service.store.IsGraded := by
  induction h with
  | start h => exact fun v hv => absurd (h ▸ hv) List.not_mem_nil
  | step _ a ha ih => exact isGraded_step ih ha
  | clear _ id ih => exact ih.clearVulnerabilities id
  | scan _ id ih => exact ih.scanSecurity id

end Scenario

/-! ## Figures -/

/-- The counts of distinct keys add up to the number of all items if every item is one of the keys. -/
theorem sum_map_count {l keys : List String} (hkeys : keys.Nodup) (h : ∀ a ∈ l, a ∈ keys) :
    (keys.map fun k => l.count k).sum = l.length := by
  induction l with
  | nil => simp
  | cons a l ih =>
    obtain ⟨ha, hl⟩ := List.forall_mem_cons.1 h
    -- the new item is counted under each key that equals it, and there is one such key
    have hone : ∀ keys : List String, (keys.map fun k => if a == k then 1 else 0).sum = keys.count a := by
      intro keys
      induction keys with
      | nil => rfl
      | cons k keys ih =>
        rw [List.map_cons, List.sum_cons, ih, List.count_cons, Nat.add_comm, BEq.comm]
    simp only [List.count_cons]
    rw [List.sum_map_add, ih hl, hone, List.count_eq_one_of_mem hkeys ha, List.length_cons]

namespace Api

/-- A tally has each text once, and its numbers add up to that of the texts. -/
theorem tally_sum (l : List String) : ((tally l).map (·.1)).Nodup ∧ ((tally l).map (·.2)).sum = l.length := by
  have hperm := List.mergeSort_perm l.eraseDups fun a b => !(b < a)
  have hnodup := hperm.nodup_iff.2 (CallGraph.nodup_eraseDups l)
  unfold tally
  rw [List.map_map, List.map_map]
  constructor
  · exact hnodup.map fun _ _ h => h
  · exact sum_map_count hnodup fun a ha => hperm.mem_iff.2 (List.mem_eraseDups.2 ha)

end Api

theorem Store.vulnerabilityCount_eq (s : Store) (id : Id) (severity : String) :
    s.vulnerabilityCount id severity = ((s.vulnerabilitiesOf id).map (·.severity)).count severity := by
  rw [List.count_eq_countP, List.countP_map, List.countP_eq_length_filter]
  rfl

/-- The numbers of issues of the four severities add up to the number of all. -/
theorem Store.IsGraded.sum_vulnerabilityCount {s : Store} (h : s.IsGraded) (id : Id) :
    (severities.map fun severity => s.vulnerabilityCount id severity).sum = (s.vulnerabilitiesOf id).length := by
  simp only [Store.vulnerabilityCount_eq]
  rw [sum_map_count (by decide), List.length_map]
  intro a ha
  obtain ⟨v, hv, rfl⟩ := List.mem_map.1 ha
  exact h v (List.mem_filter.1 hv).1

/-! ## The requests for figures -/

theorem repository?_of_named {s : Store} {id : String} {row : RepositoryRow}
    (h : (Id.ofRegular? id).bind s.repository? = some row) : s.repository? row.id = some row := by
  obtain ⟨i, -, hfind⟩ := Option.bind_eq_some_iff.1 h
  have hid : row.id = i := beq_iff_eq.1 (List.find?_some hfind :)
  rw [hid, hfind]

section Requests

variable {v : Service} {id : String} {row : RepositoryRow}

theorem run_securityStats (hrow : (Id.ofRegular? id).bind v.store.repository? = some row) :
    (Api.securityStats id).run v =
      (.ok (.obj [("repository_id", .str id),
        ("total_vulnerabilities",
          .int (total ((severities.map fun t => (t, v.store.vulnerabilityCount row.id t)).map (·.2)))),
        ("by_severity",
          .obj ((severities.map fun t => (t, v.store.vulnerabilityCount row.id t)).map fun c => (c.1, .int c.2))),
        ("by_type",
          .obj ((Api.tally ((v.store.vulnerabilitiesOf row.id).map (·.kind))).map fun c => (c.1, .int c.2)))]), v) := by
  unfold Api.securityStats
  rw [Answering.run_bind_ok (run_repositoryNamed hrow)]
  rfl

/-- The listing that a request asks for holds the issues, in some order, and gives their number. -/
def Service.Lists (v : Service) (r : Request) (id : String) (issues : List VulnerabilityRow) : Prop :=
  ∃ listing records, (Api.listVulnerabilities r id).run v = (.ok listing, v) ∧
    listing.get? "vulnerabilities" = some (.arr records) ∧ records.Perm (issues.map Api.vulnerabilityRecord) ∧
    listing.get? "total_vulnerabilities" = some (.int issues.length)

theorem lists_of_severity? (hrow : (Id.ofRegular? id).bind v.store.repository? = some row) {r : Request}
    (hkind : r.param? "type" = none) :
    v.Lists r id ((v.store.vulnerabilitiesOf row.id).filter fun i => (r.param? "severity").all (· == i.severity)) := by
  generalize hissues : ((v.store.vulnerabilitiesOf row.id).filter fun i =>
    (r.param? "severity").all (· == i.severity)) = issues
  have hrun : ∃ rows : List VulnerabilityRow, rows.Perm issues ∧ (Api.listVulnerabilities r id).run v =
      (.ok (.obj [("repository_id", .str id), ("total_vulnerabilities", .int rows.length),
        ("vulnerabilities", .arr (rows.map Api.vulnerabilityRecord))]), v) := by
    refine ⟨_, List.mergeSort_perm issues fun a b => Api.severityLe (a.severity, a.created) (b.severity, b.created), ?_⟩
    unfold Api.listVulnerabilities
    rw [Answering.run_bind_ok (run_repositoryNamed hrow), hkind, ← hissues]
    simp only [Option.all_none, Bool.and_true]
    rfl
  obtain ⟨rows, hperm, hrun⟩ := hrun
  exact ⟨_, _, hrun, rfl, hperm.map _, hperm.length_eq ▸ rfl⟩

theorem run_createSnapshot (hrow : v.store.repository? row.id = some row) {text : String}
    (htext : Id.ofText? text.toList = some row.id) :
    ∃ answer, (Api.createSnapshot text).run v = (.ok answer, { v with store := v.store.takeSnapshot row.id }) ∧
      (answer.get? "metrics").bind (·.get? "vulnerabilities") =
        some (.int (v.store.vulnerabilitiesOf row.id).length) := by
  have hid : (idInPath text).run v = (.ok row.id, v) := by
    unfold idInPath
    rw [htext]
    rfl
  have hfound : (repositoryOf row.id).run v = (.ok row, v) := by
    unfold repositoryOf
    rw [Answering.run_bind_ok (Answering.run_store v), hrow]
    rfl
  apply Exists.intro
  constructor
  · unfold Api.createSnapshot
    rw [Answering.run_bind_ok hid, Answering.run_bind_ok hfound]
    rfl
  · rfl

end Requests

/-- In every state that was reached without issues added by hand, the figures of a repository's security issues agree.
Its statistics give the number of its rows, as the sum by severity and as the sum by kind; the listing without filters
has as many entries, and the one for a severity has as many as the statistics say; and a snapshot that is taken then
records the same number. -/
theorem security_figures_agree {s : Scenario} (hs : s.Reached) {id : String} {row : RepositoryRow}
    (hrow : (Id.ofRegular? id).bind s.service.store.repository? = some row) :
    ∃ (n : Nat) (bySeverity byType : List (String × Nat)) (stats : Json),
      n = (s.service.store.vulnerabilitiesOf row.id).length ∧
      ((Api.securityStats id).run s.service = (.ok stats, s.service) ∧
        stats.get? "total_vulnerabilities" = some (.int n) ∧
        stats.get? "by_severity" = some (.obj (bySeverity.map fun c => (c.1, .int c.2))) ∧
        stats.get? "by_type" = some (.obj (byType.map fun c => (c.1, .int c.2)))) ∧
      (bySeverity.map (·.1) = severities ∧ (bySeverity.map (·.2)).sum = n) ∧
      ((byType.map (·.1)).Nodup ∧ (byType.map (·.2)).sum = n) ∧
      (∀ r : Request, r.param? "severity" = none → r.param? "type" = none →
        s.service.Lists r id (s.service.store.vulnerabilitiesOf row.id)) ∧
      (∀ c ∈ bySeverity, ∀ r : Request, r.param? "severity" = some c.1 → r.param? "type" = none →
        ∃ issues, s.service.Lists r id issues ∧ issues.length = c.2 ∧
          issues = (s.service.store.vulnerabilitiesOf row.id).filter (·.severity == c.1)) ∧
      ∀ text : String, Id.ofText? text.toList = some row.id →
        ∃ (answer : Json) (after : Store) (snapshot : SnapshotRow),
          (Api.createSnapshot text).run s.service = (.ok answer, { s.service with store := after }) ∧
          after.snapshots = s.service.store.snapshots ++ [snapshot] ∧ snapshot.repositoryId = some row.id ∧
          snapshot.figures.vulnerabilities = n ∧
          (answer.get? "metrics").bind (·.get? "vulnerabilities") = some (.int n) := by
  have hsum := (Scenario.isGraded_of_reached hs).sum_vulnerabilityCount row.id
  refine ⟨_, severities.map fun t => (t, s.service.store.vulnerabilityCount row.id t),
    Api.tally ((s.service.store.vulnerabilitiesOf row.id).map (·.kind)), _, rfl,
    ⟨run_securityStats hrow, ?total, rfl, rfl⟩, ⟨?names, ?bySeverity⟩, ?byType, ?all, ?some, ?snapshot⟩
  case total =>
    show some (Json.int (total _)) = _
    rw [List.map_map]
    exact congrArg (fun n : Nat => some (Json.int n)) hsum
  case names =>
    rw [List.map_map]
    rfl
  case bySeverity =>
    rw [List.map_map]
    exact hsum
  case byType =>
    obtain ⟨hnames, hkinds⟩ := Api.tally_sum ((s.service.store.vulnerabilitiesOf row.id).map (·.kind))
    exact ⟨hnames, hkinds.trans (List.length_map _)⟩
  case all =>
    intro r hseverity hkind
    have hlists := lists_of_severity? hrow hkind
    rw [hseverity, List.filter_eq_self.2] at hlists
    · exact hlists
    · intro i _
      rfl
  case some =>
    intro c hc r hseverity hkind
    obtain ⟨severity, -, rfl⟩ := List.mem_map.1 hc
    have hlists := lists_of_severity? hrow hkind
    rw [hseverity] at hlists
    have hsame : ((s.service.store.vulnerabilitiesOf row.id).filter fun i => (some severity).all (· == i.severity)) =
        (s.service.store.vulnerabilitiesOf row.id).filter (·.severity == severity) := by
      refine List.filter_congr fun i _ => ?_
      rw [Option.all_some, BEq.comm]
    exact ⟨_, hlists, congrArg List.length hsame, hsame⟩
  case snapshot =>
    intro text htext
    obtain ⟨answer, hrun, hanswer⟩ := run_createSnapshot (repository?_of_named hrow) htext
    exact ⟨answer, _, _, hrun, rfl, rfl, rfl, hanswer⟩

/-- The state in which two scans of a repository have followed on the second request to scan it. -/
def Scenario.scannedTwice : Scenario :=
  ⟨.idle (((Store.shellCall.clearVulnerabilities (Id.nth 0)).scanSecurity (Id.nth 0)).scanSecurity (Id.nth 0)), "/srv",
    []⟩

/-- Both rows of the one issue are in all figures. -/
theorem security_figures_agree_scannedTwice :
    Scenario.scannedTwice.Reached ∧
      ∃ row, (Id.ofRegular? (Id.nth 0).text).bind Scenario.scannedTwice.service.store.repository? = some row ∧
      row.id = Id.nth 0 ∧ ∃ (byType : List (String × Nat)) (stats : Json),
        (Api.securityStats (Id.nth 0).text).run Scenario.scannedTwice.service =
          (.ok stats, Scenario.scannedTwice.service) ∧
        stats.get? "total_vulnerabilities" = some (.int 2) ∧
        stats.get? "by_type" = some (.obj (byType.map fun c => (c.1, .int c.2))) ∧ (byType.map (·.2)).sum = 2 := by
  have hreached : Scenario.scannedTwice.Reached :=
    .scan (s := ⟨.idle ((Store.shellCall.clearVulnerabilities (Id.nth 0)).scanSecurity (Id.nth 0)), "/srv", []⟩)
      (.scan (s := ⟨.idle (Store.shellCall.clearVulnerabilities (Id.nth 0)), "/srv", []⟩)
        (.start rfl) (Id.nth 0)) (Id.nth 0)
  have hid : Id.ofRegular? (Id.nth 0).text = some (Id.nth 0) := by decide +kernel
  obtain ⟨row, hrow, hrowId⟩ : ∃ row,
      (Id.ofRegular? (Id.nth 0).text).bind Scenario.scannedTwice.service.store.repository? = some row ∧
        row.id = Id.nth 0 := by
    rw [hid]
    exact ⟨_, rfl, rfl⟩
  have hissues : (Store.shellCall.foundIssues (Id.nth 0)).length = 1 := by decide +kernel
  have hlength : (Scenario.scannedTwice.service.store.vulnerabilitiesOf row.id).length = 2 := by
    have hstore : Scenario.scannedTwice.service.store =
        ((Store.shellCall.clearVulnerabilities (Id.nth 0)).scanSecurity (Id.nth 0)).scanSecurity (Id.nth 0) := rfl
    rw [hrowId, hstore, Store.vulnerabilitiesOf_scanSecurity, Store.vulnerabilitiesOf_scanSecurity,
      Store.vulnerabilitiesOf_clearVulnerabilities, if_pos rfl, if_pos rfl, if_pos rfl, List.nil_append,
      List.length_append, Store.length_numbered, Store.length_numbered, Store.foundIssues_scanSecurity,
      Store.foundIssues_clearVulnerabilities, hissues]
  obtain ⟨n, _, byType, stats, hn, ⟨hrun, htotal, -, htypes⟩, -, ⟨-, hsum⟩, -⟩ := security_figures_agree hreached hrow
  rw [hlength] at hn
  subst hn
  exact ⟨hreached, row, hrow, hrowId, byType, stats, hrun, htotal, htypes, hsum⟩

end CodeSurvey
