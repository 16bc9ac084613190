/-
What requests and tasks leave true of the store. Work is taken apart step by step: what it reads it has from the store
as it is, and only what it commits can make a difference (`Work.Keeps`, `Answering.Keeps`). So the requests that commit
nothing keep everything.
-/
import CodeSurvey.Api.Route
import CodeSurvey.Proofs.Api.Answering

namespace CodeSurvey

variable {α β : Type} {P : Store → Prop}

/-- If `P` holds of the store before the work, it does after it. -/
structure Work.Keeps (P : Store → Prop) (x : Work α) : Prop where
  run : ∀ v, P v.store → P (StateT.run x v).2.store

namespace Work.Keeps

variable {x : Work α} {f : α → Work β}

theorem ok (a : α) : Keeps P (pure a) := ⟨fun _ h => h⟩

theorem bind (hx : Keeps P x) (hf : ∀ a, Keeps P (f a)) : Keeps P (x >>= f) := ⟨fun v h => (hf _).run _ (hx.run v h)⟩

theorem bind_get {f : Service → Work β} (hf : ∀ v, P v.store → Keeps P (f v)) : Keeps P (get >>= f) :=
  ⟨fun v h => (hf v h).run v h⟩

theorem bind_current {f : Store → Work β} (hf : ∀ s, P s → Keeps P (f s)) : Keeps P (Service.current >>= f) :=
  ⟨fun v h => (hf v.store h).run v h⟩

theorem commit {change : Store → Store} (h : ∀ s, P s → P (change s)) : Keeps P (Service.commit change) :=
  ⟨fun v => h v.store⟩

theorem withAi (talk : StateM AiService α) : Keeps P (Service.withAi talk) := ⟨fun _ h => h⟩

theorem withWeb (talk : StateM WebService α) : Keeps P (Service.withWeb talk) := ⟨fun _ h => h⟩

theorem withGit (talk : StateM GitService α) : Keeps P (Service.withGit talk) := ⟨fun _ h => h⟩

theorem post (p : Gate.ChatPost) : Keeps P (Service.post p) := ⟨fun _ h => h⟩

theorem send (m : Gate.Mail) : Keeps P (Service.send m) := by
  refine ⟨fun v h => ?_⟩
  show P (if v.mailLogin v.settings && m.isWritable then _ else _ : Bool × Service).2.store
  split
  · exact h
  · exact h

theorem disk (change : Service → Disk) : Keeps P (modify fun s => { s with disk := change s }) := ⟨fun _ h => h⟩

theorem ite {c : Prop} [Decidable c] {y : Work α} (hx : Keeps P x) (hy : Keeps P y) : Keeps P (if c then x else y) := by
  split
  · exact hx
  · exact hy

theorem forIn {l : List β} {f : β → PUnit → Work (ForInStep PUnit)} (hf : ∀ b u, Keeps P (f b u)) (u : PUnit) :
    Keeps P (forIn l u f) := by
  induction l generalizing u with
  | nil => exact .ok u
  | cons b l ih =>
    rw [List.forIn_cons]
    refine .bind (hf b u) fun r => ?_
    cases r with
    | done u => exact .ok u
    | yield u => exact ih u

end Work.Keeps

/-- If `P` holds of the store before the work, it does after it, whatever comes of it. -/
structure Answering.Keeps (P : Store → Prop) (x : Answering α) : Prop where
  run : ∀ v, P v.store → P (x.run v).2.store

namespace Answering.Keeps

variable {x : Answering α} {f : α → Answering β}

theorem of_reads (h : Reads x) : Keeps P x := ⟨fun v hv => (h v).symm ▸ hv⟩

theorem ok (a : α) : Keeps P (pure a) := .of_reads (.ok a)

theorem error (e : Refusal) : Keeps P (throw e : Answering α) := .of_reads (.error e)

theorem bind (hx : Keeps P x) (hf : ∀ a, Keeps P (f a)) : Keeps P (x >>= f) := by
  refine ⟨fun v h => ?_⟩
  have hstore := hx.run v h
  rcases hrun : x.run v with ⟨e | a, w⟩
  · rw [hrun] at hstore
    rw [run_bind_error hrun]
    exact hstore
  · rw [hrun] at hstore
    rw [run_bind_ok hrun]
    exact (hf a).run w hstore

theorem bind_get {f : Service → Answering β} (hf : ∀ v, P v.store → Keeps P (f v)) : Keeps P (get >>= f) :=
  ⟨fun v h => (hf v h).run v h⟩

theorem bind_store {f : Store → Answering β} (hf : ∀ s, P s → Keeps P (f s)) : Keeps P (store >>= f) :=
  ⟨fun v h => (hf v.store h).run v h⟩

theorem settings : Keeps P settings := ⟨fun _ h => h⟩

theorem commit {change : Store → Store} (h : ∀ s, P s → P (change s)) : Keeps P (commit change) := ⟨fun v => h v.store⟩

theorem doing {w : Work α} (h : Work.Keeps P w) : Keeps P (doing w) := ⟨h.run⟩

theorem lift {w : Work α} (h : Work.Keeps P w) : Keeps P (liftM w : Answering α) := ⟨h.run⟩

theorem ite {c : Prop} [Decidable c] {y : Answering α} (hx : Keeps P x) (hy : Keeps P y) :
    Keeps P (if c then x else y) := by
  split
  · exact hx
  · exact hy

/-- Work that goes on unless it is refused. -/
theorem guarded {c : Prop} [Decidable c] {e : Refusal} {f : Unit → Answering β} (hf : Keeps P (f ())) :
    Keeps P (if c then throw e >>= f else f ()) :=
  .ite (.bind (.error e) fun _ => hf) hf

theorem shaped (o : Option α) : Keeps P (shaped o) := .of_reads (.of_shaped o)

theorem found (detail : String) (o : Option α) : Keeps P (found detail o) := .of_reads (.of_found detail o)

theorem accepted (e : Except Fault α) : Keeps P (accepted e) := .of_reads (.of_accepted e)

theorem unbroken (e : Except Fault α) : Keeps P (unbroken e) := by
  cases e with
  | error f => exact .error _
  | ok a => exact .ok a

theorem record (r : Request) : Keeps P r.record := .of_reads (.of_record r)

theorem value (r : Request) : Keeps P r.value := by
  unfold Request.value
  split
  · split
    · exact .ok _
    · exact .error _
  · exact .error _

theorem param (r : Request) (key : String) (read : List Char → Option α) (standard : α) :
    Keeps P (r.param key read standard) :=
  .of_reads fun v => (Yields.of_param r key read standard v).same

theorem limit (r : Request) (key : String) (standard : Int) (most : Option Int) : Keeps P (r.limit key standard most) :=
  .of_reads fun v => (Yields.of_limit r key standard most v).same

theorem rowCount (n : Int) : Keeps P (Request.rowCount n) := .of_reads fun v => (Yields.of_rowCount n v).same

theorem repositoryNamed (t : String) : Keeps P (repositoryNamed t) :=
  .of_reads fun v => (Yields.of_repositoryNamed t v).same

theorem repositoryOf (id : Id) : Keeps P (repositoryOf id) := .of_reads fun v => (Yields.of_repositoryOf id v).same

end Answering.Keeps

/-! ## Requests that change no row -/

namespace Api

open Answering Assistant

theorem keeps_elsewhere : Keeps P elsewhere := .ok _

theorem keeps_root : Keeps P root := .bind .settings fun _ => .ok _

theorem keeps_health : Keeps P health := .bind .settings fun _ => .ok _

theorem keeps_config : Keeps P config := .bind .settings fun _ => .ok _

theorem keeps_uploadStatus : Keeps P uploadStatus := .bind .settings fun _ => .ok _

theorem keeps_listRepositories (r : Request) : Keeps P (listRepositories r) :=
  .bind (.limit ..) fun _ => .bind (.limit ..) fun _ => .guarded <| .bind (.rowCount _) fun _ =>
    .bind (.rowCount _) fun _ => .bind_store fun _ _ => .ok _

theorem keeps_importPlace : Keeps P importPlace := .error _

theorem keeps_getRepository (id : String) : Keeps P (getRepository id) := .bind (.repositoryNamed _) fun _ => .ok _

theorem keeps_listFiles (r : Request) (id : String) : Keeps P (listFiles r id) :=
  .bind (.limit ..) fun _ => .bind (.repositoryNamed _) fun _ => .bind (.rowCount _) fun _ =>
    .bind_store fun _ _ => .ok _

theorem keeps_listSymbols (r : Request) (id : String) : Keeps P (listSymbols r id) :=
  .bind (.limit ..) fun _ => .bind (.repositoryNamed _) fun _ => .bind (.rowCount _) fun _ =>
    .bind_store fun _ _ => .ok _

theorem keeps_fileContent (id file : String) : Keeps P (fileContent id file) := by
  refine .bind (.repositoryNamed id) fun row => .bind ?_ fun _ => .bind_store fun _ _ => .bind (.found ..) fun _ =>
    .bind_get fun v _ => .bind ?_ fun _ => .ok _
  · unfold uploadDirectory
    split
    · exact .ok _
    · exact .error _
  · unfold shown
    split
    · exact .ok _
    · exact .error _

theorem keeps_semanticSearch (r : Request) : Keeps P (semanticSearch r) := by
  refine .bind (.shaped _) fun _ => .bind (.limit ..) fun _ => .bind ?_ fun _ => .bind_get fun _ _ =>
    .bind (.doing (.withAi _)) fun _ => ?_
  · refine .bind (.param ..) fun o => ?_
    split
    · exact .ok _
    · exact .ite (.ok _) (.error _)
  · split
    · exact .ok _
    · exact .error _

theorem keeps_similarSymbols (r : Request) (id : String) : Keeps P (similarSymbols r id) := by
  refine .bind (.limit ..) fun _ => .bind (.param ..) fun _ => .bind_get fun v _ => .guarded <|
    .bind (.found ..) fun _ =>
    .bind (.found ..) fun _ => ?_
  split
  · exact .error _
  · exact .bind (.unbroken _) fun _ => .ok _

theorem keeps_searchStats : Keeps P searchStats := .bind_get fun _ _ => .ok _

theorem keeps_similarCode (r : Request) (id : String) : Keeps P (similarCode r id) :=
  .bind (.shaped _) fun _ => .bind (.limit ..) fun _ => .bind (.param ..) fun _ => .bind_store fun _ _ =>
    .bind (.found ..) fun _ => .error _

theorem keeps_complexFunctions (r : Request) : Keeps P (complexFunctions r) :=
  .bind (.param ..) fun _ => .bind (.limit ..) fun _ => .bind (.param ..) fun _ => .bind (.rowCount _) fun _ =>
    .bind (.rowCount _) fun _ => .bind_store fun _ _ => .ok _

theorem keeps_dashboard (r : Request) : Keeps P (dashboard r) := .bind (.param ..) fun _ => .bind_store fun _ _ => .ok _

theorem keeps_hardFunctions (r : Request) : Keeps P (hardFunctions r) :=
  .bind (.param ..) fun _ => .bind (.limit ..) fun _ => .bind (.param ..) fun _ => .guarded <|
    .bind (.rowCount _) fun _ => .bind_store fun _ _ => .ok _

theorem keeps_listHosted (r : Request) : Keeps P (listHosted r) :=
  .bind (.limit ..) fun _ => .bind (.limit ..) fun _ => .guarded <| .bind (.rowCount _) fun _ =>
    .bind (.rowCount _) fun _ => .bind_store fun _ _ => .bind (.unbroken _) fun _ => .ok _

theorem keeps_getHosted (id : String) : Keeps P (getHosted id) :=
  .bind (.bind_store fun _ _ => .found ..) fun _ => .unbroken _

theorem keeps_hostedStats : Keeps P hostedStats := .bind_store fun _ _ => .ok _

theorem keeps_callGraph (id : String) : Keeps P (callGraph id) :=
  .bind (.repositoryNamed _) fun _ => .bind_store fun _ _ => .ok _

theorem keeps_callStats (id : String) : Keeps P (callStats id) :=
  .bind (.repositoryNamed _) fun _ => .bind_store fun _ _ => .bind (.unbroken _) fun _ => .ok _

theorem keeps_dependencies (id : String) : Keeps P (dependencies id) :=
  .bind (.repositoryNamed _) fun _ => .bind_store fun _ _ => .ok _

theorem keeps_deadCode (id : String) : Keeps P (deadCode id) :=
  .bind (.repositoryNamed _) fun _ => .bind_store fun _ _ => .ok _

theorem keeps_circularCalls (id : String) : Keeps P (circularCalls id) :=
  .bind (.repositoryNamed _) fun _ => .bind_store fun _ _ => .bind (.bind (.unbroken _) fun _ => .ok _) fun _ => .ok _

theorem keeps_listVulnerabilities (r : Request) (id : String) : Keeps P (listVulnerabilities r id) :=
  .bind (.repositoryNamed _) fun _ => .bind_store fun _ _ => .ok _

theorem keeps_securityStats (id : String) : Keeps P (securityStats id) :=
  .bind (.repositoryNamed _) fun _ => .bind_store fun _ _ => .ok _

theorem keeps_context (id : String) : Keeps P (context id) := .bind (.shaped _) fun _ => .bind_store fun _ _ => .ok _

theorem keeps_listDuplications (r : Request) (id : String) : Keeps P (listDuplications r id) :=
  .bind (.shaped _) fun _ => .bind (.param ..) fun _ => .bind (.limit ..) fun _ => .bind (.rowCount _) fun _ =>
    .bind_store fun _ _ => .guarded (.ok _)

theorem keeps_listUndocumented (r : Request) (id : String) : Keeps P (listUndocumented r id) :=
  .bind (.shaped _) fun _ => .bind (.limit ..) fun _ => .bind (.rowCount _) fun _ => .bind_store fun _ _ => .ok _

theorem keeps_history (r : Request) (id : String) : Keeps P (history r id) :=
  .bind (.shaped _) fun _ => .bind (.limit ..) fun _ => .bind (.rowCount _) fun _ => .bind_store fun _ _ => .ok _

theorem keeps_report (id : String) : Keeps P (report id) :=
  .bind (.shaped _) fun _ => .bind_store fun _ _ => .bind (.found ..) fun _ => .bind (.found ..) fun _ => .ok _

theorem keeps_listRuns (r : Request) (id : String) : Keeps P (listRuns r id) :=
  .bind (.shaped _) fun _ => .bind (.limit ..) fun _ => .bind (.rowCount _) fun _ => .bind_store fun _ _ => .ok _

theorem keeps_validateAddress (r : Request) : Keeps P (validateAddress r) := by
  refine .bind (.shaped _) fun _ => ?_
  split
  · exact .error _
  · refine .bind .settings fun _ => .bind (.doing (.withWeb _)) fun _ => ?_
    split
    · exact .error _
    · exact .ok _

theorem keeps_consult (p : Prompt) : Keeps P (consult p) := by
  refine .bind_get fun _ _ => .guarded <| .bind (.doing (.withAi _)) fun _ => ?_
  split
  · exact .error _
  · exact .error _
  · split
    · exact .ok _
    · exact .error _

theorem keeps_explain (r : Request) : Keeps P (explain r) :=
  .bind (.record r) fun _ => .bind (.accepted _) fun _ => .bind (.accepted _) fun _ => .bind (.accepted _) fun _ =>
    .bind (keeps_consult _) fun _ => .bind (.unbroken _) fun _ => .bind (.unbroken _) fun _ =>
    .bind (.unbroken _) fun _ => .ok _

theorem keeps_convert (r : Request) : Keeps P (convert r) :=
  .bind (.record r) fun _ => .bind (.accepted _) fun _ => .bind (.accepted _) fun _ => .bind (.accepted _) fun _ =>
    .bind (.accepted _) fun _ => .bind (keeps_consult _) fun _ => .bind (.unbroken _) fun _ =>
    .bind (.unbroken _) fun _ => .ok _

theorem keeps_refactor (r : Request) : Keeps P (refactor r) :=
  .bind (.record r) fun _ => .bind (.accepted _) fun _ => .bind (.accepted _) fun _ => .bind (.accepted _) fun _ =>
    .bind (keeps_consult _) fun _ => .bind (.unbroken _) fun _ => .bind (.unbroken _) fun _ =>
    .bind (.unbroken _) fun _ => .ok _

theorem keeps_generate (r : Request) : Keeps P (generate r) :=
  .bind (.record r) fun _ => .bind (.accepted _) fun _ => .bind (.accepted _) fun _ => .bind (.accepted _) fun _ =>
    .bind (keeps_consult _) fun _ => .bind (.unbroken _) fun _ => .bind (.unbroken _) fun _ => .ok _

theorem keeps_complete (r : Request) : Keeps P (complete r) :=
  .bind (.record r) fun _ => .bind (.accepted _) fun _ => .bind (.accepted _) fun _ => .bind (.accepted _) fun _ =>
    .bind (.accepted _) fun _ => .bind (.doing ⟨(keeps_consult _).run⟩) fun _ => .ok _

theorem keeps_assistantStatus : Keeps P assistantStatus := .bind_get fun _ _ => .ok _

theorem keeps_ask (r : Request) : Keeps P (ask r) := by
  refine .bind (.record r) fun _ => .bind (.accepted _) fun _ => .bind (.accepted _) fun _ => .bind
    (.accepted _) fun _ =>
    .bind_get fun _ _ => .bind (.doing (.withAi _)) fun _ => ?_
  split
  · exact .ok _
  · exact .error _

theorem keeps_namedFilter (detail : String) (ofName? : String → Option α) (text : Option String) :
    Keeps P (namedFilter detail ofName? text) := by
  unfold namedFilter
  split
  · exact .ok _
  · split
    · exact .ok _
    · exact .error _

theorem keeps_listSmells (r : Request) (id : String) : Keeps P (listSmells r id) :=
  .bind (.shaped _) fun _ => .bind (.limit ..) fun _ => .bind (keeps_namedFilter ..) fun _ =>
    .bind (keeps_namedFilter ..) fun _ => .bind (.rowCount _) fun _ => .bind_store fun _ _ => .ok _

theorem keeps_payloadField (j : Json) (key : String) (standard : Json) : Keeps P (payloadField j key standard) := by
  unfold payloadField
  split
  · exact .ok _
  · exact .error _

theorem keeps_storable (kept : Option α) : Keeps P (storable kept) := .unbroken _

theorem keeps_fullName (j : Json) : Keeps P (fullName j) := by
  unfold fullName
  split
  · exact .ok _
  · exact .error _

theorem keeps_checkSignature (secret : Option String) (r : Request) : Keeps P (checkSignature secret r) := by
  unfold checkSignature
  split
  · exact .ok _
  · exact .guarded (.ite (.error _) (.ok _))

theorem keeps_pullRequest (d : Database) (pull : Json) : Keeps P (pullRequest d pull) :=
  .bind (keeps_payloadField ..) fun _ => .bind (keeps_payloadField ..) fun _ => .bind (keeps_storable _) fun _ =>
    .bind (keeps_payloadField ..) fun _ => .bind (keeps_storable _) fun _ => .bind (keeps_payloadField ..) fun _ =>
    .bind (keeps_storable _) fun _ => .bind (keeps_payloadField ..) fun _ => .bind (keeps_storable _) fun _ => .ok _

theorem keeps_mergeRequest (d : Database) (merge : Json) : Keeps P (mergeRequest d merge) := by
  refine .bind (keeps_payloadField ..) fun _ => .bind (keeps_payloadField ..) fun _ => ?_
  extract_lets rest
  have hrest (c : Json) : Keeps P (rest c) :=
    .bind (keeps_storable _) fun _ => .bind (keeps_storable _) fun _ => .bind (keeps_payloadField ..) fun _ =>
      .bind (keeps_storable _) fun _ => .bind (keeps_payloadField ..) fun _ => .bind (keeps_storable _) fun _ => .ok _
  exact .ite (.bind (keeps_payloadField ..) hrest) (.bind (.ok _) hrest)

end Api

end CodeSurvey
