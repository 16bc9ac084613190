/-
Requests about quality gates that come one after the other: webhooks, checks by hand, limits that are read or set, and
notices. Each adds at most a run, which is finished unless a limit is missing, and a standard gate, and sets at most the
limits of one repository (`GateRequest.changes_answer`). So whatever requests come, every run of a repository whose
limits are all there is finished and stays as it is, no repository has two gates, and limits only change when they are
set (`requests_keep_runs_finished`).
-/
import CodeSurvey.Proofs.Fault
import CodeSurvey.Proofs.Gate.Webhook

namespace CodeSurvey

/-! ## What a request about gates can do -/

/-- A request about quality gates, with the name in its path if it has one. -/
inductive GateRequest where
  | webhook (host : CodeHost) (r : Request)
  | check (id : String)
  | getGate (id : String)
  | setGate (r : Request) (id : String)
  | notifyChat (r : Request)
  | notifyMail (r : Request)

namespace GateRequest

def answer : GateRequest → Answering Json
  | webhook host r => host.webhook r
  | check id => Api.checkByHand id
  | getGate id => Api.getGate id
  | setGate r id => Api.setGate r id
  | notifyChat r => Api.notifyChat r
  | notifyMail r => Api.notifyMail r

/-- The repository whose limits a request sets. -/
def sets? : GateRequest → Option Id
  | setGate _ id => Id.ofText? id.toList
  | _ => none

end GateRequest

def Service.after (v : Service) (q : GateRequest) : Service := (q.answer.run v).2

def Service.afterAll (v : Service) (requests : List GateRequest) : Service := requests.foldl Service.after v

namespace Answering

variable {α β : Type} {target : Option Id}

/-- The work adds at most a run and a standard gate, and sets at most the limits of one repository. -/
def Changes (target : Option Id) (x : Answering α) : Prop :=
  ∀ v : Service, v.store.HasFreshRuns → v.store.Changes target (x.run v).2.store

theorem Changes.bind_of_run {x : Answering α} {f : α → Answering β} (hx : Reads x)
    (hf : ∀ a v, x.run v = (.ok a, v) → Changes target (f a)) : Changes target (x >>= f) := by
  intro v hfresh
  rcases hrun : x.run v with ⟨e | a, w⟩
  · obtain rfl := hx.eq_of_run hrun
    rw [run_bind_error hrun]
    exact (Store.Grows.refl _).changes
  · obtain rfl := hx.eq_of_run hrun
    rw [run_bind_ok hrun]
    exact hf a w hrun w hfresh

theorem Changes.bind {x : Answering α} {f : α → Answering β} (hx : Reads x) (hf : ∀ a, Changes target (f a)) :
    Changes target (x >>= f) := bind_of_run hx fun a _ _ => hf a

theorem Changes.of_reads {x : Answering α} (hx : Reads x) : Changes target x := by
  intro v _
  rw [hx v]
  exact (Store.Grows.refl _).changes

/-- Checking a gate makes one at most, and what follows keeps the store. -/
theorem Changes.checkGate {id : Id} {f : Gate.Result → Answering β}
    (hf : ∀ result v, ((f result).run v).2.store = v.store) :
    Changes target (Api.checkGate id >>= f) := by
  intro v _
  cases hresult : v.store.checkGate id with
  | some result =>
    rw [run_bind_ok (run_checkGate_of_some hresult), hf]
    exact (v.store.grows_ensureGate id).changes
  | none =>
    rw [run_bind_error (run_checkGate_of_not_areSet (Store.checkGate_eq_none_iff.1 hresult))]
    exact (Store.Grows.refl _).changes

end Answering

theorem Service.store_send (m : Gate.Mail) (v : Service) : ((Service.send m).run v).2.store = v.store := by
  show (if v.mailLogin v.settings && m.isWritable then _ else _ : Bool × Service).2.store = v.store
  split <;> rfl

namespace Api

open Answering

variable {target : Option Id}

theorem changes_webhook (host : CodeHost) (r : Request) : Changes target (host.webhook r) := by
  intro v hfresh
  have hnew : ∀ run ∈ v.store.runs, run.id ≠ v.store.nextId := fun run hrun => hfresh run hrun _ (Nat.le_refl _)
  rcases runsIf_webhook hnew host r with ⟨row, -, t, hout, ⟨-, -, hadds⟩ | ⟨hset, -, hleaves⟩⟩ | ⟨-, -, hout⟩
  · rw [hout]
    exact hadds.grows.changes
  · rw [hout]
    exact (hleaves.grows hset).changes
  · rw [hout]
    exact (Store.Grows.refl _).changes

theorem changes_checkByHand (id : String) : Changes target (checkByHand id) := by
  unfold checkByHand
  refine .bind (.of_shaped _) fun i => .bind (.bind .of_store fun s => .of_found _ _) fun row => ?_
  intro v hfresh
  cases hresult : v.store.checkGate row.id with
  | none =>
    rw [run_bind_error (run_checkGate_of_not_areSet (Store.checkGate_eq_none_iff.1 hresult))]
    exact (Store.Grows.refl _).changes
  | some result =>
    -- here the gate is made first, so the run does not get the next identifier but the one behind it
    let w : Service := { v with store := v.store.ensureGate row.id }
    have hstart : (startRun row.id { trigger := "manual", status := "runnning" }).run w = (.ok w.store.nextId,
        { w with store := w.store.startRun row.id { trigger := "manual", status := "runnning" } }) := rfl
    rw [run_bind_ok (run_checkGate_of_some hresult), run_bind_ok hstart]
    exact (Store.addsRun_of_checked hfresh _ (Store.length_checks_of_checkGate hresult)
      (Gate.page_ne_empty _ _ _ _ _)).grows.changes

theorem changes_getGate (id : String) : Changes target (getGate id) := by
  unfold getGate
  refine .bind (.of_shaped _) fun i => ?_
  intro v _
  obtain ⟨g, hof⟩ := exists_run_gateOf v i
  rw [run_bind_ok hof]
  exact (v.store.grows_ensureGate i).changes

theorem isSome_of_defaultField {α : Type} {read : Json → Except Fault α} {j : Json} {key : String}
    {standard a : Option α} (h : j.defaultField key (fun v => (read v).map some) standard = .ok a)
    (hstandard : standard.isSome) : a.isSome := by
  unfold Json.defaultField at h
  split at h
  next => exact Except.ok.inj h ▸ hstandard
  next v _ =>
    dsimp only at h
    cases hread : read v with
    | error e => rw [hread] at h; cases h
    | ok b => rw [hread] at h; cases h; rfl

/-- A limit that is set is a number, and for one that is not set there is a standard. -/
theorem areSet_of_readLimits {j : Json} {l : GateLimits} (h : readLimits j = .ok l) : l.AreSet := by
  unfold readLimits at h
  extract_lets standard count amount at h
  have hcount : ∀ {key : String} {standard a : Option Int}, count key standard = .ok a → standard.isSome → a.isSome :=
    isSome_of_defaultField
  obtain ⟨_, -, h⟩ := bind_eq_ok_iff.1 h
  obtain ⟨_, hsmells, h⟩ := bind_eq_ok_iff.1 h
  obtain ⟨_, hcritical, h⟩ := bind_eq_ok_iff.1 h
  obtain ⟨_, hissues, h⟩ := bind_eq_ok_iff.1 h
  obtain ⟨_, hcriticalIssues, h⟩ := bind_eq_ok_iff.1 h
  obtain ⟨_, -, h⟩ := bind_eq_ok_iff.1 h
  obtain ⟨_, -, h⟩ := bind_eq_ok_iff.1 h
  obtain ⟨_, -, h⟩ := bind_eq_ok_iff.1 h
  cases h
  exact ⟨hcount hsmells rfl, hcount hcritical rfl, hcount hissues rfl, hcount hcriticalIssues rfl⟩

theorem changes_setGate (r : Request) (id : String) : Changes (Id.ofText? id.toList) (setGate r id) := by
  unfold setGate
  refine .bind (.of_record r) fun body => .bind_of_run (.of_accepted _) fun limits v hread => ?_
  have hset : limits.AreSet := by
    cases hlimits : readLimits body with
    | ok l =>
      rw [hlimits] at hread
      cases hread
      exact areSet_of_readLimits hlimits
    | error e =>
      rw [hlimits] at hread
      cases e <;> cases hread
  cases hid : Id.ofText? id.toList with
  | none =>
    unfold idInPath
    rw [hid]
    exact .of_reads fun _ => rfl
  | some i =>
    have hpath : ∀ v, (idInPath id).run v = (.ok i, v) := by
      intro v
      unfold idInPath
      rw [hid]
      rfl
    intro v _
    obtain ⟨g, hof⟩ := exists_run_gateOf v i
    have hget := (Yields.of_service { v with store := v.store.ensureGate i }).run_eq rfl
    rw [run_bind_ok (hpath v), run_bind_ok hof]
    extract_lets rest
    rw [run_bind_ok hget]
    refine ⟨v.store.ensureGate i, v.store.grows_ensureGate i, ?_⟩
    split
    · exact .inl rfl
    · let w : Service := { v with store := (v.store.ensureGate i).updateGate i fun _ => limits }
      have hcommit : (Answering.commit fun s => s.updateGate i fun _ => limits).run { v with
          store := v.store.ensureGate i } =
          (.ok (), w) := rfl
      -- the gate is read back once more, and no second one is made
      obtain ⟨g', hof'⟩ := exists_run_gateOf w i
      refine .inr ⟨i, limits, rfl, hset, ?_⟩
      show ((rest ()).run _).2.store = _
      rw [run_bind_ok hcommit, run_bind_ok hof']
      exact v.store.ensureGate_updateGate i fun _ => limits

theorem changes_notifyChat (r : Request) : Changes target (notifyChat r) := by
  unfold notifyChat
  refine .bind (.of_record r) fun body => .bind (.of_accepted _) fun id => .bind (.of_accepted _) fun url => ?_
  refine .bind (.of_accepted _) fun link => .bind (.bind .of_store fun s => .of_found _ _) fun row => ?_
  exact .checkGate fun result v => rfl

theorem changes_notifyMail (r : Request) : Changes target (notifyMail r) := by
  unfold notifyMail
  refine .bind (.of_record r) fun body => .bind (.of_accepted _) fun id => .bind (.of_accepted _) fun recipient => ?_
  refine .bind (.bind .of_store fun s => .of_found _ _) fun row => .checkGate fun result v => ?_
  have hget : (get : Answering Service).run v = (.ok v, v) := rfl
  rw [run_bind_ok hget]
  split
  · rfl
  · extract_lets mail
    have hsend : (doing (Service.send mail)).run v =
        (.ok ((Service.send mail).run v).1, ((Service.send mail).run v).2) := rfl
    rw [run_bind_ok hsend]
    exact Service.store_send mail v

end Api

/-! ## Requests one after the other -/

theorem GateRequest.changes_answer (q : GateRequest) : Answering.Changes q.sets? q.answer := by
  cases q with
  | webhook host r => exact Api.changes_webhook host r
  | check id => exact Api.changes_checkByHand id
  | getGate id => exact Api.changes_getGate id
  | setGate r id => exact Api.changes_setGate r id
  | notifyChat r => exact Api.changes_notifyChat r
  | notifyMail r => exact Api.changes_notifyMail r

/-- The induction is on the requests that are left: each keeps order, and continues what is there. -/
theorem Service.isOrderly_afterAll {whole : Id → Prop} {v : Service} (hv : v.store.IsOrderly whole)
    (requests : List GateRequest) :
    (v.afterAll requests).store.IsOrderly whole ∧
      v.store.Continues (fun id => ∀ q ∈ requests, q.sets? ≠ some id) (v.afterAll requests).store := by
  induction requests generalizing v with
  | nil => exact ⟨hv, List.prefix_refl _, fun _ _ _ hg => hg, fun _ _ => rfl⟩
  | cons q requests ih =>
    have hstep := q.changes_answer v hv.fresh
    obtain ⟨horderly, hlater⟩ := ih (v := v.after q) (hstep.isOrderly hv)
    exact ⟨horderly, (hstep.continues.trans hlater).mono fun id hid => List.forall_mem_cons.1 hid⟩

def Service.withTool : Service := .idle (({} : Store).addRepository (RepositoryRow.blank "tool"))

/-- The repository is checked, then its limit for code smells is set below zero, and it is checked again. -/
def GateRequest.checkSetCheck : List GateRequest :=
  let id := (Id.nth 0).text
  [.check id, .setGate ⟨"PUT", [], [], [], .ofText "\x7b\"max_code_smells\": -1\x7d"⟩ id, .check id]

end CodeSurvey
