/-
Work on a request, step by step: what follows a step goes on from its outcome, and a refusal ends the work. Work that
only reads leaves the service as it is (`Reads`), and one can say to which values it comes (`Yields`). A repository is
found under the regular form of its identifier.
-/
import CodeSurvey.Api.Request
import Mathlib.Data.List.Basic

namespace CodeSurvey

variable {α β : Type}

/-- A service with a store, while none of its partners does anything. -/
def Service.idle (s : Store) : Service :=
  { settings := .standard, hasAi := false, ai := ⟨[], fun _ => [], []⟩, mailLogin := fun _ => false,
    today := "", store := s }

def Body.ofText (s : String) : Body := .bytes (Text.Utf8.encode s.toList)

def Request.record? (r : Request) : Option Json :=
  match r.body with
  | .bytes l => if r.saysJson then (Request.valueOf l).toOption.bind fun j => j.looseRecord.toOption else none
  | _ => none

namespace Answering

section run

variable {x : Answering α} {f : α → Answering β} {v w : Service} {a : α} {e : Refusal}

theorem run_bind_ok (h : x.run v = (.ok a, w)) : (x >>= f).run v = (f a).run w := by
  show (x.run >>= ExceptT.bindCont f) v = _
  show (let p := x.run v; ExceptT.bindCont f p.1 p.2) = _
  rw [h]
  rfl

theorem run_bind_error (h : x.run v = (.error e, w)) : (x >>= f).run v = (.error e, w) := by
  show (x.run >>= ExceptT.bindCont f) v = _
  show (let p := x.run v; ExceptT.bindCont f p.1 p.2) = _
  rw [h]
  rfl

theorem run_store (v : Service) : store.run v = (.ok v.store, v) := rfl

end run

/-! ## What work comes to -/

/-- The work leaves the service as it is, and it comes to a value exactly if `P` holds of the value. -/
structure Yields (x : Answering α) (v : Service) (P : α → Prop) : Prop where
  same : (x.run v).2 = v
  ok_iff : ∀ a, (x.run v).1 = .ok a ↔ P a

namespace Yields

variable {x : Answering α} {f : α → Answering β} {v : Service} {P : α → Prop} {Q : α → β → Prop}

theorem ok (a : α) (v : Service) : Yields (pure a) v (· = a) := by
  refine ⟨rfl, fun b => ?_⟩
  show (Except.ok a : Except Refusal α) = .ok b ↔ b = a
  rw [Except.ok.injEq]
  exact eq_comm

theorem error (e : Refusal) (v : Service) : Yields (throw e : Answering α) v fun _ => False := by
  refine ⟨rfl, fun b => iff_false_intro ?_⟩
  intro h
  cases h

theorem refuse_if {c : Prop} [Decidable c] (e : Refusal) (v : Service) :
    Yields (if c then throw e else pure ()) v fun _ => ¬ c := by
  refine ⟨by split <;> rfl, fun u => ?_⟩
  by_cases hc : c
  · rw [if_pos hc]
    exact iff_of_false (by rintro ⟨⟩) (not_not.2 hc)
  · rw [if_neg hc]
    exact iff_of_true rfl hc

theorem congr {P' : α → Prop} (h : Yields x v P) (hiff : ∀ a, P a ↔ P' a) : Yields x v P' :=
  ⟨h.same, fun a => (h.ok_iff a).trans (hiff a)⟩

theorem run_eq (h : Yields x v P) {a : α} (ha : P a) : x.run v = (.ok a, v) := Prod.ext ((h.ok_iff a).2 ha) h.same

/-- The work fails, or it comes to the one value that `P` holds of. -/
theorem cases (h : Yields x v P) :
    (∃ e, x.run v = (.error e, v) ∧ ∀ a, ¬ P a) ∨ ∃ a, x.run v = (.ok a, v) ∧ ∀ b, P b ↔ b = a := by
  rcases hrun : x.run v with ⟨e | a, w⟩
  · obtain rfl : w = v := (congrArg Prod.snd hrun).symm.trans h.same
    refine .inl ⟨e, rfl, fun a ha => ?_⟩
    have hok := (h.ok_iff a).2 ha
    rw [hrun] at hok
    cases hok
  · obtain rfl : w = v := (congrArg Prod.snd hrun).symm.trans h.same
    refine .inr ⟨a, rfl, fun b => ?_⟩
    rw [← h.ok_iff b, hrun, Except.ok.injEq]
    exact eq_comm

theorem bind (hx : Yields x v P) (hf : ∀ a, Yields (f a) v (Q a)) : Yields (x >>= f) v fun b => ∃ a, P a ∧ Q a b := by
  rcases hx.cases with ⟨e, hrun, hnone⟩ | ⟨a, hrun, hone⟩
  · refine ⟨?_, fun b => ?_⟩
    · rw [run_bind_error hrun]
    · rw [run_bind_error hrun]
      refine ⟨?_, fun ⟨a, ha, _⟩ => absurd ha (hnone a)⟩
      rintro ⟨⟩
  · refine ⟨?_, fun b => ?_⟩
    · rw [run_bind_ok hrun]
      exact (hf a).same
    · rw [run_bind_ok hrun, (hf a).ok_iff b]
      simp only [hone, exists_eq_left]

theorem of_store (v : Service) : Yields store v (· = v.store) := ⟨rfl, (ok v.store v).ok_iff⟩

theorem of_settings (v : Service) : Yields settings v (· = v.settings) := ⟨rfl, (ok v.settings v).ok_iff⟩

theorem of_service (v : Service) : Yields get v (· = v) := ⟨rfl, (ok v v).ok_iff⟩

theorem of_option {x : Option α → Answering α} {e : Refusal} (hnone : x none = throw e)
    (hsome : ∀ a, x (some a) = pure a) (o : Option α) (v : Service) : Yields (x o) v (o = some ·) := by
  cases o with
  | none =>
    rw [hnone]
    exact (error e v).congr fun a => by simp
  | some b =>
    rw [hsome]
    exact (ok b v).congr fun a => by simp [eq_comm]

theorem of_found (detail : String) : ∀ (o : Option α) (v : Service), Yields (found detail o) v (o = some ·) :=
  of_option rfl fun _ => rfl

theorem of_shaped : ∀ (o : Option α) (v : Service), Yields (shaped o) v (o = some ·) :=
  of_option rfl fun _ => rfl

/-- A parameter is read from the query, and stands for itself where it is missing. -/
theorem of_param (r : Request) (key : String) (read : List Char → Option α) (standard : α) (v : Service) :
    Yields (r.param key read standard) v ((r.param? key).elim (some standard) (fun s => read s.toList) = some ·) := by
  unfold Request.param
  cases r.param? key with
  | none => exact (ok standard v).congr fun a => by simp [eq_comm]
  | some s => exact of_shaped _ v

theorem of_limit (r : Request) (key : String) (standard : Int) (most : Option Int) (v : Service) :
    Yields (r.limit key standard most) v fun n =>
      (r.param? key).elim (some standard) (fun s => Text.int? s.toList) = some n ∧ ∀ m ∈ most, n ≤ m := by
  have hcapped (n : Int) : Yields (if most.any (· < n) then throw .malformed else pure n) v fun m => m = n ∧
      ∀ k ∈ most, n ≤ k := by
    by_cases hmore : most.any (· < n) = true
    · rw [if_pos hmore]
      refine (error _ v).congr fun m => iff_of_false not_false fun ⟨_, hall⟩ => ?_
      obtain ⟨k, hk, hlt⟩ := (Option.any_eq_true _ _).1 hmore
      exact absurd (hall k hk) (by simpa using hlt)
    · rw [if_neg hmore]
      refine (ok n v).congr fun m => (and_iff_left fun k hk => ?_).symm
      obtain rfl := hk
      simpa using hmore
  refine congr ((of_param r key Text.int? standard v).bind hcapped) fun m => ?_
  constructor
  · rintro ⟨n, hread, rfl, hall⟩
    exact ⟨hread, hall⟩
  · rintro ⟨hread, hall⟩
    exact ⟨m, hread, rfl, hall⟩

theorem of_rowCount (n : Int) (v : Service) :
    Yields (Request.rowCount n) v fun m => m = n ∧ Column.isStorable n = true := by
  unfold Request.rowCount
  by_cases h : Column.isStorable n = true
  · rw [if_pos h]
    exact (ok n v).congr fun m => by simp [h]
  · rw [if_neg h]
    exact (error _ v).congr fun m => by simp [h]

theorem of_repositoryOf (id : Id) (v : Service) : Yields (repositoryOf id) v (v.store.repository? id = some ·) :=
  ((of_store v).bind fun s => of_found _ _ v).congr fun row => by simp

theorem of_repositoryNamed (id : String) (v : Service) :
    Yields (repositoryNamed id) v ((Id.ofRegular? id).bind v.store.repository? = some ·) :=
  ((of_store v).bind fun s => of_found _ _ v).congr fun row => by simp

theorem of_unbroken (o : Option α) (f : Fault) (v : Service) :
    Yields (unbroken (o.elim (.error f) .ok)) v (o = some ·) :=
  of_option (x := fun o => unbroken (o.elim (.error f) .ok)) rfl (fun _ => rfl) o v

theorem of_accepted (e : Except Fault α) (v : Service) : Yields (accepted e) v (e.toOption = some ·) := by
  rcases e with f | a
  · cases f <;> exact (error _ v).congr fun a => iff_of_false not_false nofun
  · exact (ok a v).congr fun b => by rw [Except.toOption, Option.some_inj, eq_comm]

theorem of_record (r : Request) (v : Service) : Yields r.record v (r.record? = some ·) := by
  unfold Request.record Request.record?
  cases r.body with
  | empty => exact (error _ v).congr fun j => iff_of_false not_false nofun
  | upload name files => exact (error _ v).congr fun j => iff_of_false not_false nofun
  | bytes l =>
    dsimp only
    cases r.saysJson with
    | false => exact (error _ v).congr fun j => iff_of_false not_false nofun
    | true =>
      cases Request.valueOf l with
      | error e => exact (error _ v).congr fun j => iff_of_false not_false nofun
      | ok j => exact of_accepted j.looseRecord v

end Yields

/-- The work leaves the service as it is, and it comes to a value exactly if `p` holds. -/
def Succeeds (x : Answering α) (v : Service) (p : Prop) : Prop := ∃ P, Yields x v P ∧ ((∃ a, P a) ↔ p)

namespace Succeeds

variable {f : α → Answering β} {v : Service} {p : Prop}

theorem ok (a : α) (v : Service) : Succeeds (pure a) v True := ⟨_, .ok a v, iff_true_intro ⟨a, rfl⟩⟩

theorem bind {x : Answering α} {P : α → Prop} {q : α → Prop} (hx : Yields x v P) (hf : ∀ a, Succeeds (f a) v (q a)) :
    Succeeds (x >>= f) v (∃ a, P a ∧ q a) := by
  choose Q hyields hiff using hf
  refine ⟨_, hx.bind hyields, ?_⟩
  simp only [← hiff]
  grind

end Succeeds

/-! ## Work that only reads -/

/-- The work leaves the service as it is, whatever comes of it. -/
def Reads (x : Answering α) : Prop := ∀ v, (x.run v).2 = v

namespace Reads

variable {x : Answering α} {f : α → Answering β}

theorem ok (a : α) : Reads (pure a) := fun _ => rfl

theorem error (e : Refusal) : Reads (throw e : Answering α) := fun _ => rfl

theorem bind (hx : Reads x) (hf : ∀ a, Reads (f a)) : Reads (x >>= f) := by
  intro v
  rcases hrun : x.run v with ⟨e | a, w⟩
  · rw [run_bind_error hrun]
    exact (congrArg Prod.snd hrun).symm.trans (hx v)
  · rw [run_bind_ok hrun, hf a w]
    exact (congrArg Prod.snd hrun).symm.trans (hx v)

theorem of_store : Reads store := fun _ => rfl

theorem of_shaped (o : Option α) : Reads (shaped o) := fun v => (Yields.of_shaped o v).same

theorem of_found (detail : String) (o : Option α) : Reads (found detail o) := fun v => (Yields.of_found detail o v).same

theorem of_accepted (e : Except Fault α) : Reads (accepted e) := fun v => (Yields.of_accepted e v).same

theorem of_record (r : Request) : Reads r.record := fun v => (Yields.of_record r v).same

/-- What reads and is answered is answered from the service as it is. -/
theorem eq_of_run (hx : Reads x) {v w : Service} {e : Except Refusal α} (h : x.run v = (e, w)) : w = v :=
  (congrArg Prod.snd h).symm.trans (hx v)

end Reads

end Answering

theorem run_repositoryNamed {id : String} {v : Service} {row : RepositoryRow}
    (h : (Id.ofRegular? id).bind v.store.repository? = some row) : (repositoryNamed id).run v = (.ok row, v) := by
  unfold repositoryNamed
  rw [Answering.run_bind_ok (Answering.run_store v), h]
  rfl

end CodeSurvey
