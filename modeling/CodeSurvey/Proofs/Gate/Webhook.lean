/-
The webhooks of code hosts. A request is worked on if its sender is trusted, if it is about an event and an action that
call for a check, if its payload names a repository that is known and if what the payload says about the change can be
kept. Everything is read before anything is written: the steps that read say under which condition they go on
(`Yields`), and put together these are the condition for a run (`RunsIf`). So either one run is added, or nothing is
changed. But the run is kept before the limits of the gate are looked at, so that it stays open if one of them is
missing (`webhook_completes_iff_admitted`).
-/
import CodeSurvey.Proofs.Gate.Completion

namespace CodeSurvey

/-! ## Running a gate -/

namespace Api

variable {v : Service} {row : RepositoryRow}

theorem run_runGate_of_some {result : Gate.Result} (h : v.store.checkGate row.id = some result)
    (request : Store.RunRequest) :
    (runGate row request).run v = (.ok (v.store.nextId, result), { v with
      store := ((v.store.startRun row.id request).ensureGate row.id).completeRun v.store.nextId result
        (result.page v.today row.name) }) := by
  let w : Service := { v with store := v.store.startRun row.id request }
  have hstart : (startRun row.id request).run v = (.ok v.store.nextId, w) := rfl
  have hcheck : w.store.checkGate row.id = some result := h
  unfold runGate
  rw [Answering.run_bind_ok hstart, Answering.run_bind_ok (run_checkGate_of_some hcheck)]
  rfl

/-- The run is kept before the limits are looked at, so it is left as it was started. -/
theorem run_runGate_of_not_areSet (h : ¬ (v.store.limitsOf row.id).AreSet) (request : Store.RunRequest) :
    (runGate row request).run v =
      (.error (.broken .wrongType), { v with store := v.store.startRun row.id request }) := by
  let w : Service := { v with store := v.store.startRun row.id request }
  have hstart : (startRun row.id request).run v = (.ok v.store.nextId, w) := rfl
  have hlimits : ¬ (w.store.limitsOf row.id).AreSet := h
  unfold runGate
  rw [Answering.run_bind_ok hstart, Answering.run_bind_error (run_checkGate_of_not_areSet hlimits)]

end Api

/-! ## Work that reads, and then runs a gate -/

/-- The answer says that a webhook has been worked on. -/
def Response.SaysCompleted (a : Response) : Prop :=
  a.status = 200 ∧ (a.body.bind (·.get? "status")).bind Json.asText? = some "completed"

instance (a : Response) : Decidable a.SaysCompleted := inferInstanceAs (Decidable (_ ∧ _))

namespace Answering

variable {α β : Type}

/-- The work ends with one finished run of the repository and says so. If a limit of the gate is missing, it breaks off
and leaves one open run. -/
def RunsGate (x : Answering Json) (v : Service) (row : RepositoryRow) : Prop :=
  ∃ t, (x.run v).2 = { v with store := t } ∧
    (((v.store.limitsOf row.id).AreSet ∧ (Response.ofResult (x.run v).1).SaysCompleted ∧ v.store.AddsRun t row.id) ∨
      (¬ (v.store.limitsOf row.id).AreSet ∧ (x.run v).1 = .error (.broken .wrongType) ∧ v.store.LeavesRun t row.id))

/-- If `P` holds of a repository, it holds of no other, and the work runs its gate. Otherwise the work does not say that
it is completed, and leaves the service as it is. -/
def RunsIf (x : Answering Json) (v : Service) (P : RepositoryRow → Prop) : Prop :=
  (∃ row, (∀ row', P row' ↔ row' = row) ∧ RunsGate x v row) ∨
  ((∀ row, ¬ P row) ∧ ¬ (Response.ofResult (x.run v).1).SaysCompleted ∧ (x.run v).2 = v)

namespace RunsIf

variable {x y : Answering Json} {v : Service} {P Q : RepositoryRow → Prop}

theorem congr (h : RunsIf x v P) (hiff : ∀ row, P row ↔ Q row) : RunsIf x v Q := by
  rwa [← funext fun row => propext (hiff row)]

theorem other {word : String} (h : word ≠ "completed") (fields : List (String × Json)) (v : Service) :
    RunsIf (pure (.obj (("status", .str word) :: fields))) v fun _ => False := by
  refine .inr ⟨fun _ => not_false, ?_, rfl⟩
  change ¬ (if _ then (⟨200, some (.obj (("status", .str word) :: fields))⟩ : Response) else ⟨500, none⟩).SaysCompleted
  split
  · exact fun hsays => h (Option.some.inj hsays.2)
  · exact fun hsays => nomatch hsays.2

theorem bind {f : α → Answering Json} {x : Answering α} {R : α → Prop} {P : α → RepositoryRow → Prop}
    (hx : Yields x v R) (hf : ∀ a, RunsIf (f a) v (P a)) : RunsIf (x >>= f) v fun row => ∃ a, R a ∧ P a row := by
  rcases hx.cases with ⟨e, hrun, hnone⟩ | ⟨a, hrun, hone⟩
  · refine .inr ⟨fun row ⟨a, ha, _⟩ => hnone a ha, ?_⟩
    rw [run_bind_error hrun]
    refine ⟨fun hsays => ?_, rfl⟩
    cases e <;> cases hsays.2
  · unfold RunsIf RunsGate
    rw [run_bind_ok hrun]
    simp only [hone, exists_eq_left]
    exact hf a

theorem guarded {b : Bool} (hx : RunsIf x v fun _ => False) (hy : RunsIf y v P) :
    RunsIf (if (!b) = true then x else y) v fun row => b = true ∧ P row := by
  cases b with
  | false => exact hx.congr fun row => iff_of_false not_false nofun
  | true => exact hy.congr fun row => (and_iff_right rfl).symm

theorem runGate (hnew : ∀ run ∈ v.store.runs, run.id ≠ v.store.nextId) (row : RepositoryRow)
    (request : Store.RunRequest) {f : Id × Gate.Result → Json}
    (hf : ∀ p, (Response.ofResult (.ok (f p))).SaysCompleted) :
    RunsIf (Api.runGate row request >>= fun p => pure (f p)) v (· = row) := by
  refine .inl ⟨row, fun _ => Iff.rfl, ?_⟩
  unfold RunsGate
  cases hresult : v.store.checkGate row.id with
  | some result =>
    have hset := Store.isSome_checkGate_iff.1 (Option.isSome_of_mem hresult)
    rw [run_bind_ok (Api.run_runGate_of_some hresult request)]
    exact ⟨_, rfl, .inl ⟨hset, hf _, Store.addsRun_of_started hnew request (Store.length_checks_of_checkGate hresult)
      (Gate.page_ne_empty _ _ _ _ _)⟩⟩
  | none =>
    have hset := Store.checkGate_eq_none_iff.1 hresult
    rw [run_bind_error (Api.run_runGate_of_not_areSet hset request)]
    exact ⟨_, rfl, .inr ⟨hset, rfl, v.store.leavesRun_startRun row.id request⟩⟩

/-- Whether the work is completed, and what it leaves behind, is told by `P` and the limits of the gate. -/
theorem outcome (h : RunsIf x v P) :
    let answer := Response.ofResult (x.run v).1
    (answer.SaysCompleted ↔ ∃ row, P row ∧ (v.store.limitsOf row.id).AreSet) ∧
    (answer.SaysCompleted → ∃ row t, P row ∧ (x.run v).2 = { v with store := t } ∧ v.store.AddsRun t row.id) ∧
    (∀ row, P row → ¬ (v.store.limitsOf row.id).AreSet →
      answer.status = 500 ∧ ∃ t, (x.run v).2 = { v with store := t } ∧ v.store.LeavesRun t row.id) ∧
    ((∀ row, ¬ P row) → ¬ answer.SaysCompleted ∧ (x.run v).2 = v) := by
  intro answer
  rcases h with ⟨row, honly, t, hout, hends⟩ | ⟨hnone, hsilent, hout⟩
  · have hrow : P row := (honly row).2 rfl
    rcases hends with ⟨hset, hsays, hadds⟩ | ⟨hset, herror, hleaves⟩
    · refine ⟨iff_of_true hsays ⟨row, hrow, hset⟩, fun _ => ⟨row, t, hrow, hout, hadds⟩, fun row' h hmissing => ?_,
        fun h => absurd hrow (h row)⟩
      exact absurd ((honly row').1 h ▸ hset) hmissing
    · have hanswer : answer = ⟨500, none⟩ := congrArg Response.ofResult herror
      have hsilent : ¬ answer.SaysCompleted := by
        rw [hanswer]
        exact fun hsays => nomatch hsays.2
      refine ⟨iff_of_false hsilent ?_, fun hsays => absurd hsays hsilent, fun row' h _ => ?_,
        fun h => absurd hrow (h row)⟩
      · rintro ⟨row', h, hset'⟩
        exact hset ((honly row').1 h ▸ hset')
      · obtain rfl := (honly row').1 h
        rw [hanswer]
        exact ⟨rfl, t, hout, hleaves⟩
  · refine ⟨iff_of_false hsilent ?_, fun hsays => absurd hsays hsilent, fun row h => absurd h (hnone row),
      fun _ => ⟨hsilent, hout⟩⟩
    rintro ⟨row, h, -⟩
    exact hnone row h

end RunsIf

end Answering

/-! ## What hosts send -/

inductive CodeHost where
  | github
  | gitlab

/-- The value is a record, and its field, or `standard` if it has no such field, is `value`. -/
def Json.Holds (j : Json) (key : String) (standard value : Json) : Prop :=
  ∃ fields, j = .obj fields ∧ (j.get? key).getD standard = value

/-- The value is a record, and its field, or nothing if it has no such field, can be read. -/
def Json.Gives {α : Type} (j : Json) (key : String) (read : Json → Option α) : Prop :=
  ∃ value, j.Holds key .null value ∧ (read value).isSome

/-- The value is neither a list nor a record, nor a text that has no characters. -/
def Json.IsPlain : Json → Prop
  | .arr _ => False
  | .obj _ => False
  | .odd _ => False
  | _ => True

/-- The value can be kept in a lenient column: it is plain, and if it is a whole number, it has eight bytes at most. -/
def Json.IsColumn (j : Json) : Prop := j.IsPlain ∧ Column.fits j = true

def Request.Carries (r : Request) (payload : Json) : Prop := ∃ l, r.body = .bytes l ∧ Request.valueOf l = .ok payload

/-- The first slash of a full name stands between an owner and a name. A full name without a slash is all name. -/
def IsSplitInto (full owner name : List Char) : Prop :=
  (full = owner ++ '/' :: name ∧ '/' ∉ owner) ∨ ('/' ∉ full ∧ owner = [] ∧ name = full)

/-- The repository has the owner and the name that a full name gives. -/
def RepositoryRow.IsNamed (row : RepositoryRow) (full : String) : Prop :=
  ∃ owner name, IsSplitInto full.toList owner name ∧
    row.githubOwner = some (String.ofList owner) ∧ row.githubRepo = some (String.ofList name)

/-- The repository is the first one that has the owner and the name that a full name gives. -/
def Store.Tracks (s : Store) (full : String) (row : RepositoryRow) : Prop :=
  row.IsNamed full ∧ ∃ before after, s.repositories = before ++ row :: after ∧ ∀ r ∈ before, ¬ r.IsNamed full

namespace CodeHost

def webhook : CodeHost → Request → Answering Json
  | github => Api.githubWebhook
  | gitlab => Api.gitlabWebhook

def secret? : CodeHost → Settings → Option String
  | github, s => s.githubWebhookSecret
  | gitlab, s => s.gitlabWebhookToken

/-- The header in which a host shows that it knows the secret. -/
def sealHeader : CodeHost → String
  | github => "x-hub-signature-256"
  | gitlab => "x-gitlab-token"

/-- What a host shows of a secret: a signature of the body, or the secret itself. -/
def sealOf : CodeHost → String → Request → String
  | github, secret, r => "sha256=" ++
    Digest.hexText (Digest.Sha256.hmac (Text.Utf8.encode secret.toList) (Api.bodyBytes r))
  | gitlab, secret, _ => secret

/-- There is no secret, or the request shows that its sender knows it. -/
def Trusts (host : CodeHost) (settings : Settings) (r : Request) : Prop :=
  ∀ secret, host.secret? settings = some secret → secret ≠ "" → r.header? host.sealHeader = some (host.sealOf secret r)

def eventHeader : CodeHost → String
  | github => "x-github-event"
  | gitlab => "x-gitlab-event"

def event : CodeHost → String
  | github => "pull_request"
  | gitlab => "Merge Request Hook"

def HasAction : CodeHost → Json → Prop
  | github, payload => ∃ action ∈ ["opened", "synchronize", "reopened"], payload.get? "action" = some (.str action)
  | gitlab, payload => ∃ merge, payload.Holds "object_attributes" (.obj []) merge ∧
    ∃ action ∈ ["open", "update", "reopen"], merge.get? "action" = some (.str action)

def Names : CodeHost → Json → String → Prop
  | github, payload, full => ∃ repository, payload.Holds "repository" (.obj []) repository ∧
    repository.Holds "full_name" (.str "") (.str full)
  | gitlab, payload, full => ∃ project, payload.Holds "project" (.obj []) project ∧
    project.Holds "path_with_namespace" (.str "") (.str full)

/-- The payload describes its pull request or merge request by records and by values that the columns of a run take. -/
def Describes (d : Database) : CodeHost → Json → Prop
  | github, payload => ∃ pull head, payload.Holds "pull_request" (.obj []) pull ∧ pull.Holds "head" (.obj []) head ∧
    head.Gives "ref" (d.text? Api.branchWidth) ∧ head.Gives "sha" (d.text? Api.commitWidth) ∧
    pull.Gives "number" d.whole? ∧ pull.Gives "title" (d.text? Api.titleWidth)
  | gitlab, payload => ∃ merge last, payload.Holds "object_attributes" (.obj []) merge ∧
    merge.Holds "last_commit" .null last ∧
    (if last.truthy then last.Gives "id" (d.text? Api.commitWidth) else (d.text? Api.commitWidth .null).isSome) ∧
    merge.Gives "source_branch" (d.text? Api.branchWidth) ∧
    merge.Gives "iid" d.whole? ∧ merge.Gives "title" (d.text? Api.titleWidth)

/-- A host that is trusted asks for a run: event and action are worked on, and the payload names the repository. -/
structure Admits (host : CodeHost) (v : Service) (r : Request) (payload : Json) (row : RepositoryRow) : Prop where
  trusted : host.Trusts v.settings r
  event : r.header? host.eventHeader = some host.event
  carries : r.Carries payload
  action : host.HasAction payload
  tracked : ∃ full, host.Names payload full ∧ v.store.Tracks full row

end CodeHost

/-! ## Reading what hosts send -/

section

variable {owner : List Char} (h : '/' ∉ owner) (name : List Char)

include h

theorem bne_slash_of_mem : ∀ c ∈ owner, (c != '/') = true := fun _ hc => bne_iff_ne.2 fun hslash => h (hslash ▸ hc)

theorem takeWhile_append_slash : (owner ++ '/' :: name).takeWhile (· != '/') = owner := by
  rw [List.takeWhile_append_of_pos (bne_slash_of_mem h), List.takeWhile_cons_of_neg (by decide), List.append_nil]

theorem dropWhile_append_slash : (owner ++ '/' :: name).dropWhile (· != '/') = '/' :: name := by
  rw [List.dropWhile_append_of_pos (bne_slash_of_mem h), List.dropWhile_cons_of_neg (by decide)]

end

theorem IsSplitInto.unique {full owner name owner' name' : List Char} (h : IsSplitInto full owner name)
    (h' : IsSplitInto full owner' name') : owner = owner' ∧ name = name' := by
  rcases h with ⟨rfl, howner⟩ | ⟨hnone, rfl, rfl⟩ <;> rcases h' with ⟨hfull, howner'⟩ | ⟨hnone', rfl, rfl⟩
  · obtain rfl : owner = owner' := by
      rw [← takeWhile_append_slash howner name, hfull, takeWhile_append_slash howner']
    exact ⟨rfl, List.tail_eq_of_cons_eq (List.append_cancel_left hfull)⟩
  · simp at hnone'
  · simp [hfull] at hnone
  · exact ⟨rfl, rfl⟩

theorem Json.Holds.unique {j : Json} {key : String} {standard value other : Json} (h : j.Holds key standard value)
    (hother : j.Holds key standard other) : value = other := h.choose_spec.2.symm.trans hother.choose_spec.2

theorem Json.holds_of_get? {j : Json} {key : String} {value : Json} (h : j.get? key = some value) (standard : Json) :
    j.Holds key standard value := by
  refine ⟨j.fields?.getD [], ?_, by rw [h]; rfl⟩
  cases j with
  | obj fields => rfl
  | _ => cases h

theorem Column.isSome_text?_iff (j : Json) : (text? j).isSome ↔ j.IsPlain := by
  cases j <;> simp [text?, Json.IsPlain]

theorem Column.isSome_whole?_iff (j : Json) : (whole? j).isSome ↔ j.IsPlain := by
  cases j <;> simp [whole?, Json.IsPlain]

namespace Database

theorem isSome_lenient_text?_iff (width : Nat) (j : Json) : (lenient.text? width j).isSome ↔ j.IsColumn := by
  rw [Json.IsColumn, ← Column.isSome_text?_iff, and_comm]
  show (if Column.fits j then Column.text? j else none).isSome ↔ _
  split <;> simp_all

theorem isSome_lenient_whole?_iff (j : Json) : (lenient.whole? j).isSome ↔ j.IsColumn := by
  rw [Json.IsColumn, ← Column.isSome_whole?_iff, and_comm]
  show (if Column.fits j then Column.whole? j else none).isSome ↔ _
  split <;> simp_all

end Database

namespace Digest

theorem toNat_digitChar_le {d : Nat} (h : d < 16) : (Nat.digitChar d).toNat ≤ 127 := by
  decide +revert

theorem toNat_le_of_mem_hexText {l : List UInt8} {c : Char} (h : c ∈ (hexText l).toList) : c.toNat ≤ 127 := by
  unfold hexText at h
  rw [String.toList_ofList] at h
  obtain ⟨b, -, hc⟩ := List.mem_flatMap.1 h
  have hbyte := b.toNat_lt
  rcases List.mem_pair.1 hc with rfl | rfl
  · exact toNat_digitChar_le (by omega)
  · exact toNat_digitChar_le (by omega)

end Digest

namespace Api

theorem toNat_le_of_mem_signature {key : String} {l : List UInt8} {c : Char} (h : c ∈ (signature key l).toList) :
    c.toNat ≤ 127 := by
  unfold signature at h
  rw [String.toList_append] at h
  rcases List.mem_append.1 h with hc | hc
  · have hall : ("sha256=".toList.all fun c => c.toNat ≤ 127) = true := by decide
    exact of_decide_eq_true (List.all_eq_true.1 hall c hc)
  · exact Digest.toNat_le_of_mem_hexText hc

theorem signature_ne_empty (key : String) (l : List UInt8) : signature key l ≠ "" := by
  intro h
  have hlist := congrArg String.toList h
  unfold signature at hlist
  rw [String.toList_append] at hlist
  cases hlist

/-- A missing header counts as an empty one, but that is no signature. -/
theorem getD_eq_signature_iff {header : Option String} {key : String} {l : List UInt8} :
    header.getD "" = signature key l ↔ header = some (signature key l) := by
  cases header with
  | none => exact iff_of_false (fun h => signature_ne_empty key l h.symm) nofun
  | some given => rw [Option.getD_some, Option.some_inj]

end Api

namespace Answering

variable {α β : Type}

namespace Yields

theorem of_checkSignature (secret : Option String) (r : Request) (v : Service) :
    Yields (Api.checkSignature secret r) v fun _ => ∀ key, secret = some key → key ≠ "" →
      r.header? "x-hub-signature-256" = some (Api.signature key (Api.bodyBytes r)) := by
  unfold Api.checkSignature
  split
  next hsecret =>
    refine (ok () v).congr fun _ => iff_of_true rfl fun key hgiven hne => absurd ?_ hne
    have hempty := Option.filter_eq_none_iff.1 hsecret key hgiven
    simpa using hempty
  next key hsecret =>
    obtain ⟨rfl, hne⟩ := Option.filter_eq_some_iff.1 hsecret
    extract_lets given rest
    have hrest : ∀ u, Yields (rest u) v fun _ => given = Api.signature key (Api.bodyBytes r) := by
      refine fun u => (refuse_if _ v).congr fun _ => ?_
      rw [bne_iff_ne, not_not]
    refine Yields.congr (P := fun _ => given = Api.signature key (Api.bodyBytes r)) ?_ fun _ => ?_
    · split
      next hwide =>
        -- a header that cannot be compared is not the signature, all of whose characters are narrow
        refine ((error _ v).bind hrest).congr fun _ => iff_of_false (fun ⟨_, h, _⟩ => h) fun hsame => ?_
        obtain ⟨c, hc, hlarge⟩ := List.any_eq_true.1 hwide
        have hsmall := Api.toNat_le_of_mem_signature (hsame ▸ hc)
        exact absurd (of_decide_eq_true hlarge) (by omega)
      next => exact hrest ()
    · rw [Api.getD_eq_signature_iff]
      simp only [Option.some_inj, forall_eq']
      exact ⟨fun h _ => h, fun h => h (by simpa using hne)⟩

theorem of_checkToken (token : Option String) (r : Request) (v : Service) :
    Yields (Api.checkToken token r) v fun _ => ∀ key, token = some key → key ≠ "" →
      r.header? "x-gitlab-token" = some key := by
  refine (refuse_if _ v).congr fun _ => ?_
  cases token with
  | none => simp [Settings.isGiven]
  | some key =>
    simp only [Settings.isGiven, Option.any_some, Bool.and_eq_true, Bool.not_eq_true', String.isEmpty_eq_false_iff,
      bne_iff_ne, not_and, not_not, Option.some_inj, forall_eq']

theorem of_value (r : Request) (v : Service) : Yields r.value v r.Carries := by
  unfold Request.value Request.Carries
  cases r.body with
  | bytes l =>
    dsimp only
    cases hvalue : Request.valueOf l with
    | ok j =>
      refine (ok j v).congr fun a => ⟨?_, ?_⟩
      · rintro rfl
        exact ⟨l, rfl, hvalue⟩
      · rintro ⟨_, ⟨⟩, hvalue'⟩
        exact Except.ok.inj (hvalue'.symm.trans hvalue)
    | error e =>
      refine (error _ v).congr fun a => iff_of_false not_false ?_
      rintro ⟨_, ⟨⟩, hvalue'⟩
      cases hvalue'.symm.trans hvalue
  | empty => exact (error _ v).congr fun a => iff_of_false not_false (by rintro ⟨_, ⟨⟩, _⟩)
  | upload name files => exact (error _ v).congr fun a => iff_of_false not_false (by rintro ⟨_, ⟨⟩, _⟩)

theorem of_payloadField (j : Json) (key : String) (standard : Json) (v : Service) :
    Yields (Api.payloadField j key standard) v (j.Holds key standard) := by
  unfold Api.payloadField Json.Holds
  split
  · refine (ok _ v).congr fun a => ?_
    simp [eq_comm]
  · refine (error _ v).congr fun a => ?_
    simp_all

theorem of_fullName (j : Json) (v : Service) : Yields (Api.fullName j) v (j = .str ·) := by
  unfold Api.fullName
  split
  · refine (ok _ v).congr fun a => ?_
    simp [eq_comm]
  · refine (error _ v).congr fun a => ?_
    simp_all

theorem of_storable (kept : Option α) (v : Service) : Yields (Api.storable kept) v (kept = some ·) :=
  of_unbroken kept .badValue v

end Yields

namespace Succeeds

variable {f : α → Answering β} {v : Service} {p : Prop}

theorem of_storable (kept : Option α) (hf : ∀ a, Succeeds (f a) v p) :
    Succeeds (Api.storable kept >>= f) v (kept.isSome ∧ p) := by
  obtain ⟨P, hyields, hiff⟩ := bind (.of_storable kept v) hf
  refine ⟨P, hyields, hiff.trans ?_⟩
  rw [Option.isSome_iff_exists, exists_and_right]

theorem of_column (read : Json → Option α) (j : Json) (key : String) (hf : ∀ a, Succeeds (f a) v p) :
    Succeeds (Api.payloadField j key .null >>= fun x => Api.storable (read x) >>= f) v (j.Gives key read ∧ p) := by
  obtain ⟨P, hyields, hiff⟩ := bind (.of_payloadField j key .null v) fun x => of_storable (read x) hf
  refine ⟨P, hyields, hiff.trans ?_⟩
  simp only [Json.Gives, ← and_assoc, exists_and_right]

end Succeeds

end Answering

namespace Api

open Answering

theorem succeeds_pullRequest (d : Database) (pull : Json) (v : Service) :
    Succeeds (pullRequest d pull) v (∃ head, pull.Holds "head" (.obj []) head ∧
      head.Gives "ref" (d.text? branchWidth) ∧ head.Gives "sha" (d.text? commitWidth) ∧
      pull.Gives "number" d.whole? ∧ pull.Gives "title" (d.text? titleWidth) ∧ True) := by
  unfold pullRequest
  refine .bind (.of_payloadField _ _ _ v) fun head => ?_
  refine .of_column _ head "ref" fun branch => .of_column _ head "sha" fun commit => ?_
  exact .of_column _ pull "number" fun number => .of_column _ pull "title" fun title => .ok _ v

theorem succeeds_mergeRequest (d : Database) (merge : Json) (v : Service) :
    Succeeds (mergeRequest d merge) v (∃ branch, merge.Holds "source_branch" .null branch ∧
      ∃ last, merge.Holds "last_commit" .null last ∧
        ∃ commit, (if last.truthy then last.Holds "id" .null commit else commit = .null) ∧
          (d.text? branchWidth branch).isSome ∧ (d.text? commitWidth commit).isSome ∧
          merge.Gives "iid" d.whole? ∧ merge.Gives "title" (d.text? titleWidth) ∧ True) := by
  unfold mergeRequest
  refine .bind (.of_payloadField _ _ _ v) fun branch => .bind (.of_payloadField _ _ _ v) fun last => ?_
  extract_lets rest
  have hrest : ∀ commit, Succeeds (rest commit) v
      ((d.text? branchWidth branch).isSome ∧ (d.text? commitWidth commit).isSome ∧
        merge.Gives "iid" d.whole? ∧ merge.Gives "title" (d.text? titleWidth) ∧ True) := by
    intro commit
    refine .of_storable _ fun _ => .of_storable _ fun _ => ?_
    exact .of_column _ merge "iid" fun number => .of_column _ merge "title" fun title => .ok _ v
  split
  · exact .bind (.of_payloadField _ _ _ v) hrest
  · exact .bind (.ok _ v) hrest

theorem exists_split (full : List Char) : ∃ owner name, IsSplitInto full owner name := by
  by_cases hslash : '/' ∈ full
  · obtain ⟨owner, name, hfull, howner⟩ := List.eq_append_cons_of_mem hslash
    exact ⟨owner, name, .inl ⟨hfull, howner⟩⟩
  · exact ⟨[], full, .inr ⟨hslash, rfl, rfl⟩⟩

theorem trackedRepository_eq {full : String} {owner name : List Char}
    (hsplit : IsSplitInto full.toList owner name) (s : Store) :
    trackedRepository s full = s.repositories.find? fun r =>
      r.githubOwner == some (String.ofList owner) && r.githubRepo == some (String.ofList name) := by
  unfold trackedRepository
  rcases hsplit with ⟨hfull, howner⟩ | ⟨hnone, rfl, rfl⟩
  · have htake : full.toList.takeWhile (· != '/') = owner := by rw [hfull, takeWhile_append_slash howner]
    have hdrop : full.toList.dropWhile (· != '/') = '/' :: name := by rw [hfull, dropWhile_append_slash howner]
    have hslash : full.toList.contains '/' = true := List.contains_iff_mem.2 (by rw [hfull]; simp)
    simp only [htake, hdrop, hslash, if_true, List.drop_one, List.tail_cons]
  · have hslash : full.toList.contains '/' = false := by simpa using hnone
    simp only [hslash, Bool.false_eq_true, if_false]

theorem trackedRepository_eq_some_iff {s : Store} {full : String} {row : RepositoryRow} :
    trackedRepository s full = some row ↔ s.Tracks full row := by
  obtain ⟨owner, name, hsplit⟩ := exists_split full.toList
  have hnamed : ∀ r : RepositoryRow,
      (r.githubOwner == some (String.ofList owner) && r.githubRepo == some (String.ofList name)) = true ↔
        r.IsNamed full := by
    intro r
    rw [Bool.and_eq_true, beq_iff_eq, beq_iff_eq]
    constructor
    · exact fun h => ⟨owner, name, hsplit, h⟩
    · rintro ⟨owner', name', hsplit', h⟩
      obtain ⟨rfl, rfl⟩ := hsplit.unique hsplit'
      exact h
  rw [trackedRepository_eq hsplit, List.find?_eq_some_iff_append]
  simp only [hnamed, Bool.not_eq_true', ← Bool.not_eq_true, Store.Tracks]

theorem runsIf_runTracked {v : Service} (hnew : ∀ run ∈ v.store.runs, run.id ≠ v.store.nextId) (full : String)
    {request : Answering Store.RunRequest} {p : Prop} (hrequest : Succeeds request v p)
    {more : Gate.Result → List (String × Json)} (hmore : ∀ result, (Json.obj (more result)).isSendable) :
    RunsIf (runTracked full request more) v fun row => v.store.Tracks full row ∧ p := by
  obtain ⟨P, hyields, hiff⟩ := hrequest
  have hsays : ∀ run result, (Response.ofResult (.ok (.obj (completed run result ++ more result)))).SaysCompleted := by
    intro run result
    have hsent : (Json.obj (completed run result ++ more result)).isSendable = true := hmore result
    rw [Response.ofResult, if_pos hsent]
    exact ⟨rfl, rfl⟩
  unfold runTracked
  refine (RunsIf.bind (P := fun s row => trackedRepository s full = some row ∧ p) (.of_store v) fun s => ?_).congr ?_
  · cases trackedRepository s full with
    | none => exact (RunsIf.other (by decide) _ v).congr fun row => iff_of_false not_false (by rintro ⟨⟨⟩, -⟩)
    | some row =>
      refine (RunsIf.bind hyields fun request => .runGate hnew row request fun p => hsays p.1 p.2).congr fun row' => ?_
      rw [exists_and_right, hiff, and_comm, Option.some_inj, eq_comm]
  · intro row
    rw [exists_eq_left, trackedRepository_eq_some_iff]

/-- A field says one of some words if it is there and is one of them, since what stands for a missing one is none of
them. -/
theorem holds_isOneOf_iff {words : List String} (standard : Json) (hstandard : isOneOf words standard = false)
    (j : Json) (key : String) :
    (∃ value, j.Holds key standard value ∧ isOneOf words value = true) ↔
      ∃ word ∈ words, j.get? key = some (.str word) := by
  constructor
  · rintro ⟨value, ⟨fields, -, hvalue⟩, hone⟩
    cases hfield : j.get? key with
    | none =>
      rw [hfield] at hvalue
      obtain rfl : standard = value := hvalue
      rw [hstandard] at hone
      cases hone
    | some found =>
      rw [hfield] at hvalue
      obtain rfl : found = value := hvalue
      cases found with
      | str word => exact ⟨word, List.contains_iff_mem.1 hone, rfl⟩
      | _ => cases hone
  · rintro ⟨word, hword, hfield⟩
    refine ⟨.str word, Json.holds_of_get? hfield standard, List.contains_iff_mem.2 hword⟩

theorem runsIf_githubWebhook {v : Service} (hnew : ∀ run ∈ v.store.runs, run.id ≠ v.store.nextId) (r : Request) :
    RunsIf (githubWebhook r) v fun row =>
      ∃ payload, CodeHost.github.Admits v r payload row ∧ CodeHost.github.Describes v.database payload := by
  unfold githubWebhook
  -- The condition for a run is put together from what each step asks for.
  refine RunsIf.congr (.bind (.of_settings v) fun settings => .bind (.of_checkSignature _ r v) fun _ =>
    .guarded (.other (by decide) _ v)
    (.bind (.of_value r v) fun payload => .bind (.of_payloadField _ _ _ v) fun action =>
      .guarded (.other (by decide) _ v) (.bind (.of_payloadField _ _ _ v) fun pull =>
        .bind (.of_payloadField _ _ _ v) fun repository => .bind (.of_payloadField _ _ _ v) fun full =>
          .bind (.of_fullName _ v) fun name => .bind (.of_service v) fun service =>
            runsIf_runTracked hnew name (succeeds_pullRequest service.database pull v) fun result => rfl)))
    fun row => ⟨?_, ?_⟩
  · rintro ⟨_, rfl, _, htrusts, hevent, payload, hcarries, action, haction, hone, pull, hpull, repository, hrepository,
      _, hfull, full, rfl, _, rfl, htracks, head, hhead, href, hsha, hnumber, htitle, -⟩
    refine ⟨payload, ?_, pull, head, hpull, hhead, href, hsha, hnumber, htitle⟩
    exact {
      trusted := htrusts
      event := beq_iff_eq.1 hevent
      carries := hcarries
      action := (holds_isOneOf_iff _ rfl payload "action").1 ⟨action, haction, hone⟩
      tracked := ⟨full, ⟨repository, hrepository, hfull⟩, htracks⟩ }
  · rintro ⟨payload, h, pull, head, hpull, hhead, href, hsha, hnumber, htitle⟩
    obtain ⟨action, haction, hone⟩ := (holds_isOneOf_iff (.str "") rfl payload "action").2 h.action
    obtain ⟨full, ⟨repository, hrepository, hfull⟩, htracks⟩ := h.tracked
    exact ⟨_, rfl, (), h.trusted, beq_iff_eq.2 h.event, payload, h.carries, action, haction, hone, pull, hpull,
      repository, hrepository, _, hfull, full, rfl, _, rfl, htracks, head, hhead, href, hsha, hnumber, htitle, trivial⟩

theorem runsIf_gitlabWebhook {v : Service} (hnew : ∀ run ∈ v.store.runs, run.id ≠ v.store.nextId) (r : Request) :
    RunsIf (gitlabWebhook r) v fun row =>
      ∃ payload, CodeHost.gitlab.Admits v r payload row ∧ CodeHost.gitlab.Describes v.database payload := by
  unfold gitlabWebhook
  refine RunsIf.congr (.bind (.of_settings v) fun settings => .bind (.of_checkToken _ r v) fun _ =>
    .guarded (.other (by decide) _ v)
    (.bind (.of_value r v) fun payload => .bind (.of_payloadField _ _ _ v) fun merge =>
      .bind (.of_payloadField _ _ _ v) fun action => .guarded (.other (by decide) _ v)
        (.bind (.of_payloadField _ _ _ v) fun project => .bind (.of_payloadField _ _ _ v) fun path =>
          .bind (.of_fullName _ v) fun name => .bind (.of_service v) fun service =>
            runsIf_runTracked hnew name (succeeds_mergeRequest service.database merge v) fun result => rfl)))
    fun row => ⟨?_, ?_⟩
  · rintro ⟨_, rfl, _, htrusts, hevent, payload, hcarries, merge, hmerge, action, haction, hone, project, hproject,
      _, hfull, full, rfl, _, rfl, htracks, branch, hbranch, last, hlast, commit, hid, hstored, hcommit,
      hnumber, htitle, -⟩
    refine ⟨payload, ?_, merge, last, hmerge, hlast, ?_, ⟨branch, hbranch, hstored⟩, hnumber, htitle⟩
    · exact {
        trusted := htrusts
        event := beq_iff_eq.1 hevent
        carries := hcarries
        action := ⟨merge, hmerge, (holds_isOneOf_iff _ rfl merge "action").1 ⟨action, haction, hone⟩⟩
        tracked := ⟨full, ⟨project, hproject, hfull⟩, htracks⟩ }
    · by_cases htrue : last.truthy = true
      · rw [if_pos htrue] at hid ⊢
        exact ⟨commit, hid, hcommit⟩
      · rw [if_neg htrue] at hid ⊢
        exact hid ▸ hcommit
  · rintro ⟨payload, h, merge, last, hmerge, hlast, hid, ⟨branch, hbranch, hstored⟩, hnumber, htitle⟩
    obtain ⟨merge', hmerge', hwords⟩ := h.action
    obtain rfl : merge' = merge := hmerge'.unique hmerge
    obtain ⟨action, haction, hone⟩ := (holds_isOneOf_iff .null rfl merge' "action").2 hwords
    obtain ⟨full, ⟨project, hproject, hfull⟩, htracks⟩ := h.tracked
    have hcommit : ∃ commit, (if last.truthy then last.Holds "id" .null commit else commit = .null) ∧
        (v.database.text? commitWidth commit).isSome := by
      by_cases htrue : last.truthy = true
      · simpa only [if_pos htrue, Json.Gives] using hid
      · rw [if_neg htrue] at hid
        exact ⟨.null, by rw [if_neg htrue], hid⟩
    obtain ⟨commit, hid, hcommit⟩ := hcommit
    exact ⟨_, rfl, (), h.trusted, beq_iff_eq.2 h.event, payload, h.carries, merge', hmerge, action, haction, hone,
      project, hproject, _, hfull, full, rfl, _, rfl, htracks, branch, hbranch, last, hlast, commit, hid, hstored,
      hcommit, hnumber, htitle, trivial⟩

theorem runsIf_webhook {v : Service} (hnew : ∀ run ∈ v.store.runs, run.id ≠ v.store.nextId) (host : CodeHost)
    (r : Request) :
    RunsIf (host.webhook r) v fun row => ∃ payload, host.Admits v r payload row ∧
      host.Describes v.database payload := by
  cases host with
  | github => exact runsIf_githubWebhook hnew r
  | gitlab => exact runsIf_gitlabWebhook hnew r

end Api

/-- A webhook is worked on exactly if its host is trusted, its event and its action are those that are worked on, its
payload names a repository that is known and describes the request for a change by values that can be kept, and no limit
for the findings of that repository is missing. It then adds one finished run of that repository, and at most a gate for
it. If a limit is missing, the request fails and leaves an open run of the repository. Whatever else comes, in whatever
shape, leaves the service as it is. A lenient database keeps every plain value whose size it can hold. -/
theorem webhook_completes_iff_admitted (host : CodeHost) (r : Request) (v : Service)
    (hnew : ∀ run ∈ v.store.runs, run.id ≠ v.store.nextId) :
    let out := (host.webhook r).run v
    let answer := Response.ofResult out.1
    (answer.SaysCompleted ↔ ∃ payload row, host.Admits v r payload row ∧ host.Describes v.database payload ∧
      (v.store.limitsOf row.id).AreSet) ∧
    (answer.SaysCompleted → ∃ payload row t,
      host.Admits v r payload row ∧ out.2 = { v with store := t } ∧ v.store.AddsRun t row.id) ∧
    (∀ payload row, host.Admits v r payload row → host.Describes v.database payload →
      ¬ (v.store.limitsOf row.id).AreSet →
        answer.status = 500 ∧ ∃ t, out.2 = { v with store := t } ∧ v.store.LeavesRun t row.id) ∧
    ((∀ payload row, host.Admits v r payload row → ¬ host.Describes v.database payload) →
      ¬ answer.SaysCompleted ∧ out.2 = v) ∧
    ∀ width j, ((Database.lenient.text? width j).isSome ↔ j.IsColumn) ∧
      ((Database.lenient.whole? j).isSome ↔ j.IsColumn) := by
  intro out answer
  obtain ⟨hcompleted, hadds, hleaves, hnone⟩ := (Api.runsIf_webhook hnew host r).outcome
  refine ⟨hcompleted.trans ?_, fun hsays => ?_, fun payload row ha hd => hleaves row ⟨payload, ha, hd⟩,
    fun h => hnone ?_,
    fun width j => ⟨Database.isSome_lenient_text?_iff width j, Database.isSome_lenient_whole?_iff j⟩⟩
  · constructor
    · rintro ⟨row, ⟨payload, ha, hd⟩, hset⟩
      exact ⟨payload, row, ha, hd, hset⟩
    · rintro ⟨payload, row, ha, hd, hset⟩
      exact ⟨row, ⟨payload, ha, hd⟩, hset⟩
  · obtain ⟨row, t, ⟨payload, ha, -⟩, hout, hrun⟩ := hadds hsays
    exact ⟨payload, row, t, ha, hout, hrun⟩
  · rintro row ⟨payload, ha, hd⟩
    exact h payload row ha hd

/-- A store with one repository that is known by its owner and its name. -/
def Store.hosted : Store :=
  ({} : Store).addRepository fun id now =>
    { RepositoryRow.blank "acme/app" id now with githubOwner := "acme", githubRepo := "app" }

def Request.pullOpened : Request :=
  ⟨"POST", [], [], [("X-GitHub-Event", "pull_request")], .ofText ("\x7b\"action\": \"opened\", " ++
    "\"pull_request\": \x7b\"number\": 7\x7d, \"repository\": \x7b\"full_name\": \"acme/app\"\x7d\x7d")⟩

theorem webhook_completes_iff_admitted_pullOpened :
    ∃ payload row t, CodeHost.github.Admits (.idle .hosted) .pullOpened payload row ∧
      ((CodeHost.github.webhook .pullOpened).run (.idle .hosted)).2 = { Service.idle .hosted with store := t } ∧
      Store.hosted.AddsRun t row.id :=
  (webhook_completes_iff_admitted .github .pullOpened (.idle .hosted) nofun).2.1 (by decide +kernel)

/-- If the gate of the repository has no limit for code smells, the same request fails, and leaves a run that is
running. -/
theorem webhook_leaves_run_running :
    let v : Service := .idle (Store.hosted.addGate fun id => ⟨id, Id.nth 0, { smells := none }⟩)
    let out := (CodeHost.github.webhook .pullOpened).run v
    (Response.ofResult out.1).status = 500 ∧ v.store.runs.map (·.status) = [] ∧
      out.2.store.runs.map (·.status) = ["running"] := by
  decide +kernel

end CodeSurvey
