/-
Imports of repositories that come one after the other. An order gives an address and a branch. Whatever its work does,
it keeps where the repositories come from (`Work.KeepsOrigins`). So after any requests the store has one repository for
each pair of an address and a branch that came in an order which can be carried out, as they were written
(`Store.Lists`). An address can be written in several ways; therefore the store may have a repository twice, and it does
exactly if it was ordered with the same branch under two addresses that are read alike
(`imports_distinct_iff_spelled_alike`).
-/
import CodeSurvey.Api.Hosting
import CodeSurvey.Proofs.Api.Answering
import CodeSurvey.Proofs.Parse.Bookkeeping

namespace CodeSurvey

/-! ## Where repositories come from -/

/-- Where a repository comes from, with its identifier. -/
structure Origin where
  id : Id
  url : Option String
  owner : Option String
  name : Option String
  branch : Option String

def RepositoryRow.origin (r : RepositoryRow) : Origin :=
  ⟨r.id, r.githubUrl, r.githubOwner, r.githubRepo, r.githubBranch⟩

namespace Store

def origins (s : Store) : List Origin := s.repositories.map RepositoryRow.origin

theorem origins_updateRepository (s : Store) (id : Id) {change : RepositoryRow → RepositoryRow}
    (hchange : ∀ r, (change r).origin = r.origin) : (s.updateRepository id change).origins = s.origins := by
  unfold origins updateRepository
  rw [List.map_map]
  refine List.map_congr_left fun r _ => ?_
  simp only [Function.comp_apply]
  split
  · exact hchange r
  · rfl

theorem origins_setStatus (s : Store) (id : Id) (status : RepoStatus) : (s.setStatus id status).origins = s.origins :=
  s.origins_updateRepository id fun _ => rfl

theorem origins_keepMetadata? (s : Store) {t : Store} {id : Id} {m : GitHub.Metadata}
    (h : s.keepMetadata? id m = some t) :
    t.origins = s.origins := by
  unfold keepMetadata? at h
  split at h
  · cases h
  · split at h
    · cases h
      exact s.origins_updateRepository id fun _ => rfl
    · cases h

theorem repositories_keepSources (s : Store) (id : Id) (read : List (SourceFile × List (Symbol × Option (List Char)))) :
    (s.keepSources id read).repositories = s.repositories := by
  induction read generalizing s with
  | nil => rfl
  | cons f read ih => exact ih (s.keepSource id f.1 f.2)

theorem origins_parse (s : Store) (id : Id) (trees : List (String × SyntaxTree)) (files : List SourceFile) :
    (s.parse id trees files).2.origins = s.origins := by
  show ((s.keepSources id _).updateRepository id _).origins = s.origins
  rw [origins_updateRepository, origins, repositories_keepSources, origins]
  exact fun _ => rfl

end Store

namespace Work

variable {α β γ : Type}

/-- The work leaves it as it is where the repositories come from. -/
def KeepsOrigins (x : Work α) : Prop := ∀ v, (x.run v).2.store.origins = v.store.origins

namespace KeepsOrigins

variable {x : Work α} {f : α → Work β}

theorem ok (a : α) : KeepsOrigins (pure a) := fun _ => rfl

theorem bind (hx : KeepsOrigins x) (hf : ∀ a, KeepsOrigins (f a)) : KeepsOrigins (x >>= f) :=
  fun v => (hf (x.run v).1 (x.run v).2).trans (hx v)

theorem of_get : KeepsOrigins (get : Work Service) := fun _ => rfl

theorem of_current : KeepsOrigins Service.current := fun _ => rfl

theorem of_commit {change : Store → Store} (h : ∀ s, (change s).origins = s.origins) :
    KeepsOrigins (Service.commit change) :=
  fun v => h v.store

theorem of_withWeb (talk : StateM WebService α) : KeepsOrigins (Service.withWeb talk) := fun _ => rfl

theorem of_withGit (talk : StateM GitService α) : KeepsOrigins (Service.withGit talk) := fun _ => rfl

/-- The store is read and replaced by one that was made from it; nothing comes in between. -/
theorem of_replace (make : Store → γ × Store) (hmake : ∀ s, (make s).2.origins = s.origins) {f : γ → Work β}
    (hf : ∀ c, KeepsOrigins (f c)) :
    KeepsOrigins (Service.current >>= fun s => Service.commit (fun _ => (make s).2) >>= fun _ => f (make s).1) :=
  fun v => (hf _ { v with store := (make v.store).2 }).trans (hmake v.store)

theorem of_afterParse (id : Id) : KeepsOrigins (afterParse id) :=
  fun v => congrArg (List.map RepositoryRow.origin) (sameRows_afterParse id v).repositories

theorem of_setStatus (id : Id) (status : RepoStatus) (a : α) :
    KeepsOrigins (Service.commit (fun s => s.setStatus id status) >>= fun _ => pure a) :=
  .bind (.of_commit fun s => s.origins_setStatus id status) fun _ => .ok a

theorem of_parseRepository (id : Id) (archive : Option Archive) (trees : List (String × SyntaxTree)) :
    KeepsOrigins (parseRepository id archive trees) := by
  unfold parseRepository
  refine .bind .of_current fun s => ?_
  split
  · exact .ok _
  refine .bind (.of_commit fun s => s.origins_setStatus id .processing) fun _ => ?_
  split
  · exact .of_setStatus id .failed _
  next files =>
    refine .bind .of_get fun v => ?_
    dsimp only
    refine .bind (fun _ => rfl) fun _ => ?_
    split
    · exact .of_setStatus id .failed _
    · let sources := sourceFiles ((v.disk.unpack (unpackPlace id) files).2.below (unpackPlace id))
      refine .of_replace (f := fun run => afterParse id >>= fun _ => pure (Except.ok run)) (fun s =>
        s.parse id trees sources)
        (fun s => s.origins_parse id trees sources) fun run => ?_
      exact .bind (.of_afterParse id) fun _ => .ok _

theorem of_learn (id : Id) (token : Option String) (owner name : String) :
    KeepsOrigins (learn id token owner name) := by
  unfold learn
  refine .bind .of_get fun v => .bind (.of_withWeb _) fun known => ?_
  split
  · exact .ok true
  next m =>
    -- what is kept is made from the store that is read here
    intro v
    have hcurrent : ∀ f : Store → Work Bool, (Service.current >>= f).run v = (f v.store).run v := fun _ => rfl
    rw [hcurrent]
    split
    next s hkept => exact v.store.origins_keepMetadata? hkept
    next => rfl

theorem of_fetchAndParse (id : Id) (order : ImportOrder) (owner name : String) :
    KeepsOrigins (fetchAndParse id order owner name) := by
  unfold fetchAndParse
  refine .bind .of_get fun v => ?_
  dsimp only
  split
  · exact .of_setStatus id .failed _
  refine .bind (.of_withGit _) fun fetched => ?_
  split
  · exact .of_setStatus id .failed _
  split
  · exact .of_setStatus id .failed _
  · refine .bind (.of_commit fun s => s.origins_updateRepository id fun _ => rfl) fun _ => ?_
    exact .bind (.of_parseRepository id _ _) fun _ => .ok _

theorem of_importRepository (id : Id) (order : ImportOrder) : KeepsOrigins (importRepository id order) := by
  unfold importRepository
  refine .bind .of_current fun s => ?_
  split
  · exact .ok _
  refine .bind (.of_commit fun s => s.origins_updateRepository id fun _ => rfl) fun _ => ?_
  split
  · exact .of_setStatus id .failed _
  · refine .bind (.of_learn id _ _ _) fun learned => ?_
    split
    · exact .of_fetchAndParse id order _ _
    · exact .ok _

end KeepsOrigins

end Work

/-! ## Orders -/

/-- The owner and the name that the address of an order is read as. -/
def ImportOrder.target? (o : ImportOrder) : Option (String × String) :=
  (GitHub.readWeb o.url.toList).toOption.map fun p => (String.ofList p.1, String.ofList p.2)

/-- The order that a request gives, if the request can be read and the address too. -/
def Request.order? (r : Request) : Option ImportOrder :=
  (r.record?.bind fun j => (Api.importOrder j).toOption).filter fun o => o.target?.isSome

/-- What a repository comes from is what an order asks for. -/
structure Origin.IsOf (p : Origin) (o : ImportOrder) : Prop where
  url : p.url = some o.url
  branch : p.branch = some o.branch
  target : ∃ owner name, o.target? = some (owner, name) ∧ p.owner = some owner ∧ p.name = some name

theorem Origin.IsOf.target?_eq {p q : Origin} {a b : ImportOrder} (hp : p.IsOf a) (hq : q.IsOf b)
    (howner : p.owner = q.owner) (hname : p.name = q.name) : a.target? = b.target? := by
  obtain ⟨owner, name, ha, howner', hname'⟩ := hp.target
  obtain ⟨owner', name', hb, howner'', hname''⟩ := hq.target
  rw [howner', howner'', Option.some_inj] at howner
  rw [hname', hname'', Option.some_inj] at hname
  rw [ha, hb, howner, hname]

namespace Api

open Answering

/-- A request that gives no order is refused, and nothing changes. -/
theorem run_importNew_of_none {r : Request} (h : r.order? = none) (v : Service) :
    ∃ e, (importNew r).run v = (.error e, v) := by
  unfold importNew
  rcases (Yields.of_record r v).cases with ⟨e, hrecord, -⟩ | ⟨j, hrecord, hj⟩
  · exact ⟨e, run_bind_error hrecord⟩
  rw [run_bind_ok hrecord]
  rcases (Yields.of_accepted (importOrder j) v).cases with ⟨e, horder, -⟩ | ⟨o, horder, ho⟩
  · exact ⟨e, run_bind_error horder⟩
  rw [run_bind_ok horder]
  have htarget : o.target? = none := by
    unfold Request.order? at h
    rw [(hj j).2 rfl, Option.bind_some, (ho o).2 rfl] at h
    simpa using h
  unfold ImportOrder.target? at htarget
  cases hweb : GitHub.readWeb o.url.toList with
  | error e => exact ⟨_, rfl⟩
  | ok p =>
    rw [hweb] at htarget
    cases htarget

theorem run_importNew_of_some {r : Request} {o : ImportOrder} (h : r.order? = some o) :
    ∃ owner name, o.target? = some (owner, name) ∧ ∀ v, (importNew r).run v = (importOrdered o owner name).run v := by
  obtain ⟨hgiven, htarget⟩ := Option.filter_eq_some_iff.1 h
  obtain ⟨j, hrecord, horder⟩ := Option.bind_eq_some_iff.1 hgiven
  unfold ImportOrder.target? at *
  cases hweb : GitHub.readWeb o.url.toList with
  | error e =>
    rw [hweb] at htarget
    cases htarget
  | ok p =>
    refine ⟨_, _, rfl, fun v => ?_⟩
    unfold importNew
    rw [run_bind_ok ((Yields.of_record r v).run_eq hrecord), run_bind_ok ((Yields.of_accepted _ v).run_eq horder), hweb]

/-- An order is refused exactly if its address and its branch have come before, as they are written. -/
theorem importOrdered_cases {o : ImportOrder} {owner name : String} (h : o.target? = some (owner, name)) (v : Service) :
    (∃ p ∈ v.store.origins, p.url = some o.url ∧ p.branch = some o.branch ∧
      (importOrdered o owner name).run v = (.error (.refused 409 ("Repository already imported: " ++ p.id.text)), v)) ∨
    ((∀ p ∈ v.store.origins, p.url = some o.url → p.branch ≠ some o.branch) ∧
      ∃ body w p, (importOrdered o owner name).run v = (.ok body, w) ∧ w.store.origins = v.store.origins ++ [p] ∧
        p.IsOf o) := by
  unfold importOrdered
  rw [run_bind_ok (run_store v)]
  dsimp only
  cases hfound : v.store.imported? o.url o.branch with
  | some row =>
    obtain ⟨hurl, hbranch⟩ := Bool.and_eq_true_iff.1 (List.find?_some hfound :)
    exact .inl ⟨row.origin, List.mem_map_of_mem (List.mem_of_find?_eq_some hfound), beq_iff_eq.1 hurl,
      beq_iff_eq.1 hbranch, rfl⟩
  | none =>
    refine .inr ⟨?_, ?_⟩
    · intro p hp hurl hbranch
      obtain ⟨row, hrow, rfl⟩ := List.mem_map.1 hp
      have hother := List.find?_eq_none.1 hfound row hrow
      exact hother (Bool.and_eq_true_iff.2 ⟨beq_iff_eq.2 hurl, beq_iff_eq.2 hbranch⟩)
    · let added : Service := { v with store := v.store.addRepository (RepositoryRow.ordered o owner name) }
      have hkept := Work.KeepsOrigins.of_importRepository v.store.nextId o added
      refine ⟨_, _, (RepositoryRow.ordered o owner name v.store.nextId v.store.now).origin, rfl, hkept.trans ?_, ?_⟩
      · exact List.map_append
      · exact ⟨rfl, rfl, owner, name, h, rfl, rfl⟩

end Api

/-! ## Requests one after the other -/

def Service.afterImport (v : Service) (r : Request) : Service := ((Api.importNew r).run v).2

def Service.afterImports (v : Service) (requests : List Request) : Service := requests.foldl Service.afterImport v

/-- The store has one repository for each address and branch of the orders, as they are written. -/
structure Store.Lists (s : Store) (orders : List ImportOrder) : Prop where
  distinct : (s.origins.map fun p => (p.url, p.branch)).Nodup
  ordered : ∀ p ∈ s.origins, ∃ o ∈ orders, p.IsOf o
  complete : ∀ o ∈ orders, ∃ p ∈ s.origins, p.IsOf o

namespace Store.Lists

variable {s t : Store} {orders : List ImportOrder} {o : ImportOrder}

theorem add (h : s.Lists orders) {p : Origin} (horigins : t.origins = s.origins ++ [p]) (hp : p.IsOf o)
    (hnew : ∀ q ∈ s.origins, q.url = some o.url → q.branch ≠ some o.branch) : t.Lists (orders ++ [o]) where
  distinct := by
    rw [horigins, List.map_append, List.map_singleton, List.nodup_append]
    refine ⟨h.distinct, List.pairwise_singleton _ _, ?_⟩
    intro key hkey last hlast hsame
    obtain ⟨q, hq, rfl⟩ := List.mem_map.1 hkey
    obtain ⟨hurl, hbranch⟩ := Prod.mk.inj (hsame.trans (List.mem_singleton.1 hlast))
    exact hnew q hq (hurl.trans hp.url) (hbranch.trans hp.branch)
  ordered := by
    intro q hq
    rcases List.mem_append.1 (horigins ▸ hq) with hq | hq
    · obtain ⟨a, ha, hqa⟩ := h.ordered q hq
      exact ⟨a, List.mem_append_left _ ha, hqa⟩
    · exact ⟨o, List.mem_append_right _ (List.mem_singleton_self o), List.mem_singleton.1 hq ▸ hp⟩
  complete := by
    intro a ha
    rw [horigins]
    rcases List.mem_append.1 ha with ha | ha
    · obtain ⟨q, hq, hqa⟩ := h.complete a ha
      exact ⟨q, List.mem_append_left _ hq, hqa⟩
    · exact ⟨p, List.mem_append_right _ (List.mem_singleton_self p), List.mem_singleton.1 ha ▸ hp⟩

/-- What comes from the address and the branch of an order is what the order asks for: the address is read in one way.
-/
theorem isOf_of_same (h : s.Lists orders) {p : Origin} (hp : p ∈ s.origins) (hurl : p.url = some o.url)
    (hbranch : p.branch = some o.branch) : p.IsOf o := by
  obtain ⟨a, -, hpa⟩ := h.ordered p hp
  obtain ⟨owner, name, htarget, howner, hname⟩ := hpa.target
  have hsame : a.url = o.url := Option.some_inj.1 (hpa.url.symm.trans hurl)
  exact ⟨hurl, hbranch, owner, name, by rw [← htarget, ImportOrder.target?, ImportOrder.target?, hsame], howner, hname⟩

theorem again (h : s.Lists orders) {p : Origin} (hp : p ∈ s.origins) (hurl : p.url = some o.url)
    (hbranch : p.branch = some o.branch) : s.Lists (orders ++ [o]) where
  distinct := h.distinct
  ordered := by
    intro q hq
    obtain ⟨a, ha, hqa⟩ := h.ordered q hq
    exact ⟨a, List.mem_append_left _ ha, hqa⟩
  complete := by
    intro a ha
    rcases List.mem_append.1 ha with ha | ha
    · exact h.complete a ha
    · exact ⟨p, hp, List.mem_singleton.1 ha ▸ h.isOf_of_same hp hurl hbranch⟩

/-- The repositories are distinct exactly if no two addresses among the orders of a branch are read alike. -/
theorem nodup_targets_iff (h : s.Lists orders) : (s.origins.map fun p => (p.owner, p.name, p.branch)).Nodup ↔
    ∀ a ∈ orders, ∀ b ∈ orders, a.target? = b.target? → a.branch = b.branch → a.url = b.url := by
  constructor
  · intro hnodup a ha b hb htarget hbranch
    obtain ⟨p, hp, hpa⟩ := h.complete a ha
    obtain ⟨q, hq, hqb⟩ := h.complete b hb
    obtain ⟨owner, name, ha', howner, hname⟩ := hpa.target
    obtain ⟨owner', name', hb', howner', hname'⟩ := hqb.target
    obtain ⟨rfl, rfl⟩ := Prod.mk.inj (Option.some_inj.1 (ha'.symm.trans (htarget.trans hb')))
    have hsame : p = q :=
      List.inj_on_of_nodup_map hnodup hp hq (by rw [howner, hname, hpa.branch, howner', hname', hqb.branch, hbranch])
    exact Option.some_inj.1 (hpa.url.symm.trans ((congrArg Origin.url hsame).trans hqb.url))
  · intro hurls
    refine List.Nodup.map_on ?_ (List.Nodup.of_map _ h.distinct)
    intro p hp q hq hsame
    obtain ⟨howner, hname, hbranch⟩ : p.owner = q.owner ∧ p.name = q.name ∧ p.branch = q.branch := by simpa using hsame
    obtain ⟨a, ha, hpa⟩ := h.ordered p hp
    obtain ⟨b, hb, hqb⟩ := h.ordered q hq
    have hab : a.branch = b.branch := Option.some_inj.1 (hpa.branch.symm.trans (hbranch.trans hqb.branch))
    have hurl : p.url = q.url := by
      rw [hpa.url, hqb.url, hurls a ha b hb (hpa.target?_eq hqb howner hname) hab]
    exact List.inj_on_of_nodup_map h.distinct hp hq (Prod.ext hurl hbranch)

end Store.Lists

/-- The induction is on the requests that are left: each adds its order to those that are listed, or gives none. -/
theorem Service.lists_afterImports {v : Service} {orders : List ImportOrder} (h : v.store.Lists orders)
    (requests : List Request) :
    (v.afterImports requests).store.Lists (orders ++ requests.filterMap Request.order?) := by
  induction requests generalizing v orders with
  | nil => exact (List.append_nil orders).symm ▸ h
  | cons r requests ih =>
    show ((v.afterImport r).afterImports requests).store.Lists _
    cases horder : r.order? with
    | none =>
      obtain ⟨e, hrun⟩ := Api.run_importNew_of_none horder v
      rw [List.filterMap_cons_none horder, Service.afterImport, hrun]
      exact ih h
    | some o =>
      rw [List.filterMap_cons_some horder, List.append_cons]
      refine ih ?_
      obtain ⟨owner, name, htarget, hrun⟩ := Api.run_importNew_of_some horder
      rw [Service.afterImport, hrun v]
      rcases Api.importOrdered_cases htarget v with
        ⟨p, hp, hurl, hbranch, hout⟩ | ⟨hnew, body, w, p, hout, horigins, hp⟩
      · rw [hout]
        exact h.again hp hurl hbranch
      · rw [hout]
        exact h.add horigins hp hnew

/-- Imports from an empty store, whatever requests for them have come. There is one repository for each address and
branch that was ordered, as they were written, and its owner and its name are what the address is read as. So no two
repositories have the same owner, name and branch exactly if no two orders of a branch have different addresses that are
read alike. A further request is refused, and changes nothing, if it gives no order or if its address and its branch
were ordered before; under another address the same repository is imported once more. -/
theorem imports_distinct_iff_spelled_alike (v : Service) (hempty : v.store.repositories = [])
    (requests : List Request) :
    let w := v.afterImports requests
    let orders := requests.filterMap Request.order?
    (w.store.repositories.map fun r => (r.githubUrl, r.githubBranch)).Nodup ∧
    (∀ r ∈ w.store.repositories, ∃ o ∈ orders, r.origin.IsOf o) ∧
    (∀ o ∈ orders, ∃ r ∈ w.store.repositories, r.origin.IsOf o) ∧
    ((w.store.repositories.map fun r => (r.githubOwner, r.githubRepo, r.githubBranch)).Nodup ↔
      ∀ a ∈ orders, ∀ b ∈ orders, a.target? = b.target? → a.branch = b.branch → a.url = b.url) ∧
    (∀ r : Request, r.order? = none → ∃ e, (Api.importNew r).run w = (.error e, w)) ∧
    ∀ (r : Request) (o : ImportOrder), r.order? = some o →
      ((∃ a ∈ orders, a.url = o.url ∧ a.branch = o.branch) → ∃ row ∈ w.store.repositories, row.origin.IsOf o ∧
        (Api.importNew r).run w = (.error (.refused 409 ("Repository already imported: " ++ row.id.text)), w)) ∧
      ((¬ ∃ a ∈ orders, a.url = o.url ∧ a.branch = o.branch) → ∃ body u p,
        (Api.importNew r).run w = (.ok body, u) ∧ u.store.origins = w.store.origins ++ [p] ∧ p.IsOf o) := by
  intro w orders
  have hstart : v.store.Lists [] := by
    refine ⟨?_, ?_, ?_⟩ <;> simp [Store.origins, hempty]
  have hlists : w.store.Lists orders := Service.lists_afterImports hstart requests
  refine ⟨?_, fun r hr => hlists.ordered _ (List.mem_map_of_mem hr), fun o ho => ?_, ?_,
    fun r hnone => Api.run_importNew_of_none hnone w, fun r o horder => ?_⟩
  · have hdistinct := hlists.distinct
    rwa [Store.origins, List.map_map] at hdistinct
  · obtain ⟨p, hp, hpo⟩ := hlists.complete o ho
    obtain ⟨row, hrow, rfl⟩ := List.mem_map.1 hp
    exact ⟨row, hrow, hpo⟩
  · have hiff := hlists.nodup_targets_iff
    rwa [Store.origins, List.map_map] at hiff
  · obtain ⟨owner, name, htarget, hrun⟩ := Api.run_importNew_of_some horder
    rw [hrun w]
    rcases Api.importOrdered_cases htarget w with ⟨p, hp, hurl, hbranch, hout⟩ | ⟨hnew, hout⟩
    · obtain ⟨row, hrow, rfl⟩ := List.mem_map.1 hp
      refine ⟨fun _ => ⟨row, hrow, hlists.isOf_of_same hp hurl hbranch, hout⟩, fun hnone => absurd ?_ hnone⟩
      obtain ⟨a, ha, hpa⟩ := hlists.ordered _ hp
      exact ⟨a, ha, Option.some_inj.1 (hpa.url.symm.trans hurl), Option.some_inj.1 (hpa.branch.symm.trans hbranch)⟩
    · refine ⟨?_, fun _ => hout⟩
      rintro ⟨a, ha, hurl, hbranch⟩
      obtain ⟨p, hp, hpa⟩ := hlists.complete a ha
      exact absurd (hbranch ▸ hpa.branch) (hnew p hp (hurl ▸ hpa.url))

def Request.importOf (url : String) : Request :=
  ⟨"POST", [], [], [], .ofText ("\x7b\"url\": \"" ++ url ++ "\"\x7d")⟩

theorem imports_distinct_iff_spelled_alike_ending :
    let requests := [Request.importOf "https://github.com/acme/app", .importOf "https://github.com/acme/app.git"]
    ¬ (((Service.idle {}).afterImports requests).store.repositories.map fun r => (r.githubOwner, r.githubRepo,
      r.githubBranch)).Nodup := by
  intro requests hnodup
  have hplain : (Request.importOf "https://github.com/acme/app").order? =
      some ⟨"https://github.com/acme/app", "main", none⟩ := by
    decide +kernel
  have hending : (Request.importOf "https://github.com/acme/app.git").order? =
      some ⟨"https://github.com/acme/app.git", "main", none⟩ := by
    decide +kernel
  have hsame := (imports_distinct_iff_spelled_alike (.idle {}) rfl requests).2.2.2.1.1 hnodup
    _ (List.mem_filterMap.2 ⟨_, List.mem_cons_self, hplain⟩)
    _ (List.mem_filterMap.2 ⟨_, List.mem_cons_of_mem _ List.mem_cons_self, hending⟩) (by decide +kernel) rfl
  exact absurd hsame (by decide)

end CodeSurvey
