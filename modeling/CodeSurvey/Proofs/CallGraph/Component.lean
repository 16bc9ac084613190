/-
Where the search for cycles finds one: inside every strongly connected component that has an edge of its own. So a graph
has a cycle exactly if the search gives one.

The component is entered at one of its nodes while all others are still unseen. Before the tour from this node is done,
it has seen the whole component (`Tour.sees_component`), so also the end of an edge back to the node, which is on the
trail all the time: there a cycle is closed (`Tour.closes_seen`), and a closed walk through a node stays in its
component.
-/
import CodeSurvey.Proofs.CallGraph.Elementary

namespace CodeSurvey.Digraph

variable {α : Type} [BEq α]

/-! ## Components -/

def Reaches (g : Digraph α) (a b : α) : Prop := Relation.ReflTransGen g.Edge a b

def SameComponent (g : Digraph α) (a b : α) : Prop := g.Reaches a b ∧ g.Reaches b a

theorem SameComponent.refl (g : Digraph α) (a : α) : g.SameComponent a a := ⟨.refl, .refl⟩

theorem SameComponent.symm {g : Digraph α} {a b : α} (h : g.SameComponent a b) : g.SameComponent b a := ⟨h.2, h.1⟩

theorem SameComponent.trans {g : Digraph α} {a b c : α} (h : g.SameComponent a b) (h' : g.SameComponent b c) :
    g.SameComponent a c := ⟨Relation.ReflTransGen.trans h.1 h'.1, Relation.ReflTransGen.trans h'.2 h.2⟩

/-- A node on a walk between two nodes of a component is in the component. -/
theorem SameComponent.between {g : Digraph α} {a b c : α} (h : g.SameComponent a c) (hb : g.Reaches a b)
    (hc : g.Reaches b c) : g.SameComponent a b := ⟨hb, Relation.ReflTransGen.trans hc h.2⟩

/-- Where a component has an edge, each of its nodes has a predecessor in it. -/
theorem SameComponent.exists_edge_to {g : Digraph α} {u v b : α} (huv : g.Edge u v) (hu : g.SameComponent b u)
    (hv : g.SameComponent b v) : ∃ w, g.SameComponent b w ∧ g.Edge w b := by
  rcases Relation.ReflTransGen.cases_tail hv.2 with rfl | ⟨w, hw, he⟩
  · exact ⟨u, hu, huv⟩
  · exact ⟨w, ⟨Relation.ReflTransGen.trans hv.1 hw, .single he⟩, he⟩

theorem reaches_of_head {g : Digraph α} : ∀ {l : List α}, l.IsChain g.Edge →
    ∀ x ∈ l, ∀ a ∈ l.head?, g.Reaches a x
  | [b], _, x, hx, a, ha => by
    obtain rfl : b = a := by simpa using ha
    rw [List.mem_singleton.1 hx]; exact .refl
  | b :: c :: l, h, x, hx, a, ha => by
    obtain rfl : b = a := by simpa using ha
    rw [List.isChain_cons_cons] at h
    rcases List.mem_cons.1 hx with rfl | hx
    · exact .refl
    · exact .head h.1 (reaches_of_head h.2 x hx c (by simp))

theorem reaches_getLast {g : Digraph α} : ∀ {l : List α}, l.IsChain g.Edge →
    ∀ x ∈ l, ∀ z ∈ l.getLast?, g.Reaches x z
  | [b], _, x, hx, z, hz => by
    obtain rfl : b = z := by simpa using hz
    rw [List.mem_singleton.1 hx]; exact .refl
  | b :: c :: l, h, x, hx, z, hz => by
    rw [List.isChain_cons_cons] at h
    rw [List.getLast?_cons_cons] at hz
    rcases List.mem_cons.1 hx with rfl | hx
    · exact .head h.1 (reaches_getLast h.2 c (List.mem_cons_self ..) z hz)
    · exact reaches_getLast h.2 x hx z hz

/-- A closed walk stays in one component. -/
theorem IsElementaryCycle.sameComponent {g : Digraph α} {c : List α} (h : IsElementaryCycle g c) :
    ∀ x ∈ c, ∀ y ∈ c, g.SameComponent x y := by
  have hr : ∀ x ∈ c, ∀ y ∈ c, g.Reaches x y := by
    intro x hx y hy
    obtain ⟨a, ha⟩ : ∃ a, c.head? = some a := by
      cases c with
      | nil => cases hx
      | cons a l => exact ⟨a, rfl⟩
    have hl : a ∈ c.getLast? := by rw [← h.closed]; exact ha
    exact Relation.ReflTransGen.trans (reaches_getLast h.walk x hx a hl) (reaches_of_head h.walk y hy a ha)
  exact fun x hx y hy => ⟨hr x hx y hy, hr y hy x hx⟩

/-! ## Tours and components -/

theorem Tour.sees_next {g : Digraph α} {trail bs seen seen' : List α} {found : List (List α)}
    (h : Tour g trail bs seen seen' found) : ∀ x ∈ seen', x ∉ seen → ∀ y, g.Edge x y → y ∈ seen' := by
  induction h with
  | done => exact fun x hx hn => absurd hx hn
  | @enter trail bs seen mid seen' b inner rest _ h1 h2 ih1 ih2 =>
    intro x hx hn y hy
    by_cases hm : x ∈ mid
    · apply h2.suffix.subset
      by_cases hb : x = b
      · subst hb; exact h1.covers y hy
      · exact ih1 x hm (by simp [hb, hn]) y hy
    · exact ih2 x hx hm y hy
  | close _ _ _ ih => exact ih
  | pass _ _ _ ih => exact ih

/-- Every edge back to the trail closes a cycle: from its end to the nodes to go through, and from the nodes entered. -/
theorem Tour.closes_seen {g : Digraph α} {trail bs seen seen' : List α} {found : List (List α)}
    (h : Tour g trail bs seen seen' found) (ht : trail ⊆ seen) :
    (∀ y ∈ bs, y ∈ trail → ∃ c ∈ found, y ∈ c) ∧
    ∀ x ∈ seen', x ∉ seen → ∀ y ∈ trail, g.Edge x y → ∃ c ∈ found, y ∈ c := by
  induction h with
  | done => exact ⟨by simp, fun x hx hn => absurd hx hn⟩
  | @enter trail bs seen mid seen' b inner rest hb h1 h2 ih1 ih2 =>
    obtain ⟨i1, i2⟩ := ih1 (List.cons_subset_cons b ht)
    obtain ⟨r1, r2⟩ := ih2 fun a ha => h1.suffix.subset (List.mem_cons_of_mem b (ht ha))
    have left : ∀ {y}, (∃ c ∈ inner, y ∈ c) → ∃ c ∈ inner ++ rest, y ∈ c :=
      fun ⟨c, hc, hy⟩ => ⟨c, List.mem_append_left _ hc, hy⟩
    have right : ∀ {y}, (∃ c ∈ rest, y ∈ c) → ∃ c ∈ inner ++ rest, y ∈ c :=
      fun ⟨c, hc, hy⟩ => ⟨c, List.mem_append_right _ hc, hy⟩
    refine ⟨fun y hy hyt => ?_, fun x hx hn y hyt he => ?_⟩
    · rcases List.mem_cons.1 hy with rfl | hy
      · exact absurd (ht hyt) hb
      · exact right (r1 y hy hyt)
    · have hyt' := List.mem_cons_of_mem b hyt
      by_cases hm : x ∈ mid
      · by_cases hxb : x = b
        · subst hxb; exact left (i1 y he hyt')
        · exact left (i2 x hm (by simp [hxb, hn]) y hyt' he)
      · exact right (r2 x hx hm y hyt he)
  | @close trail bs seen seen' b rest _ _ _ ih =>
    obtain ⟨r1, r2⟩ := ih ht
    have right : ∀ {y}, (∃ c ∈ rest, y ∈ c) → ∃ c ∈ closing trail b :: rest, y ∈ c :=
      fun ⟨c, hc, hy⟩ => ⟨c, List.mem_cons_of_mem _ hc, hy⟩
    refine ⟨fun y hy hyt => ?_, fun x hx hn y hyt he => right (r2 x hx hn y hyt he)⟩
    rcases List.mem_cons.1 hy with rfl | hy
    · exact ⟨_, List.mem_cons_self .., by simp [closing]⟩
    · exact right (r1 y hy hyt)
  | pass _ hb _ ih =>
    obtain ⟨r1, r2⟩ := ih ht
    refine ⟨fun y hy hyt => ?_, r2⟩
    rcases List.mem_cons.1 hy with rfl | hy
    · exact absurd hyt hb
    · exact r1 y hy hyt

/-- A component entered at a node while it is unseen is seen before the tour from this node is done. -/
theorem Tour.sees_component {g : Digraph α} {trail seen mid : List α} {b : α} {inner : List (List α)}
    (h : Tour g (b :: trail) (g.next b) (b :: seen) mid inner) (hw : ∀ x, g.SameComponent b x → x ∉ seen) :
    ∀ x, g.SameComponent b x → x ∈ mid := by
  intro x hx
  have hr : g.Reaches b x := hx.1
  unfold Reaches at hr
  induction hr with
  | refl => exact h.suffix.subset (List.mem_cons_self ..)
  | @tail y z hy hyz ih =>
    have hby := hx.between hy (.single hyz)
    by_cases hyb : y = b
    · subst hyb; exact h.covers z hyz
    · exact h.sees_next y (ih hby) (by simp [hyb, hw y hby]) z hyz

/-- A tour that comes into an unseen component with an edge of its own finds a cycle through one of its nodes. -/
theorem Tour.finds_component {g : Digraph α} {u v : α} (huv : g.Edge u v) (hc : g.SameComponent u v)
    {trail bs seen seen' : List α} {found : List (List α)} (h : Tour g trail bs seen seen' found)
    (ht : trail ⊆ seen) (hw : ∀ x, g.SameComponent u x → x ∉ seen) (hs : ∃ x ∈ seen', g.SameComponent u x) :
    ∃ c ∈ found, ∃ x ∈ c, g.SameComponent u x := by
  induction h with
  | done =>
    obtain ⟨x, hx, hux⟩ := hs
    exact absurd hx (hw x hux)
  | @enter trail bs seen mid seen' b inner rest hb h1 h2 ih1 ih2 =>
    have hin : b :: trail ⊆ b :: seen := List.cons_subset_cons b ht
    by_cases hub : g.SameComponent u b
    · -- `b` is the first node of the component that is seen
      obtain ⟨w, hbw, he⟩ := SameComponent.exists_edge_to huv hub.symm (hub.symm.trans hc)
      have hwm := h1.sees_component (fun x hx => hw x (hub.trans hx)) w hbw
      have hfound : ∃ c ∈ inner, b ∈ c := by
        obtain ⟨i1, i2⟩ := h1.closes_seen hin
        by_cases hwb : w = b
        · subst hwb; exact i1 w he (List.mem_cons_self ..)
        · exact i2 w hwm (by simp [hwb, hw w (hub.trans hbw)]) b (List.mem_cons_self ..) he
      obtain ⟨c, hci, hbc⟩ := hfound
      exact ⟨c, List.mem_append_left _ hci, b, hbc, hub⟩
    · have hw' : ∀ x, g.SameComponent u x → x ∉ b :: seen := fun x hx hm => by
        rcases List.mem_cons.1 hm with rfl | hm
        · exact hub hx
        · exact hw x hx hm
      by_cases hmid : ∃ x ∈ mid, g.SameComponent u x
      · obtain ⟨c, hci, hx⟩ := ih1 hin hw' hmid
        exact ⟨c, List.mem_append_left _ hci, hx⟩
      · obtain ⟨c, hcr, hx⟩ := ih2 (fun a ha => h1.suffix.subset (List.mem_cons_of_mem b (ht ha)))
          (fun x hx hm => hmid ⟨x, hm, hx⟩) hs
        exact ⟨c, List.mem_append_right _ hcr, hx⟩
  | close _ _ _ ih =>
    obtain ⟨c, hcr, hx⟩ := ih ht hw hs
    exact ⟨c, List.mem_cons_of_mem _ hcr, hx⟩
  | pass _ _ _ ih => exact ih ht hw hs

/-! ## The cycles of a graph -/

section Lawful

variable [LawfulBEq α]

/-- The search finds a cycle inside the component of every edge whose ends are in one component. -/
theorem exists_cycle_in_component (g : Digraph α) {u v : α} (huv : g.Edge u v) (hc : g.SameComponent u v) :
    ∃ c ∈ g.cycles, IsElementaryCycle g c ∧ ∀ x ∈ c, g.SameComponent u x := by
  obtain ⟨seen, found, h, he⟩ := g.cycles_tour
  obtain ⟨c, hcf, y, hy, huy⟩ := h.finds_component huv hc (List.nil_subset _) (by simp)
    ⟨u, h.covers u huv.mem_nodes, SameComponent.refl g u⟩
  obtain ⟨d, hd, hp⟩ := exists_perm_mem_unrepeated hcf
  have hel := h.isElementaryCycle d (mem_of_mem_unrepeated hd)
  exact ⟨d, he ▸ hd, hel, fun x hx => huy.trans (hel.sameComponent y (hp.mem_iff.2 hy) x hx)⟩

/-- The search through any graph gives at least one cycle inside every strongly connected component that has an edge
between two of its nodes, be it a loop. So it gives none exactly if no node reaches itself by a step or more. -/
theorem cycles_meet_components (g : Digraph α) :
    (∀ u v, g.Edge u v → g.SameComponent u v →
      ∃ c ∈ g.cycles, IsElementaryCycle g c ∧ ∀ x ∈ c, g.SameComponent u x) ∧
    (g.cycles = [] ↔ ∀ a, ¬ Relation.TransGen g.Edge a a) := by
  refine ⟨fun u v huv hc => g.exists_cycle_in_component huv hc, ?_, ?_⟩
  · intro hnil a ha
    obtain ⟨b, hab, hba⟩ := Relation.TransGen.head'_iff.1 ha
    obtain ⟨c, hcyc, -⟩ := g.exists_cycle_in_component hab ⟨.single hab, hba⟩
    rw [hnil] at hcyc; cases hcyc
  · intro hacyclic
    obtain ⟨seen, found, h, he⟩ := g.cycles_tour
    rw [List.eq_nil_iff_forall_not_mem]
    intro c hc
    have hel := h.isElementaryCycle c (mem_of_mem_unrepeated (he ▸ hc))
    -- the first step of the closed walk leads to a node that reaches the first one
    match c, hel with
    | [], hel => exact absurd hel.long (by simp)
    | [a], hel => exact absurd hel.long (by simp)
    | a :: b :: l, hel =>
      have hab : g.Edge a b := (List.isChain_cons_cons.1 hel.walk).1
      exact hacyclic a (.head' hab (hel.sameComponent b (by simp) a (by simp)).1)

/-- In a graph with a component of three nodes and a loop behind it, the loop is in a component of its own. -/
theorem cycles_meet_components_behind :
    let g : Digraph String := [("a", ["b"]), ("b", ["c", "c"]), ("c", ["a", "d"]), ("d", ["d", "e"])]
    (∃ c ∈ g.cycles, IsElementaryCycle g c ∧ ∀ x ∈ c, g.SameComponent "b" x) ∧
      ∃ c ∈ g.cycles, IsElementaryCycle g c ∧ ∀ x ∈ c, g.SameComponent "d" x := by
  intro g
  have hab : g.Edge "a" "b" := by simp [g, Edge, next]
  have hbc : g.Edge "b" "c" := by simp [g, Edge, next]
  have hca : g.Edge "c" "a" := by simp [g, Edge, next]
  have hdd : g.Edge "d" "d" := by simp [g, Edge, next]
  have h := (cycles_meet_components g).1
  exact ⟨h "b" "c" hbc ⟨.single hbc, .head hca (.single hab)⟩, h "d" "d" hdd (SameComponent.refl g "d")⟩

end Lawful

end CodeSurvey.Digraph
