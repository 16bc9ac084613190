/-
What the search for cycles finds: each cycle is an elementary closed walk of the graph, and no two of them have the same
nodes.

A tour keeps its trail as a walk without repetitions, in the order in which its nodes were seen first (`OnTrail`), so
each cycle is closed by an edge from the end of such a trail back to one of its nodes (`Tour.backEdge`). The nodes of a
cycle in this order fix the cycle: cycles with the same nodes are equal, and the test for known nodes leaves out exact
repetitions only.
-/
import CodeSurvey.Proofs.CallGraph.Tour
import Mathlib.Data.List.Chain
import Mathlib.Data.List.Nodup
import Mathlib.Data.List.Perm.Basic

namespace CodeSurvey.Digraph

variable {α : Type} [BEq α]

/-- An elementary closed walk: its nodes are distinct but for the first one, which comes again at the end. -/
structure IsElementaryCycle (g : Digraph α) (c : List α) : Prop where
  long : 2 ≤ c.length
  closed : c.head? = c.getLast?
  distinct : c.dropLast.Nodup
  walk : c.IsChain g.Edge

/-- An edge leads to every node of a cycle; to the first one it is that from the last but one. -/
theorem IsElementaryCycle.exists_edge {g : Digraph α} {w : List α} (h : IsElementaryCycle g w) :
    ∀ b ∈ w, ∃ a, g.Edge a b := by
  intro b hb
  have hlong := h.long
  have hwalk := List.isChain_iff_getElem.1 h.walk
  obtain ⟨i, hi, rfl⟩ := List.mem_iff_getElem.1 hb
  cases i with
  | succ i => exact ⟨w[i], hwalk i hi⟩
  | zero =>
    have hlast : w[0] = w[w.length - 1] := by
      have hclosed := h.closed
      rwa [List.head?_eq_getElem?, List.getLast?_eq_getElem?, List.getElem?_eq_getElem hi,
        List.getElem?_eq_getElem (by omega), Option.some.injEq] at hclosed
    refine ⟨w[w.length - 2], ?_⟩
    have hedge := hwalk (w.length - 2) (by omega)
    rw [hlast]
    simpa only [show w.length - 2 + 1 = w.length - 1 by omega] using hedge

/-! ## Trails -/

/-- What a tour keeps of its trail: it is a walk, given backwards, from whose end the nodes to go through are reached,
and its nodes are in the order in which they were seen first. -/
structure OnTrail (g : Digraph α) (trail bs seen : List α) : Prop where
  walk : trail.IsChain fun b a => g.Edge a b
  ahead : ∀ a ∈ trail.head?, ∀ b ∈ bs, g.Edge a b
  order : trail.Sublist seen
  nodup : seen.Nodup

theorem OnTrail.start (g : Digraph α) (bs : List α) : OnTrail g [] bs [] :=
  ⟨.nil, by simp, .slnil, List.nodup_nil⟩

theorem OnTrail.enter {g : Digraph α} {trail bs seen : List α} {b : α} (h : OnTrail g trail (b :: bs) seen)
    (hb : b ∉ seen) : OnTrail g (b :: trail) (g.next b) (b :: seen) := by
  refine ⟨List.isChain_cons.2 ⟨fun a ha => h.ahead a ha b (List.mem_cons_self ..), h.walk⟩, fun a ha c hc => ?_,
    h.order.cons_cons b, List.nodup_cons.2 ⟨hb, h.nodup⟩⟩
  obtain rfl : b = a := by simpa using ha
  exact hc

theorem OnTrail.later {g : Digraph α} {trail bs seen seen' : List α} {b : α} (h : OnTrail g trail (b :: bs) seen)
    (hs : seen <:+ seen') (hn : seen'.Nodup) : OnTrail g trail bs seen' :=
  ⟨h.walk, fun a ha c hc => h.ahead a ha c (List.mem_cons_of_mem _ hc), h.order.trans hs.sublist, hn⟩

structure BackEdge (g : Digraph α) (trail : List α) (b : α) : Prop where
  walk : trail.IsChain fun b a => g.Edge a b
  edge : ∀ a ∈ trail.head?, g.Edge a b
  mem : b ∈ trail

theorem Tour.backEdge {g : Digraph α} {trail bs seen seen' : List α} {found : List (List α)}
    (h : Tour g trail bs seen seen' found) (ht : OnTrail g trail bs seen) :
    ∀ c ∈ found, ∃ t b, BackEdge g t b ∧ t.Sublist seen' ∧ c = closing t b := by
  induction h with
  | done => simp
  | enter hb h1 h2 ih1 ih2 =>
    have hin := ht.enter hb
    intro c hc
    rcases List.mem_append.1 hc with hc | hc
    · obtain ⟨t, b, he, hs, rfl⟩ := ih1 hin c hc
      exact ⟨t, b, he, hs.trans h2.suffix.sublist, rfl⟩
    · exact ih2 (ht.later ((List.suffix_cons _ _).trans h1.suffix) (h1.nodup hin.nodup)) c hc
  | @close trail bs seen seen' b rest _ hb h ih =>
    rw [List.forall_mem_cons]
    exact ⟨⟨trail, b, ⟨ht.walk, fun a ha => ht.ahead a ha b (List.mem_cons_self ..), hb⟩,
      ht.order.trans h.suffix.sublist, rfl⟩, ih (ht.later (List.suffix_refl _) ht.nodup)⟩
  | pass _ _ _ ih => exact ih (ht.later (List.suffix_refl _) ht.nodup)

/-! ## Closed walks -/

/-- The nodes from the end of a trail back to one of its nodes. -/
def wayBack (trail : List α) (b : α) : List α := trail.takeWhile (· != b) ++ [b]

theorem closing_eq_wayBack (trail : List α) (b : α) : closing trail b = (wayBack trail b).reverse ++ [b] := by
  simp [closing, wayBack]

section Lawful

variable [LawfulBEq α]

theorem wayBack_isPrefix {b : α} : ∀ {trail : List α}, b ∈ trail → wayBack trail b <+: trail
  | a :: trail, h => by
    by_cases hab : a = b
    · subst hab; exact ⟨trail, by simp [wayBack]⟩
    · have hb : b ∈ trail := (List.mem_cons.1 h).resolve_left fun h => hab h.symm
      have hw : wayBack (a :: trail) b = a :: wayBack trail b := by simp [wayBack, hab]
      rw [hw, List.prefix_cons_inj]
      exact wayBack_isPrefix hb

theorem BackEdge.isElementaryCycle {g : Digraph α} {trail : List α} {b : α} (h : BackEdge g trail b)
    (hn : trail.Nodup) : IsElementaryCycle g (closing trail b) := by
  have hp := wayBack_isPrefix h.mem
  rw [closing_eq_wayBack]
  refine ⟨by simp [wayBack], by rw [List.getLast?_concat]; simp [wayBack], ?_, ?_⟩
  · rw [List.dropLast_concat]
    exact List.nodup_reverse.2 (hn.sublist hp.sublist)
  · refine List.isChain_append.2 ⟨List.isChain_reverse.2 ( List.IsChain.prefix h.walk hp), .singleton b,
      fun a ha c hc => ?_⟩
    obtain rfl : b = c := by simpa using hc
    -- the last node of the way, which is the end of the trail
    have hh : (wayBack trail b).head? = trail.head? := by
      obtain ⟨rest, hr⟩ := hp
      conv_rhs => rw [← hr]
      rw [List.head?_append_of_ne_nil _ (by simp [wayBack])]
    rw [List.getLast?_reverse, hh] at ha
    exact h.edge a ha

/-- Cycles closed by back edges of a search are equal if they have the same nodes. -/
theorem closing_inj_of_mem {s t seen : List α} {a b : α} (ha : a ∈ s) (hb : b ∈ t) (hs : s.Sublist seen)
    (ht : t.Sublist seen) (hn : seen.Nodup) (h : ∀ x, x ∈ closing s a ↔ x ∈ closing t b) : closing s a =
      closing t b := by
  have hsa := (wayBack_isPrefix ha).sublist.trans hs
  have htb := (wayBack_isPrefix hb).sublist.trans ht
  have hmem : ∀ (l : List α) (c x : α), x ∈ closing l c ↔ x ∈ wayBack l c := by
    intro l c x
    simp only [closing_eq_wayBack, wayBack, List.mem_append, List.mem_reverse, List.mem_singleton]
    tauto
  have hw : wayBack s a = wayBack t b := by
    refine (hn.perm_iff_eq_of_sublist hsa htb).1
      ((List.perm_ext_iff_of_nodup (hn.sublist hsa) (hn.sublist htb)).2 fun x => ?_)
    rw [← hmem, ← hmem]; exact h x
  have hab : a = b := by
    have := congrArg List.getLast? hw
    simpa [wayBack] using this
  rw [closing_eq_wayBack, closing_eq_wayBack, hw, hab]

theorem Tour.isElementaryCycle {g : Digraph α} {bs seen : List α} {found : List (List α)}
    (h : Tour g [] bs [] seen found) : ∀ c ∈ found, IsElementaryCycle g c := by
  intro c hc
  obtain ⟨t, b, he, hs, rfl⟩ := h.backEdge (OnTrail.start g bs) c hc
  exact he.isElementaryCycle ((h.nodup List.nodup_nil).sublist hs)

theorem Tour.eq_of_same_nodes {g : Digraph α} {bs seen : List α} {found : List (List α)}
    (h : Tour g [] bs [] seen found) :
    ∀ c ∈ found, ∀ d ∈ found, (∀ x, x ∈ c ↔ x ∈ d) → c = d := by
  intro c hc d hd hcd
  obtain ⟨s, a, ha, hs, rfl⟩ := h.backEdge (OnTrail.start g bs) c hc
  obtain ⟨t, b, hb, ht, rfl⟩ := h.backEdge (OnTrail.start g bs) d hd
  exact closing_inj_of_mem ha.mem hb.mem hs ht (h.nodup List.nodup_nil) hcd

/-! ## The cycles of a graph -/

theorem isElementaryCycle_of_mem_cycles {g : Digraph α} {c : List α} (hc : c ∈ g.cycles) : IsElementaryCycle g c := by
  obtain ⟨seen, found, h, he⟩ := g.cycles_tour
  rw [he] at hc
  exact h.isElementaryCycle c (mem_of_mem_unrepeated hc)

/-- Every cycle that the search gives is an elementary closed walk of the graph, no two of them have the same nodes, and
of the cycles that its tour closes only exact repetitions are left out. -/
theorem cycles_elementary_distinct (g : Digraph α) :
    (∀ c ∈ g.cycles, IsElementaryCycle g c) ∧
    (g.cycles.Pairwise fun c d => ¬ ∀ x, x ∈ c ↔ x ∈ d) ∧
    ∃ seen found, Tour g [] g.nodes [] seen found ∧ g.cycles = found.eraseDups := by
  obtain ⟨seen, found, h, he⟩ := g.cycles_tour
  have heq := h.eq_of_same_nodes
  refine ⟨fun c hc => ?_, ?_, seen, found, h, ?_⟩
  · rw [he] at hc
    exact h.isElementaryCycle c (mem_of_mem_unrepeated hc)
  · rw [he]
    refine (pairwise_unrepeated found).imp_of_mem fun {c d} hc hd hn hcd => hn ?_
    rw [heq c (mem_of_mem_unrepeated hc) d (mem_of_mem_unrepeated hd) hcd]
  · rw [he]
    exact unrepeated_eq_eraseDups fun c hc d hd hp => heq c hc d hd fun x => hp.mem_iff

/-- A graph with a loop, a repeated successor and two cycles through the same edge. -/
theorem cycles_elementary_distinct_knot :
    let g : Digraph String := [("a", ["b", "b"]), ("b", ["a", "c", "a"]), ("c", ["c", "a", "x"])]
    g.cycles = [["a", "b", "a"], ["c", "c"], ["a", "b", "c", "a"]] ∧ (∀ c ∈ g.cycles, IsElementaryCycle g c) ∧
      g.cycles.Pairwise fun c d => ¬ ∀ x, x ∈ c ↔ x ∈ d := by
  intro g
  have h := cycles_elementary_distinct g
  exact ⟨by decide, h.1, h.2.1⟩

end Lawful

end CodeSurvey.Digraph
