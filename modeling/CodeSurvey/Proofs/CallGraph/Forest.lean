/-
Which cycles the search finds, and which it misses. A node is seen from the last of the nodes seen before it that have
an edge to it (`SeenFrom`); a trail leads along such steps from a node that is seen from none. The search closes the
cycles of one edge back to a trail. So it finds an elementary cycle exactly if, in some rotation, each of its nodes is
seen from the one before (`finds_cycle_iff`), and it misses every other one.
-/
import CodeSurvey.Proofs.CallGraph.Component
import Mathlib.Data.List.Cycle

namespace CodeSurvey.Digraph

variable {α : Type} [BEq α]

/-! ## From which node a node is seen -/

/-- The node `b` is seen from `a`: an edge leads from `a` to `b`, and none from the nodes seen between them. The nodes
seen are given with the latest first. -/
def SeenFrom (g : Digraph α) (seen : List α) (a b : α) : Prop :=
  ∃ later between earlier, seen = later ++ b :: (between ++ a :: earlier) ∧ g.Edge a b ∧ ∀ c ∈ between, ¬ g.Edge c b

section SeenFrom

variable {g : Digraph α} {seen seen' : List α} {a b c : α}

theorem SeenFrom.mono (h : g.SeenFrom seen a b) (hs : seen <:+ seen') : g.SeenFrom seen' a b := by
  obtain ⟨later, between, earlier, rfl, hedge, hnone⟩ := h
  obtain ⟨more, rfl⟩ := hs
  exact ⟨more ++ later, between, earlier, by rw [List.append_assoc], hedge, hnone⟩

/-- Only what was seen before a node counts. -/
theorem SeenFrom.before {later before : List α} (h : g.SeenFrom seen a b) (hs : seen = later ++ b :: before)
    (hn : seen.Nodup) :
    ∃ between earlier, before = between ++ a :: earlier ∧ g.Edge a b ∧ ∀ c ∈ between, ¬ g.Edge c b := by
  obtain ⟨later', between, earlier, hs', hedge, hnone⟩ := h
  have hb := hs ▸ hn
  rw [List.nodup_append, List.nodup_cons] at hb
  have hlater : b ∉ later := fun hmem => hb.2.2 b hmem b List.mem_cons_self rfl
  obtain ⟨-, -, rfl⟩ := (List.append_cons_inj_of_notMem hlater hb.2.1.1).1 (hs.symm.trans hs')
  exact ⟨between, earlier, rfl, hedge, hnone⟩

theorem SeenFrom.of_suffix (h : g.SeenFrom seen' a b) (hs : seen <:+ seen') (hn : seen'.Nodup) (hb : b ∈ seen) :
    g.SeenFrom seen a b := by
  obtain ⟨more, rfl⟩ := hs
  obtain ⟨later, before, rfl⟩ := List.append_of_mem hb
  obtain ⟨between, earlier, rfl, hedge, hnone⟩ := h.before (List.append_assoc ..).symm hn
  exact ⟨later, between, earlier, rfl, hedge, hnone⟩

theorem SeenFrom.unique (ha : g.SeenFrom seen a c) (hb : g.SeenFrom seen b c) (hn : seen.Nodup) : a = b := by
  obtain ⟨later, between, earlier, hs, hedge, hnone⟩ := ha
  obtain ⟨between', earlier', hs', hedge', hnone'⟩ := hb.before hs hn
  -- whichever of the two was seen first, the other does not lie between it and `c`
  obtain ⟨more, hmore, hrest⟩ | ⟨more, hmore, hrest⟩ := List.append_eq_append_iff.1 hs'
  · cases more with
    | nil => exact (List.cons.inj hrest).1
    | cons d more =>
      obtain rfl := (List.cons.inj hrest).1
      exact absurd hedge (hnone' a (hmore ▸ List.mem_append_right _ List.mem_cons_self))
  · cases more with
    | nil => exact (List.cons.inj hrest).1.symm
    | cons d more =>
      obtain rfl := (List.cons.inj hrest).1
      exact absurd hedge' (hnone b (hmore ▸ List.mem_append_right _ List.mem_cons_self))

end SeenFrom

/-! ## Trails -/

/-- A way, given backwards: each node is seen from the one before, and the first one from none. -/
structure IsWay (g : Digraph α) (seen way : List α) : Prop where
  steps : way.IsChain fun b a => g.SeenFrom seen a b
  root : ∀ b ∈ way.getLast?, ∀ a, ¬ g.SeenFrom seen a b
  mem_seen : ∀ b ∈ way, b ∈ seen

theorem IsWay.later {g : Digraph α} {seen seen' way : List α} (h : g.IsWay seen way) (hs : seen <:+ seen')
    (hn : seen'.Nodup) :
    g.IsWay seen' way where
  steps := h.steps.imp fun _ _ hab => hab.mono hs
  root b hb a hab := h.root b hb a (hab.of_suffix hs hn (h.mem_seen b (List.mem_of_getLast? hb)))
  mem_seen b hb := hs.subset (h.mem_seen b hb)

/-- Steps that lead back from a node are those of its way. -/
theorem IsWay.isPrefix {g : Digraph α} {seen : List α} (hn : seen.Nodup) : ∀ {steps way : List α} {b : α},
    (b :: steps).IsChain (fun b a => g.SeenFrom seen a b) → g.IsWay seen (b :: way) → steps <+: way
  | [], way, _, _, _ => List.nil_prefix
  | a :: steps, [], b, h, hway => absurd (List.isChain_cons_cons.1 h).1 (hway.root b rfl a)
  | a :: steps, c :: way, b, h, hway => by
    obtain ⟨hab, hrest⟩ := List.isChain_cons_cons.1 h
    obtain ⟨hcb, hmore⟩ := List.isChain_cons_cons.1 hway.steps
    obtain rfl := hab.unique hcb hn
    have htail : g.IsWay seen (a :: way) :=
      ⟨hmore, fun d hd => hway.root d (by simpa using hd), fun d hd => hway.mem_seen d (List.mem_cons_of_mem b hd)⟩
    exact (List.prefix_cons_inj a).2 (IsWay.isPrefix hn hrest htail)

/-- What a tour keeps: its trail is a way, and from the nodes that it has left, all nodes that they lead to are seen. -/
structure OnWay (g : Digraph α) (trail bs seen : List α) : Prop extends OnTrail g trail bs seen where
  way : g.IsWay seen trail
  left : ∀ a ∈ seen, a ∉ trail → ∀ b, g.Edge a b → b ∈ seen

section OnWay

variable {g : Digraph α} {trail bs seen seen' : List α} {b : α}

theorem OnWay.start (g : Digraph α) (bs : List α) : OnWay g [] bs [] :=
  ⟨OnTrail.start g bs, ⟨.nil, by simp, by simp⟩, by simp⟩

/-- A node that is entered is seen from the end of the trail, or from none if it is the first one. -/
theorem OnWay.isWay_cons (h : OnWay g trail (b :: bs) seen) (hb : b ∉ seen) : g.IsWay (b :: seen) (b :: trail) := by
  have hin := h.toOnTrail.enter hb
  have hway := h.way.later (List.suffix_cons b seen) hin.nodup
  have hmem : ∀ c ∈ b :: trail, c ∈ b :: seen := fun c hc => hin.order.subset hc
  cases trail with
  | nil =>
    refine ⟨.singleton b, fun c hc a hab => ?_, hmem⟩
    obtain rfl : b = c := by simpa using hc
    obtain ⟨between, earlier, hs, hedge, -⟩ := hab.before (List.nil_append _).symm hin.nodup
    exact hb (h.left a (hs ▸ List.mem_append_right _ List.mem_cons_self) (by simp) b hedge)
  | cons a trail =>
    obtain ⟨late, early, hsplit, ha, htrail⟩ := List.cons_sublist_iff.1 h.order
    obtain ⟨between, mid, rfl⟩ := List.append_of_mem ha
    have hs : seen = between ++ a :: (mid ++ early) := by rw [hsplit, List.append_assoc, List.cons_append]
    have hseen : g.SeenFrom (b :: seen) a b := by
      refine ⟨[], between, mid ++ early, by rw [hs]; rfl, h.ahead a rfl b List.mem_cons_self, fun c hc hedge => ?_⟩
      -- what was seen after the end of the trail is not on the trail, so it has been left
      have hapart := (List.nodup_append.1 (hs ▸ h.nodup)).2.2 c hc
      have hnot : c ∉ a :: trail := by
        intro hmem
        rcases List.mem_cons.1 hmem with rfl | hmem
        · exact hapart c List.mem_cons_self rfl
        · exact hapart c (List.mem_cons_of_mem a (List.mem_append_right mid (htrail.subset hmem))) rfl
      exact hb (h.left c (hs ▸ List.mem_append_left _ hc) hnot b hedge)
    exact ⟨List.isChain_cons_cons.2 ⟨hseen, hway.steps⟩, fun c hc => hway.root c (by simpa using hc), hmem⟩

theorem OnWay.enter (h : OnWay g trail (b :: bs) seen) (hb : b ∉ seen) :
    OnWay g (b :: trail) (g.next b) (b :: seen) := by
  refine ⟨h.toOnTrail.enter hb, h.isWay_cons hb, fun a ha hnot c hac => ?_⟩
  obtain ⟨hne, hnot⟩ := not_or.1 (mt List.mem_cons.2 hnot)
  exact List.mem_cons_of_mem b (h.left a ((List.mem_cons.1 ha).resolve_left hne) hnot c hac)

theorem OnWay.pass (h : OnWay g trail (b :: bs) seen) : OnWay g trail bs seen :=
  ⟨h.toOnTrail.later (List.suffix_refl _) h.nodup, h.way, h.left⟩

/-- When the tour from a node is done, the node has been left, and so have the nodes entered on the way. -/
theorem OnWay.leave [LawfulBEq α] {inner : List (List α)} (h : OnWay g trail (b :: bs) seen) (hb : b ∉ seen)
    (hinner : Tour g (b :: trail) (g.next b) (b :: seen) seen' inner) : OnWay g trail bs seen' := by
  have hs := (List.suffix_cons b seen).trans hinner.suffix
  have hn := hinner.nodup (h.enter hb).nodup
  refine ⟨h.toOnTrail.later hs hn, h.way.later hs hn, fun a ha hnot c hac => ?_⟩
  by_cases hseen : a ∈ seen
  · exact hs.subset (h.left a hseen hnot c hac)
  · by_cases hab : a = b
    · subst hab; exact hinner.covers c hac
    · exact hinner.sees_next a ha (by simp [hab, hseen]) c hac

end OnWay

/-! ## Tours -/

section Tour

variable {g : Digraph α} {trail bs seen seen' : List α} {found : List (List α)}

/-- A step back from the end of the trail to a node of it closes a cycle. -/
theorem Tour.closes (h : Tour g trail bs seen seen' found) (ht : trail ⊆ seen) :
    ∀ b ∈ bs, b ∈ trail → closing trail b ∈ found := by
  induction h with
  | done => simp
  | enter hb h1 h2 _ ih2 =>
    rw [List.forall_mem_cons]
    refine ⟨fun hmem => absurd (ht hmem) hb, fun c hc hmem => List.mem_append_right _ (ih2 ?_ c hc hmem)⟩
    exact fun a ha => h1.suffix.subset (List.mem_cons_of_mem _ (ht ha))
  | close _ _ _ ih =>
    rw [List.forall_mem_cons]
    exact ⟨fun _ => List.mem_cons_self, fun c hc hmem => List.mem_cons_of_mem _ (ih ht c hc hmem)⟩
  | pass _ hb _ ih =>
    rw [List.forall_mem_cons]
    exact ⟨fun hmem => absurd hmem hb, ih ht⟩

variable [LawfulBEq α]

theorem Tour.exists_way_of_mem (h : Tour g trail bs seen seen' found) (ht : OnWay g trail bs seen) :
    ∀ w ∈ found, ∃ way b, g.IsWay seen' way ∧ b ∈ way ∧ w = closing way b := by
  induction h with
  | done => simp
  | enter hb h1 h2 ih1 ih2 =>
    intro w hw
    have hleave := ht.leave hb h1
    rcases List.mem_append.1 hw with hw | hw
    · obtain ⟨way, b, hway, hmem, rfl⟩ := ih1 (ht.enter hb) w hw
      exact ⟨way, b, hway.later h2.suffix (h2.nodup hleave.nodup), hmem, rfl⟩
    · exact ih2 hleave w hw
  | @close trail bs seen seen' b rest _ hb h ih =>
    rw [List.forall_mem_cons]
    exact ⟨⟨trail, b, ht.way.later h.suffix (h.nodup ht.nodup), hb, rfl⟩, ih ht.pass⟩
  | pass _ _ _ ih => exact ih ht.pass

/-- Every node that is entered has a way, and each edge from the node back to its way closes a cycle. -/
theorem Tour.exists_way (h : Tour g trail bs seen seen' found) (ht : OnWay g trail bs seen) :
    ∀ a ∈ seen', a ∉ seen → ∃ way, g.IsWay seen' (a :: way) ∧ ∀ b, g.Edge a b → b ∈ a :: way →
      closing (a :: way) b ∈ found := by
  induction h with
  | done => exact fun a ha hn => absurd ha hn
  | @enter trail bs seen mid seen' b inner rest hb h1 h2 ih1 ih2 =>
    intro a ha hn
    have hin := ht.enter hb
    have hleave := ht.leave hb h1
    by_cases hmid : a ∈ mid
    · have hinner : ∃ way, g.IsWay mid (a :: way) ∧ ∀ c, g.Edge a c → c ∈ a :: way → closing (a :: way) c ∈ inner := by
        by_cases hab : a = b
        · subst hab
          exact ⟨trail, hin.way.later h1.suffix hleave.nodup, h1.closes hin.order.subset⟩
        · exact ih1 hin a hmid (by simp [hab, hn])
      obtain ⟨way, hway, hclose⟩ := hinner
      exact ⟨way, hway.later h2.suffix (h2.nodup hleave.nodup),
        fun c hac hc => List.mem_append_left _ (hclose c hac hc)⟩
    · obtain ⟨way, hway, hclose⟩ := ih2 hleave a ha hmid
      exact ⟨way, hway, fun c hac hc => List.mem_append_right _ (hclose c hac hc)⟩
  | close _ _ _ ih =>
    intro a ha hn
    obtain ⟨way, hway, hclose⟩ := ih ht.pass a ha hn
    exact ⟨way, hway, fun c hac hc => List.mem_cons_of_mem _ (hclose c hac hc)⟩
  | pass _ _ _ ih => exact ih ht.pass

end Tour

/-! ## The cycles found -/

section Lawful

variable {g : Digraph α}

theorem isElementaryCycle_iff {w : List α} : IsElementaryCycle g w ↔
    ∃ a l, w = a :: (l ++ [a]) ∧ (a :: l).Nodup ∧ Cycle.Chain g.Edge (a :: l : List α) := by
  constructor
  · rintro ⟨hlong, hclosed, hdistinct, hwalk⟩
    obtain ⟨m, z, rfl⟩ := (List.eq_nil_or_concat' w).resolve_left fun hnil => by simp [hnil] at hlong
    rw [List.getLast?_concat] at hclosed
    rw [List.dropLast_concat] at hdistinct
    cases m with
    | nil => simp at hlong
    | cons a l =>
      obtain rfl : a = z := by simpa using hclosed
      exact ⟨a, l, rfl, hdistinct, (Cycle.chain_coe_cons ..).2 hwalk⟩
  · rintro ⟨a, l, rfl, hdistinct, hwalk⟩
    have hshape : a :: (l ++ [a]) = (a :: l) ++ [a] := rfl
    refine ⟨by simp, by rw [hshape, List.getLast?_concat]; rfl, ?_, (Cycle.chain_coe_cons ..).1 hwalk⟩
    rwa [hshape, List.dropLast_concat]

variable [LawfulBEq α]

theorem wayBack_append {b : α} {steps : List α} (rest : List α) (hb : b ∉ steps) :
    wayBack (steps ++ b :: rest) b = steps ++ [b] := by
  have hsteps : ∀ a ∈ steps, (a != b) = true := fun a ha => bne_iff_ne.2 fun hab => hb (hab ▸ ha)
  rw [wayBack, List.takeWhile_append_of_pos hsteps, List.takeWhile_cons_of_neg (by simp), List.append_nil]

/-- A tour through all nodes finds a cycle, written from one of its nodes on, exactly if each node but this one is seen
from the one before. -/
theorem Tour.mem_found_iff {seen : List α} {found : List (List α)} (h : Tour g [] g.nodes [] seen found)
    {a : α} {l : List α} (hdistinct : (a :: l).Nodup) (hwalk : Cycle.Chain g.Edge (a :: l : List α)) :
    a :: (l ++ [a]) ∈ found ↔ (a :: l).IsChain (g.SeenFrom seen) := by
  have hshape : a :: (l ++ [a]) = (a :: l) ++ [a] := rfl
  constructor
  · intro hmem
    obtain ⟨way, b, hway, hb, hw⟩ := h.exists_way_of_mem (OnWay.start g _) _ hmem
    have hback : a :: l = (wayBack way b).reverse := by
      have hdrop := congrArg List.dropLast hw
      rwa [hshape, closing_eq_wayBack, List.dropLast_concat, List.dropLast_concat] at hdrop
    rw [hback, List.isChain_reverse]
    exact List.IsChain.prefix hway.steps (wayBack_isPrefix hb)
  · intro hsteps
    obtain ⟨m, z, hm⟩ := (List.eq_nil_or_concat' (a :: l)).resolve_left (List.cons_ne_nil a l)
    have hrev : l.reverse ++ [a] = z :: m.reverse := by
      rw [← List.reverse_cons, hm, List.reverse_concat]
    have hedge : g.Edge z a := by
      have hchain := (Cycle.chain_coe_cons ..).1 hwalk
      rw [hshape, hm, List.isChain_append] at hchain
      exact hchain.2.2 z (by simp) a rfl
    -- the way of the last node begins with the cycle backwards
    obtain ⟨way, hway, hclose⟩ := h.exists_way (OnWay.start g _) z (h.covers z hedge.mem_nodes) List.not_mem_nil
    have hback : (z :: m.reverse).IsChain fun b a => g.SeenFrom seen a b := by
      rwa [← hrev, ← List.reverse_cons, List.isChain_reverse]
    obtain ⟨rest, rfl⟩ := hway.isPrefix (h.nodup List.nodup_nil) hback
    have hway' : z :: (m.reverse ++ rest) = l.reverse ++ a :: rest := by
      rw [← List.cons_append, ← hrev, List.append_assoc, List.singleton_append]
    have hcycle := hclose a hedge (hway' ▸ List.mem_append_right _ List.mem_cons_self)
    have hlast : a ∉ l.reverse := fun hmem => (List.nodup_cons.1 hdistinct).1 (List.mem_reverse.1 hmem)
    rwa [hway', closing_eq_wayBack, wayBack_append rest hlast, List.reverse_concat, List.reverse_reverse] at hcycle

/-- The nodes that the search through all nodes has seen, the latest first. -/
def seen (g : Digraph α) : List α := (g.nodes.foldl (step g (g.size + 1) []) ⟨[], []⟩).visited

theorem exists_tour_seen (g : Digraph α) :
    ∃ found, Tour g [] g.nodes [] g.seen found ∧ ∀ w, w ∈ g.cycles ↔ w ∈ found := by
  obtain ⟨seen, found, h, he⟩ := tour_of_foldl (g.entersByTour (g.size + 1)) [] g.nodes ⟨[], []⟩
    (fun b hb => List.mem_append_left _ hb) (Nat.le_succ_of_le g.unseen_nil_le)
  obtain rfl : g.seen = seen := by rw [Digraph.seen, he]
  refine ⟨found, h, fun w => ?_⟩
  have hcycles : g.cycles = unrepeated found := by rw [cycles_eq_steps, he]; rfl
  rw [hcycles]
  refine ⟨mem_of_mem_unrepeated, fun hw => ?_⟩
  obtain ⟨d, hd, hperm⟩ := exists_perm_mem_unrepeated hw
  exact h.eq_of_same_nodes d (mem_of_mem_unrepeated hd) w hw (fun x => hperm.mem_iff) ▸ hd

/-- The search finds an elementary cycle, in one rotation or another, exactly if in some rotation each of its nodes but
the first one is seen from the one before: the latest of the nodes seen earlier that have an edge to it. -/
theorem finds_cycle_iff (g : Digraph α) (z : Cycle α) (hne : z ≠ Cycle.nil) (hdistinct : z.Nodup)
    (hwalk : z.Chain g.Edge) :
    (∃ w ∈ g.cycles, (w.dropLast : Cycle α) = z) ↔ ∃ l : List α, (l : Cycle α) = z ∧ l.IsChain (g.SeenFrom g.seen) := by
  obtain ⟨found, htour, hcycles⟩ := g.exists_tour_seen
  constructor
  · rintro ⟨w, hw, rfl⟩
    obtain ⟨a, l, rfl, hl, hchain⟩ := isElementaryCycle_iff.1 (isElementaryCycle_of_mem_cycles hw)
    refine ⟨_, rfl, ?_⟩
    rw [← List.cons_append, List.dropLast_concat]
    exact (htour.mem_found_iff hl hchain).1 ((hcycles _).1 hw)
  · rintro ⟨l, rfl, hsteps⟩
    cases l with
    | nil => exact absurd rfl hne
    | cons a l =>
      refine ⟨a :: (l ++ [a]), (hcycles _).2 ((htour.mem_found_iff (Cycle.nodup_coe_iff.1 hdistinct) hwalk).2 hsteps),
        ?_⟩
      rw [← List.cons_append, List.dropLast_concat]

/-- Two ways lead from `a` to `d` and back. -/
def twoWays : Digraph String := [("a", ["b", "c"]), ("b", ["d"]), ("c", ["d"]), ("d", ["a"])]

/-- The cycle through `c` is missed, since `d` is seen from `b`. -/
theorem finds_cycle_iff_twoWays :
    let z : Cycle String := (["a", "c", "d"] : List String)
    z.Nodup ∧ z.Chain twoWays.Edge ∧ twoWays.cycles = [["a", "b", "d", "a"]] ∧ twoWays.seen = ["c", "d", "b", "a"] ∧
      (¬ ∃ w ∈ twoWays.cycles, (w.dropLast : Cycle String) = z) ∧
      ¬ ∃ l : List String, (l : Cycle String) = z ∧ l.IsChain (twoWays.SeenFrom twoWays.seen) := by
  intro z
  have hdistinct : z.Nodup := by decide
  have hwalk : z.Chain twoWays.Edge := by
    rw [Cycle.chain_coe_cons]
    simp [twoWays, Edge, next]
  have hcycles : twoWays.cycles = [["a", "b", "d", "a"]] := by decide
  have hmissed : ¬ ∃ w ∈ twoWays.cycles, (w.dropLast : Cycle String) = z := by
    rw [hcycles]
    decide
  exact ⟨hdistinct, hwalk, hcycles, by decide, hmissed,
    (finds_cycle_iff twoWays z (by decide) hdistinct hwalk).not.1 hmissed⟩

end Lawful

end CodeSurvey.Digraph
