/-
The depth-first search for cycles as a relation, without fuel and without the list of cycles that it keeps: a tour goes
through nodes at the end of a trail, enters those not seen before, and closes a cycle at each node of the trail. The
search is such a tour through all nodes (`cycles_tour`), and its cycles are those that the tour closes, less the
repeated ones (`unrepeated`). All that is shown of the search is shown of tours, by induction over their rules. How deep
a search may go (`searchable`) is a matter of its own.
-/
import CodeSurvey.CallGraph.Basic
import Mathlib.Data.List.Basic
import Mathlib.Data.List.Induction
import Mathlib.Logic.Relation

namespace CodeSurvey.Digraph

variable {α : Type} [BEq α]

/-! ## Edges -/

def Edge (g : Digraph α) (a b : α) : Prop := b ∈ g.next a

/-- All nodes, with an entry or without one. -/
def mentioned (g : Digraph α) : List α := g.nodes ++ g.flatMap (·.2)

omit [BEq α] in
theorem length_mentioned (g : Digraph α) : g.mentioned.length = g.size := by
  unfold mentioned size nodes
  rw [List.length_append, List.length_map]
  congr 1
  induction g with
  | nil => rfl
  | cons e g ih => simp [total] at ih ⊢; exact ih

theorem next_eq_or (g : Digraph α) (a : α) : g.next a = [] ∨ ∃ e ∈ g, (e.1 == a) = true ∧ g.next a = e.2 := by
  unfold next
  cases h : g.find? (·.1 == a) with
  | none => exact .inl rfl
  | some e => exact .inr ⟨e, List.mem_of_find?_eq_some h, by simpa using List.find?_some h, rfl⟩

theorem Edge.mentioned {g : Digraph α} {a b : α} (h : g.Edge a b) : b ∈ g.mentioned := by
  rcases g.next_eq_or a with hn | ⟨e, he, -, hn⟩
  · rw [Edge, hn] at h; cases h
  · rw [Edge, hn] at h
    exact List.mem_append_right _ (List.mem_flatMap.2 ⟨e, he, h⟩)

theorem Edge.mem_nodes [LawfulBEq α] {g : Digraph α} {a b : α} (h : g.Edge a b) : a ∈ g.nodes := by
  rcases g.next_eq_or a with hn | ⟨e, he, ha, -⟩
  · rw [Edge, hn] at h; cases h
  · exact List.mem_map.2 ⟨e, he, by simpa using ha⟩

/-! ## Tours -/

/-- A tour through nodes at the end of a trail, which is given backwards: `seen` are the nodes seen before and `seen'`
those seen after it, the latest first; `found` are the cycles closed, in order. -/
inductive Tour (g : Digraph α) : (trail nodes seen seen' : List α) → (found : List (List α)) → Prop
  | done {trail seen : List α} : Tour g trail [] seen seen []
  | enter {trail bs seen mid seen' : List α} {b : α} {inner rest : List (List α)} : b ∉ seen →
      Tour g (b :: trail) (g.next b) (b :: seen) mid inner → Tour g trail bs mid seen' rest →
      Tour g trail (b :: bs) seen seen' (inner ++ rest)
  | close {trail bs seen seen' : List α} {b : α} {rest : List (List α)} : b ∈ seen → b ∈ trail →
      Tour g trail bs seen seen' rest → Tour g trail (b :: bs) seen seen' (closing trail b :: rest)
  | pass {trail bs seen seen' : List α} {b : α} {rest : List (List α)} : b ∈ seen → b ∉ trail →
      Tour g trail bs seen seen' rest → Tour g trail (b :: bs) seen seen' rest

theorem Tour.suffix {g : Digraph α} {trail bs seen seen' : List α} {found : List (List α)}
    (h : Tour g trail bs seen seen' found) : seen <:+ seen' := by
  induction h with
  | done => exact List.suffix_refl _
  | enter _ _ _ ih1 ih2 => exact ((List.suffix_cons _ _).trans ih1).trans ih2
  | close _ _ _ ih => exact ih
  | pass _ _ _ ih => exact ih

theorem Tour.nodup {g : Digraph α} {trail bs seen seen' : List α} {found : List (List α)}
    (h : Tour g trail bs seen seen' found) (hs : seen.Nodup) : seen'.Nodup := by
  induction h with
  | done => exact hs
  | enter hb _ _ ih1 ih2 => exact ih2 (ih1 (List.nodup_cons.2 ⟨hb, hs⟩))
  | close _ _ _ ih => exact ih hs
  | pass _ _ _ ih => exact ih hs

theorem Tour.covers {g : Digraph α} {trail bs seen seen' : List α} {found : List (List α)}
    (h : Tour g trail bs seen seen' found) : ∀ b ∈ bs, b ∈ seen' := by
  induction h with
  | done => simp
  | enter _ h1 h2 _ ih2 =>
    rw [List.forall_mem_cons]
    exact ⟨h2.suffix.subset (h1.suffix.subset (List.mem_cons_self ..)), ih2⟩
  | close hb _ h ih => exact List.forall_mem_cons.2 ⟨h.suffix.subset hb, ih⟩
  | pass hb _ h ih => exact List.forall_mem_cons.2 ⟨h.suffix.subset hb, ih⟩

/-! ## The search is a tour -/

/-- Adds cycles one after the other, without those whose nodes are known. -/
def addCycles (found known : List (List α)) : List (List α) := found.foldl (fun acc c => addCycle c acc) known

/-- The cycles of a list, without those whose nodes have come before. -/
def unrepeated (found : List (List α)) : List (List α) := addCycles found []

theorem addCycles_cons (c : List α) (found known : List (List α)) :
    addCycles (c :: found) known = addCycles found (addCycle c known) := rfl

theorem addCycles_append (found more known : List (List α)) :
    addCycles (found ++ more) known = addCycles more (addCycles found known) := List.foldl_append ..

theorem unrepeated_concat (found : List (List α)) (c : List α) :
    unrepeated (found ++ [c]) = addCycle c (unrepeated found) := addCycles_append ..

/-- How many nodes are not seen yet, which bounds how much deeper a search goes. -/
def unseen (g : Digraph α) (seen : List α) : Nat := (g.mentioned.filter fun a => !seen.contains a).length

/-- What the search does at a node reached from the end of a trail. -/
def step (g : Digraph α) (fuel : Nat) (trail : List α) (s : Search α) (b : α) : Search α :=
  if !s.visited.contains b then visit g fuel trail s b
  else if trail.contains b then { s with cycles := addCycle (closing trail b) s.cycles }
  else s

theorem visit_succ (g : Digraph α) (fuel : Nat) (trail : List α) (s : Search α) (a : α) :
    visit g (fuel + 1) trail s a =
      (g.next a).foldl (step g fuel (a :: trail)) { s with visited := a :: s.visited } := rfl

theorem cycles_eq_steps (g : Digraph α) :
    g.cycles = (g.nodes.foldl (step g (g.size + 1) []) ⟨[], []⟩).cycles := by
  unfold cycles
  congr 2
  funext s a
  cases h : s.visited.contains a <;> simp [step, h]

theorem unseen_nil_le (g : Digraph α) : g.unseen [] ≤ g.size := by
  rw [← length_mentioned]
  exact List.length_filter_le _ _

section Lawful

variable [LawfulBEq α]

theorem unseen_le_of_suffix (g : Digraph α) {seen seen' : List α} (h : seen <:+ seen') :
    g.unseen seen' ≤ g.unseen seen := by
  refine (List.monotone_filter_right _ fun a ha => ?_).length_le
  simp only [Bool.not_eq_true', List.contains_eq_mem, decide_eq_false_iff_not] at ha ⊢
  exact fun hs => ha (h.subset hs)

theorem unseen_cons_lt {g : Digraph α} {seen : List α} {b : α} (hb : b ∈ g.mentioned) (hs : b ∉ seen) :
    g.unseen (b :: seen) < g.unseen seen := by
  have hf : (g.mentioned.filter fun a => !(b :: seen).contains a) =
      (g.mentioned.filter fun a => !seen.contains a).filter (· != b) := by
    rw [List.filter_filter]
    exact List.filter_congr fun a _ => by simp [bne]
  unfold unseen
  rw [hf, List.length_filter_lt_length_iff_exists]
  exact ⟨b, List.mem_filter.2 ⟨hb, by simpa using hs⟩, by simp⟩

/-- Entering a node by a step of the search is a tour through its successors. -/
def EntersByTour (g : Digraph α) (fuel : Nat) : Prop :=
  ∀ (trail : List α) (s : Search α) (b : α), b ∉ s.visited → b ∈ g.mentioned → g.unseen s.visited ≤ fuel →
    ∃ mid inner, Tour g (b :: trail) (g.next b) (b :: s.visited) mid inner ∧
      step g fuel trail s b = ⟨mid, addCycles inner s.cycles⟩

theorem tour_of_foldl {g : Digraph α} {fuel : Nat} (henter : g.EntersByTour fuel) (trail : List α) :
    ∀ (bs : List α) (s : Search α), (∀ b ∈ bs, b ∈ g.mentioned) → g.unseen s.visited ≤ fuel →
      ∃ seen' found, Tour g trail bs s.visited seen' found ∧
        bs.foldl (step g fuel trail) s = ⟨seen', addCycles found s.cycles⟩
  | [], s, _, _ => ⟨s.visited, [], .done, rfl⟩
  | b :: bs, s, hm, hf => by
    rw [List.forall_mem_cons] at hm
    rw [List.foldl_cons]
    by_cases hb : b ∈ s.visited
    · by_cases ht : b ∈ trail
      · have hs : step g fuel trail s b = ⟨s.visited, addCycle (closing trail b) s.cycles⟩ := by simp [step, hb, ht]
        obtain ⟨seen', found, h, he⟩ := tour_of_foldl henter trail bs
          ⟨s.visited, addCycle (closing trail b) s.cycles⟩ hm.2 hf
        exact ⟨seen', _, .close hb ht h, by rw [hs, he, addCycles_cons]⟩
      · have hs : step g fuel trail s b = s := by simp [step, hb, ht]
        obtain ⟨seen', found, h, he⟩ := tour_of_foldl henter trail bs s hm.2 hf
        exact ⟨seen', found, .pass hb ht h, by rw [hs, he]⟩
    · obtain ⟨mid, inner, h1, hs⟩ := henter trail s b hb hm.1 hf
      -- the nodes seen inside only lower the need for fuel of the nodes that follow
      have hle : g.unseen mid ≤ fuel :=
        Nat.le_trans (g.unseen_le_of_suffix ((List.suffix_cons b s.visited).trans h1.suffix)) hf
      obtain ⟨seen', rest, h2, he⟩ := tour_of_foldl henter trail bs ⟨mid, addCycles inner s.cycles⟩ hm.2 hle
      exact ⟨seen', inner ++ rest, .enter hb h1 h2, by rw [hs, he, addCycles_append]⟩

/-- With fuel for every node not seen yet, the search does not run out of it. -/
theorem entersByTour (g : Digraph α) : ∀ fuel, g.EntersByTour fuel
  | 0, _, _, _, hb, hm, hf => absurd (unseen_cons_lt hm hb) (by omega)
  | fuel + 1, trail, s, b, hb, hm, hf => by
    have hlt := unseen_cons_lt hm hb
    obtain ⟨mid, inner, h, he⟩ := tour_of_foldl (entersByTour g fuel) (b :: trail) (g.next b)
      { s with visited := b :: s.visited } (fun c hc => Edge.mentioned (a := b) hc) (by simp only; omega)
    refine ⟨mid, inner, h, ?_⟩
    rw [← he, ← visit_succ]
    simp [step, hb]

/-- The search for cycles is a tour through all nodes; of the cycles that it closes, those with known nodes are left
out. -/
theorem cycles_tour (g : Digraph α) :
    ∃ seen found, Tour g [] g.nodes [] seen found ∧ g.cycles = unrepeated found := by
  obtain ⟨seen, found, h, he⟩ := tour_of_foldl (g.entersByTour (g.size + 1)) [] g.nodes ⟨[], []⟩
    (fun b hb => List.mem_append_left _ hb) (Nat.le_succ_of_le g.unseen_nil_le)
  exact ⟨seen, found, h, by rw [cycles_eq_steps, he]; rfl⟩

/-! ## Repeated cycles -/

theorem addCycle_cases (c : List α) (known : List (List α)) :
    (∃ d ∈ known, d.Perm c) ∧ addCycle c known = known ∨
      (∀ d ∈ known, ¬ d.Perm c) ∧ addCycle c known = known ++ [c] := by
  unfold addCycle
  split
  · rename_i h
    simp only [List.any_eq_true, List.isPerm_iff] at h
    exact .inl ⟨h, rfl⟩
  · rename_i h
    simp only [List.any_eq_true, List.isPerm_iff, not_exists, not_and] at h
    exact .inr ⟨h, rfl⟩

theorem mem_of_mem_unrepeated {found : List (List α)} {c : List α} (h : c ∈ unrepeated found) : c ∈ found := by
  induction found using List.reverseRec with
  | nil => exact h
  | append_singleton found d ih =>
    rw [unrepeated_concat] at h
    rcases addCycle_cases d (unrepeated found) with ⟨-, he⟩ | ⟨-, he⟩ <;> rw [he] at h
    · exact List.mem_append_left _ (ih h)
    · rcases List.mem_append.1 h with h | h
      · exact List.mem_append_left _ (ih h)
      · exact List.mem_append_right _ h

/-- A cycle is left out only for another one with the same nodes. -/
theorem exists_perm_mem_unrepeated {found : List (List α)} {c : List α} (h : c ∈ found) :
    ∃ d ∈ unrepeated found, d.Perm c := by
  induction found using List.reverseRec with
  | nil => cases h
  | append_singleton found e ih =>
    rw [unrepeated_concat]
    rcases List.mem_append.1 h with h | h
    · obtain ⟨d, hd, hp⟩ := ih h
      rcases addCycle_cases e (unrepeated found) with ⟨-, he⟩ | ⟨-, he⟩ <;> rw [he]
      · exact ⟨d, hd, hp⟩
      · exact ⟨d, List.mem_append_left _ hd, hp⟩
    · obtain rfl := List.mem_singleton.1 h
      rcases addCycle_cases c (unrepeated found) with ⟨⟨d, hd, hp⟩, he⟩ | ⟨-, he⟩ <;> rw [he]
      · exact ⟨d, hd, hp⟩
      · exact ⟨c, List.mem_append_right _ (List.mem_singleton_self c), .refl c⟩

theorem pairwise_unrepeated (found : List (List α)) : (unrepeated found).Pairwise fun c d => ¬ c.Perm d := by
  induction found using List.reverseRec with
  | nil => exact .nil
  | append_singleton found c ih =>
    rw [unrepeated_concat]
    rcases addCycle_cases c (unrepeated found) with ⟨-, he⟩ | ⟨hn, he⟩ <;> rw [he]
    · exact ih
    · exact List.pairwise_append.2 ⟨ih, List.pairwise_singleton .., fun d hd e hm => by
        rw [List.mem_singleton.1 hm]; exact hn d hd⟩

/-- Where cycles with the same nodes are equal, only exact repetitions are left out. -/
theorem unrepeated_eq_eraseDups {found : List (List α)} (h : ∀ c ∈ found, ∀ d ∈ found, c.Perm d → c = d) :
    unrepeated found = found.eraseDups := by
  induction found using List.reverseRec with
  | nil => rfl
  | append_singleton found c ih =>
    have ih := ih fun a ha b hb => h a (List.mem_append_left _ ha) b (List.mem_append_left _ hb)
    rw [unrepeated_concat, List.eraseDups_append, ← ih]
    rcases addCycle_cases c (unrepeated found) with ⟨⟨d, hd, hp⟩, he⟩ | ⟨hn, he⟩ <;> rw [he]
    · have hm := mem_of_mem_unrepeated hd
      have hc : c ∈ found :=
        h d (List.mem_append_left _ hm) c (List.mem_append_right _ (List.mem_singleton_self c)) hp ▸ hm
      simp [List.removeAll, hc]
    · have hc : c ∉ found := fun hc => by
        obtain ⟨d, hd, hp⟩ := exists_perm_mem_unrepeated hc
        exact hn d hd hp
      simp [List.removeAll, hc, List.eraseDups_cons]

/-- Leaving out repeated cycles and taking those of some lengths may change places. -/
theorem unrepeated_filter (p : Nat → Bool) (found : List (List α)) :
    unrepeated (found.filter fun c => p c.length) = (unrepeated found).filter fun c => p c.length := by
  induction found using List.reverseRec with
  | nil => rfl
  | append_singleton found c ih =>
    rw [List.filter_append, unrepeated_concat]
    cases hc : p c.length with
    | false =>
      have hf : [c].filter (fun c => p c.length) = [] := by simp [hc]
      rw [hf, List.append_nil, ih]
      rcases addCycle_cases c (unrepeated found) with ⟨-, he⟩ | ⟨-, he⟩ <;> rw [he]
      rw [List.filter_append, hf, List.append_nil]
    | true =>
      have hf : [c].filter (fun c => p c.length) = [c] := by simp [hc]
      rw [hf, unrepeated_concat, ih]
      rcases addCycle_cases c (unrepeated found) with ⟨⟨d, hd, hp⟩, he⟩ | ⟨hn, he⟩ <;> rw [he]
      · -- the known cycle with the same nodes has the same length, so the filter keeps it too
        have hd' : d ∈ (unrepeated found).filter fun c => p c.length :=
          List.mem_filter.2 ⟨hd, by rw [hp.length_eq]; exact hc⟩
        rcases addCycle_cases c ((unrepeated found).filter fun c => p c.length) with ⟨-, he'⟩ | ⟨hn, -⟩
        · exact he'
        · exact absurd hp (hn d hd')
      · rcases addCycle_cases c ((unrepeated found).filter fun c => p c.length) with ⟨⟨d, hd, hp⟩, -⟩ | ⟨-, he'⟩
        · exact absurd hp (hn d (List.mem_filter.1 hd).1)
        · rw [he', List.filter_append, hf]

end Lawful

end CodeSurvey.Digraph
