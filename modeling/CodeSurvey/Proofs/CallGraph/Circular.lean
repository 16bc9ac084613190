/-
The two searches for circular calls agree: the circular calls of a call graph are the cycles of its graph of names,
without functions that call themselves, stably sorted by length.

Both searches go on the same tour. The exploration passes over names without an entry, where the other search enters
them to no effect, asks for the trail before it asks for the nodes seen, and sorts out repeated cycles at the end: so
the two agree on the nodes with an entry after every step (`SeenAlike`), and the exploration notes the cycles of the
tour that are no loops.
-/
import CodeSurvey.Proofs.CallGraph.Elementary

namespace CodeSurvey.Digraph

variable {α : Type} [BEq α]

/-! ## Loops and lengths -/

/-- A node that is its own successor, as a cycle. -/
def isLoop : List α → Bool
  | [a, b] => a == b
  | _ => false

def edges (c : List α) : List (α × α) := c.zip c.tail

omit [BEq α] in
theorem length_edges (c : List α) : (edges c).length = c.length - 1 := by simp [edges]

theorem IsElementaryCycle.isLoop_iff [LawfulBEq α] {g : Digraph α} {c : List α} (h : IsElementaryCycle g c) :
    isLoop c = !decide (2 < c.length) := by
  match c, h with
  | [], h => exact absurd h.long (by simp)
  | [a], h => exact absurd h.long (by simp)
  | [a, b], h =>
    have hab : a = b := by simpa using h.closed
    simp [isLoop, hab]
  | a :: b :: d :: l, _ => simp [isLoop]

/-! ## The exploration is a tour -/

/-- Two lists hold the same nodes that have an entry. -/
def SeenAlike (g : Digraph α) (visited seen : List α) : Prop := ∀ x ∈ g.nodes, x ∈ visited ↔ x ∈ seen

omit [BEq α] in
theorem SeenAlike.cons {g : Digraph α} {visited seen : List α} (h : SeenAlike g visited seen) (b : α) :
    SeenAlike g (b :: visited) (b :: seen) := by
  intro x hx
  rw [List.mem_cons, List.mem_cons, h x hx]

omit [BEq α] in
theorem SeenAlike.skip {g : Digraph α} {visited seen : List α} (h : SeenAlike g visited seen) {b : α}
    (hb : b ∉ g.nodes) : SeenAlike g visited (b :: seen) := by
  intro x hx
  have hxb : x ≠ b := fun h => hb (h ▸ hx)
  rw [List.mem_cons, h x hx]
  simp [hxb]

section Lawful

variable [LawfulBEq α]

theorem next_eq_nil {g : Digraph α} {b : α} (hb : b ∉ g.nodes) : g.next b = [] := by
  rcases g.next_eq_or b with h | ⟨e, he, heb, -⟩
  · exact h
  · exact absurd (List.mem_map.2 ⟨e, he, by simpa using heb⟩) hb

theorem explore_enter {g : Digraph α} {fuel : Nat} {trail : List α} {s : Search α} {b : α} (ht : b ∉ trail)
    (hv : b ∉ s.visited) (hb : b ∈ g.nodes) :
    explore g (fuel + 1) trail s b =
      (g.next b).foldl (explore g fuel (b :: trail)) { s with visited := b :: s.visited } := by
  simp [explore, ht, hv, hb]

theorem explore_skip {g : Digraph α} {fuel : Nat} {trail : List α} {s : Search α} {b : α} (ht : b ∉ trail)
    (h : b ∈ s.visited ∨ b ∉ g.nodes) : explore g (fuel + 1) trail s b = s := by
  simp [explore, ht]
  tauto

/-- The cycles that the exploration notes: all but loops. -/
def noted (found : List (List α)) : List (List α) := found.filter fun c => decide (2 < c.length)

theorem explore_close {g : Digraph α} {fuel : Nat} {trail : List α} {s : Search α} {b : α} (ht : b ∈ trail) :
    explore g (fuel + 1) trail s b = { s with cycles := s.cycles ++ noted [closing trail b] } := by
  by_cases h : 2 < (closing trail b).length <;> simp [explore, noted, ht, h]

/-- In lockstep with a tour, the exploration of the same nodes sees alike and notes the cycles that are no loops. -/
theorem Tour.explore {g : Digraph α} {trail bs seen seen' : List α} {found : List (List α)}
    (h : Tour g trail bs seen seen' found) : ∀ {fuel : Nat} {s : Search α}, SeenAlike g s.visited seen →
      trail ⊆ seen → g.unseen seen < fuel → ∃ visited, SeenAlike g visited seen' ∧
        bs.foldl (explore g fuel trail) s = ⟨visited, s.cycles ++ noted found⟩ := by
  induction h with
  | done => exact fun {_ s} hs _ _ => ⟨s.visited, hs, by simp [noted]⟩
  | @enter trail bs seen mid seen' b inner rest hb h1 h2 ih1 ih2 =>
    intro fuel s hs ht hf
    obtain ⟨fuel, rfl⟩ : ∃ n, fuel = n + 1 := ⟨fuel - 1, by omega⟩
    have hbt : b ∉ trail := fun h => hb (ht h)
    have hmid : seen <:+ mid := (List.suffix_cons b seen).trans h1.suffix
    have hfm : g.unseen mid < fuel + 1 := Nat.lt_of_le_of_lt (g.unseen_le_of_suffix hmid) hf
    rw [List.foldl_cons]
    by_cases hn : b ∈ g.nodes
    · have hlt := unseen_cons_lt (List.mem_append_left _ hn) hb
      obtain ⟨v, hv, he⟩ := ih1 (s := { s with visited := b :: s.visited }) (hs.cons b) (List.cons_subset_cons b ht)
        (by omega : g.unseen (b :: seen) < fuel)
      obtain ⟨v', hv', he'⟩ := ih2 (s := ⟨v, s.cycles ++ noted inner⟩) hv (fun a ha => hmid.subset (ht ha)) hfm
      refine ⟨v', hv', ?_⟩
      rw [explore_enter hbt (fun h => hb ((hs b hn).1 h)) hn, he, he']
      simp [noted]
    · -- a name without an entry is entered by the tour and left at once
      rw [next_eq_nil hn] at h1
      cases h1
      obtain ⟨v, hv, he⟩ := ih2 (s := s) (hs.skip hn) (fun a ha => hmid.subset (ht ha)) hfm
      exact ⟨v, hv, by rw [explore_skip hbt (.inr hn), he, List.nil_append]⟩
  | @close trail bs seen seen' b rest _ hbt h ih =>
    intro fuel s hs ht hf
    obtain ⟨fuel, rfl⟩ : ∃ n, fuel = n + 1 := ⟨fuel - 1, by omega⟩
    obtain ⟨v, hv, he⟩ := ih (s := { s with cycles := s.cycles ++ noted [closing trail b] }) hs ht hf
    refine ⟨v, hv, ?_⟩
    rw [List.foldl_cons, explore_close hbt, he, List.append_assoc]
    unfold noted
    rw [← List.filter_append, List.singleton_append]
  | @pass trail bs seen seen' b rest hb hbt h ih =>
    intro fuel s hs ht hf
    obtain ⟨fuel, rfl⟩ : ∃ n, fuel = n + 1 := ⟨fuel - 1, by omega⟩
    obtain ⟨v, hv, he⟩ := ih hs ht hf
    refine ⟨v, hv, ?_⟩
    -- a name without an entry may be seen by the tour alone
    have hskip : b ∈ s.visited ∨ b ∉ g.nodes := by
      by_cases hn : b ∈ g.nodes
      · exact .inl ((hs b hn).2 hb)
      · exact .inr hn
    rw [List.foldl_cons, explore_skip hbt hskip, he]

/-! ## The circular calls of a graph -/

theorem closedWalks_eq_steps (g : Digraph α) :
    g.closedWalks = unrepeated (g.nodes.foldl (explore g (g.size + 2) []) ⟨[], []⟩).cycles := by
  have hf : (fun (s : Search α) a => if s.visited.contains a then s else explore g (g.size + 2) [] s a) =
      explore g (g.size + 2) [] := by
    funext s a
    by_cases h : a ∈ s.visited
    · simp [h, explore_skip (List.not_mem_nil) (.inl h)]
    · simp [h]
  show unrepeated _ = _
  rw [hf]

/-- The closed walks that the exploration gives are the cycles of the other search that are no loops, in the same order
and rotation. -/
theorem closedWalks_eq_cycles (g : Digraph α) : g.closedWalks = g.cycles.filter fun c => !isLoop c := by
  obtain ⟨seen, found, h, he⟩ := g.cycles_tour
  have hf : g.unseen [] < g.size + 2 := by
    have hle := g.unseen_nil_le
    omega
  obtain ⟨v, -, hx⟩ := h.explore (s := ⟨[], []⟩) (fun x _ => Iff.rfl) (List.nil_subset _) hf
  rw [closedWalks_eq_steps, hx, List.nil_append]
  unfold noted
  rw [unrepeated_filter (fun n => decide (2 < n)), ← he]
  refine List.filter_congr fun c hc => ?_
  rw [(h.isElementaryCycle c (mem_of_mem_unrepeated (he ▸ hc))).isLoop_iff, Bool.not_not]

/-- For every list of nodes with their calls, in which names may be repeated and called names need no entry: the
circular calls are the cycles of the graph of names, without the loops, stably sorted by their number of edges; each has
this number as its length, and is critical up to a length of three. -/
theorem circularCalls_eq_sorted_cycles (entries : List (α × List α)) :
    let g := ofEntries entries
    g.circularCalls.map (fun c => (c.cycle, c.length, c.severity)) =
      ((g.cycles.filter fun c => !isLoop c).mergeSort fun c d => (edges c).length ≤ (edges d).length).map fun c =>
        (c, (edges c).length, if (edges c).length ≤ 3 then "critical" else "high") := by
  intro g
  have hsort : g.circularCalls =
      ((g.cycles.filter fun c => !isLoop c).mergeSort fun c d => (edges c).length ≤ (edges d).length).map
        fun c => ⟨c, c.length - 1⟩ := by
    unfold circularCalls
    rw [closedWalks_eq_cycles]
    exact (List.map_mergeSort fun c _ d _ => by simp only [length_edges]).symm
  rw [hsort, List.map_map]
  refine List.map_congr_left fun c _ => ?_
  rw [Function.comp_apply, length_edges]
  rfl

/-- Nodes of which one name is given twice, with a function that calls itself and a call of an unknown name. -/
theorem circularCalls_eq_sorted_cycles_twice :
    (ofEntries [("a", []), ("b", ["c"]), ("c", ["x", "d", "b"]), ("d", ["a"]), ("a", ["a", "b"])]).circularCalls.map
        (fun c => (c.cycle, c.length, c.severity)) =
      [(["b", "c", "b"], 2, "critical"), (["a", "b", "c", "d", "a"], 4, "high")] := by
  have hcycles :
      ((ofEntries [("a", []), ("b", ["c"]), ("c", ["x", "d", "b"]), ("d", ["a"]), ("a", ["a", "b"])]).cycles.filter
      fun c => !isLoop c) = [["a", "b", "c", "d", "a"], ["b", "c", "b"]] := by decide
  rw [circularCalls_eq_sorted_cycles, hcycles]
  simp [List.mergeSort, List.MergeSort.Internal.splitInTwo, edges]

end Lawful

end CodeSurvey.Digraph
