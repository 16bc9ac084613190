/-
What a pattern can match, said without the order in which the ways are tried. `Pattern.Reaches` relates the place before
a match to the places behind it, and the search with its choices finds a way exactly if there is one (`run_spec`).

So whether a pattern matches, and what every match looks like, is read off the relation; the order of the choices only
matters for which of several matches is found.
-/
import CodeSurvey.Pattern
import Mathlib.Data.List.Infix

namespace CodeSurvey

/-- The place behind the characters `w` that follow, with `r` after it. -/
def Cursor.past (c : Cursor) (w r : List Char) : Cursor := ⟨w.reverse ++ c.before, r, c.index + w.length, c.groups⟩

@[simp] theorem Cursor.past_nil (c : Cursor) : c.past [] c.after = c := rfl

@[simp] theorem Cursor.past_past (c : Cursor) (u v r r' : List Char) : (c.past u r).past v r' = c.past (u ++ v) r' := by
  simp [Cursor.past, Nat.add_assoc]

@[simp] theorem Cursor.after_past (c : Cursor) (w r : List Char) : (c.past w r).after = r := rfl

@[simp] theorem Cursor.groups_past (c : Cursor) (w r : List Char) : (c.past w r).groups = c.groups := rfl

/-- In front of a word character, the border of a word is where no other one stands before. -/
theorem Cursor.atWordEdge_iff {c : Cursor} {a : Char} {r : List Char} (h : c.after = a :: r)
    (ha : Text.isWord a = true) :
    c.atWordEdge = true ↔ ∀ b ∈ c.before.head?, Text.isWord b = false := by
  unfold Cursor.atWordEdge
  cases c.before <;> simp [h, ha]

/-- Behind a word character, the border of a word is where no other one follows. -/
theorem Cursor.atWordEdge_past_iff {c : Cursor} {w r : List Char} {a : Char} (ha : Text.isWord a = true) :
    (c.past (w ++ [a]) r).atWordEdge = true ↔ ∀ b ∈ r.head?, Text.isWord b = false := by
  unfold Cursor.atWordEdge
  cases r <;> simp [Cursor.past, ha]

/-- Can the one place be left for the other by passing characters that satisfy `p`? -/
def Cursor.Runs (p : Char → Bool) (c d : Cursor) : Prop :=
  ∃ w r, c.after = w ++ r ∧ (∀ a ∈ w, p a = true) ∧ d = c.past w r

namespace Pattern

/-- Can a match of the pattern lead from the one place to the other? -/
def Reaches : Pattern → Cursor → Cursor → Prop
  | nothing, c, d => d = c
  | one p, c, d => ∃ a r, c.after = a :: r ∧ p a = true ∧ d = c.past [a] r
  | star p, c, d => c.Runs p d
  | lazyStar p, c, d => c.Runs p d
  | seq a b, c, d => ∃ e, a.Reaches c e ∧ b.Reaches e d
  | alt a b, c, d => a.Reaches c d ∨ b.Reaches c d
  | group i a, c, d => ∃ e, a.Reaches c e ∧ d = { e with groups := (i, c.after.take (e.index - c.index)) :: e.groups }
  | place p, c, d => p c = true ∧ d = c
  | notAhead a, c, d => (∀ e, ¬ a.Reaches c e) ∧ d = c

end Pattern

/-! ## The search follows the relation -/

namespace Cursor

variable {p : Char → Bool} {groups : List (Nat × List Char)} {k : Cursor → Option Cursor} {d e : Cursor}

theorem runs_nil_iff {before : List Char} {index : Nat} :
    Runs p ⟨before, [], index, groups⟩ d ↔ d = ⟨before, [], index, groups⟩ := by
  constructor
  · rintro ⟨w, r, hw, -, rfl⟩
    obtain ⟨rfl, rfl⟩ := List.append_eq_nil_iff.1 hw.symm
    rfl
  · rintro rfl
    exact ⟨[], [], rfl, by simp, rfl⟩

theorem runs_cons_iff {a : Char} {after before : List Char} {index : Nat} :
    Runs p ⟨before, a :: after, index, groups⟩ d ↔
      d = ⟨before, a :: after, index, groups⟩ ∨ p a = true ∧ Runs p ⟨a :: before, after, index + 1, groups⟩ d := by
  constructor
  · rintro ⟨w, r, hw, hp, rfl⟩
    cases w with
    | nil =>
      obtain rfl : a :: after = r := hw
      exact .inl rfl
    | cons b w =>
      obtain ⟨rfl, rfl⟩ := List.cons.inj hw
      refine .inr ⟨hp a List.mem_cons_self, w, r, rfl, fun b hb => hp b (List.mem_cons_of_mem a hb), ?_⟩
      simp [past, Nat.add_assoc, Nat.add_comm 1]
  · rintro (rfl | ⟨ha, w, r, hw, hp, rfl⟩)
    · exact ⟨[], a :: after, rfl, by simp, rfl⟩
    · obtain rfl : after = w ++ r := hw
      refine ⟨a :: w, r, rfl, List.forall_mem_cons.2 ⟨ha, hp⟩, ?_⟩
      simp [past, Nat.add_assoc, Nat.add_comm 1]

theorem mem_stops_iff {after before : List Char} {index : Nat} {acc : List Cursor} :
    d ∈ stops p groups after before index acc ↔ d ∈ acc ∨ Runs p ⟨before, after, index, groups⟩ d := by
  induction after generalizing before index acc with
  | nil => rw [stops, List.mem_cons, runs_nil_iff, or_comm]
  | cons a after ih =>
    rw [stops, runs_cons_iff]
    by_cases ha : p a = true
    · rw [if_pos ha, ih, List.mem_cons, or_comm (a := d = _), or_assoc]
      simp [ha]
    · rw [if_neg ha, List.mem_cons, or_comm]
      simp [ha]

theorem runs_of_firstStop {after before : List Char} {index : Nat}
    (h : firstStop p groups k after before index = some e) :
    ∃ d, Runs p ⟨before, after, index, groups⟩ d ∧ k d = some e := by
  induction after generalizing before index with
  | nil => exact ⟨_, runs_nil_iff.2 rfl, h⟩
  | cons a after ih =>
    rw [firstStop] at h
    cases hk : k ⟨before, a :: after, index, groups⟩ with
    | some d =>
      simp only [hk] at h
      exact ⟨_, runs_cons_iff.2 (.inl rfl), hk.trans h⟩
    | none =>
      simp only [hk] at h
      split at h
      · rename_i ha
        obtain ⟨d, hd, hkd⟩ := ih h
        exact ⟨d, runs_cons_iff.2 (.inr ⟨ha, hd⟩), hkd⟩
      · cases h

theorem isSome_firstStop {after before : List Char} {index : Nat} (hd : Runs p ⟨before, after, index, groups⟩ d)
    (hk : (k d).isSome = true) : (firstStop p groups k after before index).isSome = true := by
  induction after generalizing before index with
  | nil =>
    obtain rfl := runs_nil_iff.1 hd
    exact hk
  | cons a after ih =>
    rw [firstStop]
    cases hhere : k ⟨before, a :: after, index, groups⟩ with
    | some d => rfl
    | none =>
      rcases runs_cons_iff.1 hd with rfl | ⟨ha, hd⟩
      · simp [hhere] at hk
      · simpa [ha] using ih hd

end Cursor

namespace Pattern

/-- The search goes to a place that the pattern reaches, and a place that it reaches and where the rest succeeds is not
missed. The two are proved together, since a pattern that must not match ahead swaps them. -/
theorem run_spec (p : Pattern) :
    (∀ k c e, p.run k c = some e → ∃ d, p.Reaches c d ∧ k d = some e) ∧
      ∀ k c d, p.Reaches c d → (k d).isSome = true → (p.run k c).isSome = true := by
  induction p with
  | nothing =>
    refine ⟨fun k c e h => ⟨c, rfl, h⟩, fun k c d hd hk => ?_⟩
    obtain rfl : d = c := hd
    exact hk
  | one p =>
    constructor
    · intro k c e h
      rw [run] at h
      cases hc : c.after with
      | nil => simp [hc] at h
      | cons a r =>
        simp only [hc] at h
        split at h
        · rename_i ha
          exact ⟨_, ⟨a, r, hc, ha, rfl⟩, h⟩
        · cases h
    · rintro k c d ⟨a, r, hc, ha, rfl⟩ hk
      simp only [run, hc, ha, if_true]
      exact hk
  | star p =>
    constructor
    · intro k c e h
      obtain ⟨d, hd, hk⟩ := List.exists_of_findSome?_eq_some h
      exact ⟨d, (Cursor.mem_stops_iff.1 hd).resolve_left List.not_mem_nil, hk⟩
    · intro k c d hd hk
      rw [run, List.findSome?_isSome_iff]
      exact ⟨d, Cursor.mem_stops_iff.2 (.inr hd), hk⟩
  | lazyStar p => exact ⟨fun k c e h => Cursor.runs_of_firstStop h, fun k c d hd hk => Cursor.isSome_firstStop hd hk⟩
  | seq a b iha ihb =>
    constructor
    · intro k c e h
      obtain ⟨d, hd, h⟩ := iha.1 _ _ _ h
      obtain ⟨d', hd', hk⟩ := ihb.1 _ _ _ h
      exact ⟨d', ⟨d, hd, hd'⟩, hk⟩
    · rintro k c d ⟨d', hd', hd⟩ hk
      exact iha.2 _ _ _ hd' (ihb.2 _ _ _ hd hk)
  | alt a b iha ihb =>
    constructor
    · intro k c e h
      rw [run] at h
      cases ha : a.run k c with
      | some d =>
        simp only [ha] at h
        obtain ⟨d', hd', hk⟩ := iha.1 _ _ _ (ha.trans h)
        exact ⟨d', .inl hd', hk⟩
      | none =>
        simp only [ha] at h
        obtain ⟨d', hd', hk⟩ := ihb.1 _ _ _ h
        exact ⟨d', .inr hd', hk⟩
    · rintro k c d hd hk
      rw [run]
      cases ha : a.run k c with
      | some d => rfl
      | none =>
        rcases hd with hd | hd
        · simpa [ha] using iha.2 _ _ _ hd hk
        · exact ihb.2 _ _ _ hd hk
  | group i a iha =>
    constructor
    · intro k c e h
      obtain ⟨d, hd, hk⟩ := iha.1 _ _ _ h
      exact ⟨_, ⟨d, hd, rfl⟩, hk⟩
    · rintro k c d ⟨d', hd', rfl⟩ hk
      exact iha.2 _ _ _ hd' hk
  | place p =>
    constructor
    · intro k c e h
      rw [run] at h
      split at h
      · rename_i hp
        exact ⟨c, ⟨hp, rfl⟩, h⟩
      · cases h
    · rintro k c d ⟨hp, rfl⟩ hk
      rwa [run, if_pos hp]
  | notAhead a iha =>
    constructor
    · intro k c e h
      rw [run] at h
      cases ha : a.run some c with
      | some d => simp [ha] at h
      | none =>
        simp only [ha] at h
        refine ⟨c, ⟨fun d hd => ?_, rfl⟩, h⟩
        simpa [ha] using iha.2 some c d hd rfl
    · rintro k c d ⟨hnot, rfl⟩ hk
      rw [run]
      cases ha : a.run some d with
      | none => exact hk
      | some d' =>
        obtain ⟨d'', hd, -⟩ := iha.1 _ _ _ ha
        exact absurd hd (hnot d'')

theorem reaches_of_matchAt? {p : Pattern} {c d : Cursor} (h : p.matchAt? c = some d) : p.Reaches c d := by
  obtain ⟨d', hd, hk⟩ := p.run_spec.1 some c d h
  obtain rfl : d' = d := Option.some.inj hk
  exact hd

theorem isSome_matchAt?_iff {p : Pattern} {c : Cursor} : (p.matchAt? c).isSome = true ↔ ∃ d, p.Reaches c d := by
  constructor
  · intro h
    obtain ⟨d, hd⟩ := Option.isSome_iff_exists.1 h
    exact ⟨d, reaches_of_matchAt? hd⟩
  · rintro ⟨d, hd⟩
    exact p.run_spec.2 some c d hd rfl

theorem matchAt?_eq_none_iff {p : Pattern} {c : Cursor} : p.matchAt? c = none ↔ ∀ d, ¬ p.Reaches c d := by
  rw [← Option.not_isSome_iff_eq_none, isSome_matchAt?_iff, not_exists]

theorem matchAt?_orElse (p q : Pattern) (c : Cursor) : (p <|> q).matchAt? c = (p.matchAt? c).or (q.matchAt? c) := by
  show (p.alt q).run some c = (p.run some c).or (q.run some c)
  rw [run]
  cases p.run some c <;> rfl

theorem exists_stops (p : Char → Bool) (c : Cursor) :
    ∃ more, Cursor.stops p c.groups c.after c.before c.index [] = c.past (c.after.takeWhile p)
    (c.after.dropWhile p) :: more := by
  obtain ⟨before, after, index, groups⟩ := c
  have hstops : ∀ acc, ∃ more, Cursor.stops p groups after before index acc =
      Cursor.past ⟨before, after, index, groups⟩ (after.takeWhile p) (after.dropWhile p) :: more := by
    induction after generalizing before index with
    | nil => exact fun acc => ⟨acc, rfl⟩
    | cons a r ih =>
      intro acc
      rw [Cursor.stops]
      by_cases ha : p a = true
      · rw [if_pos ha, List.takeWhile_cons_of_pos ha, List.dropWhile_cons_of_pos ha]
        obtain ⟨more, hmore⟩ := ih (a :: before) (index + 1) (⟨before, a :: r, index, groups⟩ :: acc)
        exact ⟨more, by rw [hmore]; simp [Cursor.past, Nat.add_assoc, Nat.add_comm 1]⟩
      · rw [if_neg ha, List.takeWhile_cons_of_neg ha, List.dropWhile_cons_of_neg ha]
        exact ⟨acc, rfl⟩
  exact hstops []

/-- A run takes all it can if what follows succeeds there. -/
theorem run_star_of_some {p : Char → Bool} {k : Cursor → Option Cursor} {c d : Cursor}
    (h : k (c.past (c.after.takeWhile p) (c.after.dropWhile p)) = some d) : (star p).run k c = some d := by
  obtain ⟨more, hmore⟩ := exists_stops p c
  rw [run, hmore, List.findSome?_cons_of_isSome (by rw [h]; rfl), h]

theorem run_star_some (p : Char → Bool) (c : Cursor) :
    (star p).run some c = some (c.past (c.after.takeWhile p) (c.after.dropWhile p)) := run_star_of_some rfl

theorem run_plus_of_some {p : Char → Bool} {k : Cursor → Option Cursor} {c d : Cursor} {a : Char} {r : List Char}
    (hc : c.after = a :: r) (ha : p a = true) (h : k (c.past (c.after.takeWhile p) (c.after.dropWhile p)) = some d) :
    (plus p).run k c = some d := by
  obtain ⟨before, after, index, groups⟩ := c
  obtain rfl : after = a :: r := hc
  rw [List.takeWhile_cons_of_pos ha, List.dropWhile_cons_of_pos ha] at h
  show (one p).run (fun e => (star p).run k e) ⟨before, a :: r, index, groups⟩ = some d
  simp only [run, ha, if_true]
  refine run_star_of_some (c := ⟨a :: before, r, index + 1, groups⟩) ?_
  rw [← h]
  simp [Cursor.past, Nat.add_assoc, Nat.add_comm 1]

/-- A match takes the characters between the places before and behind it. -/
theorem Reaches.exists_past {p : Pattern} {c d : Cursor} (h : p.Reaches c d) :
    ∃ w, c.after = w ++ d.after ∧ d.index = c.index + w.length := by
  induction p generalizing c d with
  | nothing => exact h ▸ ⟨[], rfl, rfl⟩
  | one p =>
    obtain ⟨a, r, hc, -, rfl⟩ := h
    exact ⟨[a], hc, rfl⟩
  | star p =>
    obtain ⟨w, r, hc, -, rfl⟩ := h
    exact ⟨w, hc, rfl⟩
  | lazyStar p =>
    obtain ⟨w, r, hc, -, rfl⟩ := h
    exact ⟨w, hc, rfl⟩
  | seq a b iha ihb =>
    obtain ⟨e, ha, hb⟩ := h
    obtain ⟨w, hw, hindex⟩ := iha ha
    obtain ⟨x, hx, hindex'⟩ := ihb hb
    exact ⟨w ++ x, by rw [hw, hx, List.append_assoc], by rw [hindex', hindex, List.length_append, Nat.add_assoc]⟩
  | alt a b iha ihb => exact h.elim iha ihb
  | group i a iha =>
    obtain ⟨e, ha, rfl⟩ := h
    obtain ⟨w, hw, hindex⟩ := iha ha
    exact ⟨w, hw, hindex⟩
  | place p => exact h.2 ▸ ⟨[], rfl, rfl⟩
  | notAhead a => exact h.2 ▸ ⟨[], rfl, rfl⟩

theorem Reaches.isSuffix {p : Pattern} {c d : Cursor} (h : p.Reaches c d) : d.after <:+ c.after := by
  obtain ⟨w, hw, -⟩ := h.exists_past
  exact ⟨w, hw.symm⟩

/-! ## Looking for a match -/

theorem matchAt?_of_searchFrom {p : Pattern} {t before : List Char} {index : Nat} {d : Cursor}
    (h : p.searchFrom before index t = some d) :
    ∃ u v, t = u ++ v ∧ p.matchAt? ⟨u.reverse ++ before, v, index + u.length, []⟩ = some d := by
  induction t generalizing before index with
  | nil => exact ⟨[], [], rfl, h⟩
  | cons a t ih =>
    rw [searchFrom] at h
    cases hhere : p.matchAt? ⟨before, a :: t, index, []⟩ with
    | some e =>
      simp only [hhere] at h
      exact ⟨[], a :: t, rfl, hhere.trans h⟩
    | none =>
      simp only [hhere] at h
      obtain ⟨u, v, rfl, hd⟩ := ih h
      exact ⟨a :: u, v, rfl, by simpa [Nat.add_assoc, Nat.add_comm 1] using hd⟩

theorem reaches_of_searchFrom {p : Pattern} {t before : List Char} {index : Nat} {d : Cursor}
    (h : p.searchFrom before index t = some d) :
    ∃ u v, t = u ++ v ∧ p.Reaches ⟨u.reverse ++ before, v, index + u.length, []⟩ d := by
  obtain ⟨u, v, ht, hd⟩ := matchAt?_of_searchFrom h
  exact ⟨u, v, ht, reaches_of_matchAt? hd⟩

theorem isSome_searchFrom {p : Pattern} {u v before : List Char} {index : Nat} {d : Cursor}
    (h : p.Reaches ⟨u.reverse ++ before, v, index + u.length, []⟩ d) :
    (p.searchFrom before index (u ++ v)).isSome = true := by
  induction u generalizing before index with
  | nil =>
    have hhere : (p.matchAt? ⟨before, v, index, []⟩).isSome = true := isSome_matchAt?_iff.2 ⟨d, h⟩
    obtain ⟨e, he⟩ := Option.isSome_iff_exists.1 hhere
    cases v with
    | nil => exact hhere
    | cons a v => rw [List.nil_append, searchFrom, he]; rfl
  | cons a u ih =>
    rw [List.cons_append, searchFrom]
    cases hhere : p.matchAt? ⟨before, a :: (u ++ v), index, []⟩ with
    | some e => rfl
    | none => exact ih (by simpa [Nat.add_assoc, Nat.add_comm 1] using h)

/-- Where there are no matches, the search goes on. -/
theorem searchFrom_append {p : Pattern} {u v before : List Char} {index : Nat}
    (h : ∀ u₁ u₂ d, u = u₁ ++ u₂ → u₂ ≠ [] → ¬ p.Reaches ⟨u₁.reverse ++ before, u₂ ++ v, index + u₁.length, []⟩ d) :
    p.searchFrom before index (u ++ v) = p.searchFrom (u.reverse ++ before) (index + u.length) v := by
  induction u generalizing before index with
  | nil => rfl
  | cons a u ih =>
    have hhere : p.matchAt? ⟨before, a :: (u ++ v), index, []⟩ = none :=
      matchAt?_eq_none_iff.2 fun d hd => h [] (a :: u) d rfl (by simp) hd
    rw [List.cons_append, searchFrom]
    simp only [hhere]
    rw [ih fun u₁ u₂ d hu hne hd => h (a :: u₁) u₂ d (by rw [hu]; rfl) hne
      (by simpa [Nat.add_assoc, Nat.add_comm 1] using hd)]
    simp [Nat.add_assoc, Nat.add_comm 1]

theorem searchFrom_eq_matchAt? {p : Pattern} {t before : List Char} {index : Nat} {d : Cursor}
    (h : p.Reaches ⟨before, t, index, []⟩ d) : p.searchFrom before index t = p.matchAt? ⟨before, t, index, []⟩ := by
  obtain ⟨e, he⟩ := Option.isSome_iff_exists.1 (isSome_matchAt?_iff.2 ⟨d, h⟩)
  cases t with
  | nil => rfl
  | cons a t =>
    rw [searchFrom, he]

/-! ## Patterns of plain texts -/

/-- Does the pattern, wherever it stands, match the texts of `L` and no others, and capture nothing? -/
def Spells (a : Pattern) (L : List Char → Prop) : Prop :=
  ∀ c d, a.Reaches c d ↔ ∃ w r, c.after = w ++ r ∧ L w ∧ d = c.past w r

theorem spells_nothing : nothing.Spells fun w => w = [] := by
  intro c d
  constructor
  · rintro rfl
    exact ⟨[], _, rfl, rfl, rfl⟩
  · rintro ⟨w, r, hw, rfl, rfl⟩
    obtain rfl : c.after = r := hw
    rfl

theorem spells_one (p : Char → Bool) : (one p).Spells fun w => ∃ a, p a = true ∧ w = [a] := by
  intro c d
  constructor
  · rintro ⟨a, r, hc, ha, rfl⟩
    exact ⟨[a], r, hc, ⟨a, ha, rfl⟩, rfl⟩
  · rintro ⟨w, r, hc, ⟨a, ha, rfl⟩, rfl⟩
    exact ⟨a, r, hc, ha, rfl⟩

theorem spells_star (p : Char → Bool) : (star p).Spells fun w => ∀ a ∈ w, p a = true := fun _ _ => Iff.rfl

theorem spells_lazyStar (p : Char → Bool) : (lazyStar p).Spells fun w => ∀ a ∈ w, p a = true := fun _ _ => Iff.rfl

section
variable {a b : Pattern} {L M : List Char → Prop}

theorem Spells.seq (ha : a.Spells L) (hb : b.Spells M) : (a.seq b).Spells fun w => ∃ u v, w = u ++ v ∧ L u ∧ M v := by
  intro c d
  constructor
  · rintro ⟨e, he, hd⟩
    obtain ⟨u, r, hu, hL, rfl⟩ := (ha c e).1 he
    obtain ⟨v, r', hv, hM, rfl⟩ := (hb _ d).1 hd
    obtain rfl : r = v ++ r' := hv
    exact ⟨u ++ v, r', by rw [hu, List.append_assoc], ⟨u, v, rfl, hL, hM⟩, c.past_past ..⟩
  · rintro ⟨w, r, hw, ⟨u, v, rfl, hL, hM⟩, rfl⟩
    refine ⟨c.past u (v ++ r), (ha _ _).2 ⟨u, v ++ r, by rw [hw, List.append_assoc], hL, rfl⟩, ?_⟩
    exact (hb _ _).2 ⟨v, r, rfl, hM, (c.past_past ..).symm⟩

theorem Spells.append (ha : a.Spells L) (hb : b.Spells M) : (a ++ b).Spells fun w => ∃ u v, w = u ++ v ∧ L u ∧ M v :=
  ha.seq hb

theorem Spells.alt (ha : a.Spells L) (hb : b.Spells M) : (a.alt b).Spells fun w => L w ∨ M w := by
  intro c d
  refine (or_congr (ha c d) (hb c d)).trans ⟨?_, ?_⟩
  · rintro (⟨w, r, hw, hL, rfl⟩ | ⟨w, r, hw, hM, rfl⟩)
    · exact ⟨w, r, hw, .inl hL, rfl⟩
    · exact ⟨w, r, hw, .inr hM, rfl⟩
  · rintro ⟨w, r, hw, hL | hM, rfl⟩
    · exact .inl ⟨w, r, hw, hL, rfl⟩
    · exact .inr ⟨w, r, hw, hM, rfl⟩

theorem Spells.optional (ha : a.Spells L) : a.optional.Spells fun w => L w ∨ w = [] := ha.alt spells_nothing

theorem Spells.congr (ha : a.Spells L) (h : ∀ w, L w ↔ M w) : a.Spells M := by
  intro c d
  simp only [ha c d, h]

/-- A group captures the text that its pattern matches. -/
theorem Spells.reaches_group_iff (ha : a.Spells L) {i : Nat} {c d : Cursor} :
    (group i a).Reaches c d ↔
      ∃ w r, c.after = w ++ r ∧ L w ∧ d = { c.past w r with groups := (i, w) :: c.groups } := by
  constructor
  · rintro ⟨e, he, rfl⟩
    obtain ⟨w, r, hw, hL, rfl⟩ := (ha c e).1 he
    exact ⟨w, r, hw, hL, by simp [Cursor.past, hw]⟩
  · rintro ⟨w, r, hw, hL, rfl⟩
    exact ⟨c.past w r, (ha _ _).2 ⟨w, r, hw, hL, rfl⟩, by simp [Cursor.past, hw]⟩

end

/-- Does the pattern, wherever `w` is followed by `r`, have a match that is `w`, whatever it captures? -/
def Accepts (a : Pattern) (w r : List Char) : Prop := ∀ c, c.after = w ++ r → ∃ d, a.Reaches c d ∧ d.after = r

section
variable {a b : Pattern} {L : List Char → Prop} {u v w r : List Char}

theorem Spells.accepts (ha : a.Spells L) (hw : L w) : a.Accepts w r :=
  fun c hc => ⟨c.past w r, (ha _ _).2 ⟨w, r, hc, hw, rfl⟩, rfl⟩

theorem Accepts.append (ha : a.Accepts u (v ++ r)) (hb : b.Accepts v r) : (a ++ b).Accepts (u ++ v) r := by
  intro c hc
  obtain ⟨e, he, hv⟩ := ha c (by rw [hc, List.append_assoc])
  obtain ⟨d, hd, hr⟩ := hb e hv
  exact ⟨d, ⟨e, he, hd⟩, hr⟩

theorem Accepts.group (ha : a.Accepts w r) (i : Nat) : (group i a).Accepts w r := by
  intro c hc
  obtain ⟨d, hd, hr⟩ := ha c hc
  exact ⟨_, ⟨d, hd, rfl⟩, hr⟩

theorem Accepts.optional (ha : a.Accepts w r) : a.optional.Accepts w r := by
  intro c hc
  obtain ⟨d, hd, hr⟩ := ha c hc
  exact ⟨d, .inl hd, hr⟩

theorem accepts_optional_nil : a.optional.Accepts [] r := fun c hc => ⟨c, .inr rfl, hc⟩

end

theorem run_ofChars (l : List Char) (k : Cursor → Option Cursor) (c : Cursor) :
    (ofChars l).run k c = if l.isPrefixOf c.after then k (c.past l (c.after.drop l.length)) else none := by
  induction l generalizing c with
  | nil => rfl
  | cons a l ih =>
    have hrun : (ofChars (a :: l)).run k c = (one (· == a)).run (fun d => (ofChars l).run k d) c := by cases l <;> rfl
    obtain ⟨before, after, index, groups⟩ := c
    rw [hrun]
    cases after with
    | nil => rfl
    | cons b r =>
      by_cases hb : b = a
      · subst hb
        simp [run, ih, Cursor.past, Nat.add_assoc, Nat.add_comm 1]
      · simp [run, hb, Ne.symm hb]

theorem spells_ofChars (l : List Char) : (ofChars l).Spells fun w => w = l := by
  fun_induction ofChars l with
  | case1 => exact spells_nothing
  | case2 c => exact (spells_one _).congr fun w => by simp
  | case3 c l _ ih =>
    refine ((spells_one _).seq ih).congr fun w => ?_
    simp

theorem spells_lit (s : String) : (lit s).Spells fun w => w = s.toList := spells_ofChars s.toList

theorem spells_one_star (p q : Char → Bool) :
    (one p ++ star q).Spells fun w => ∃ c cs, w = c :: cs ∧ p c = true ∧ ∀ d ∈ cs, q d = true := by
  refine ((spells_one p).append (spells_star q)).congr fun w => ⟨?_, ?_⟩
  · rintro ⟨_, cs, rfl, ⟨c, hc, rfl⟩, hcs⟩
    exact ⟨c, cs, rfl, hc, hcs⟩
  · rintro ⟨c, cs, rfl, hc, hcs⟩
    exact ⟨[c], cs, rfl, ⟨c, hc, rfl⟩, hcs⟩

theorem spells_plus (p : Char → Bool) : (plus p).Spells fun w => w ≠ [] ∧ ∀ a ∈ w, p a = true := by
  refine ((spells_one p).seq (spells_star p)).congr fun w => ?_
  cases w <;> simp

theorem spells_lazyPlus (p : Char → Bool) : (lazyPlus p).Spells fun w => w ≠ [] ∧ ∀ a ∈ w, p a = true := by
  refine ((spells_one p).seq (spells_lazyStar p)).congr fun w => ?_
  cases w <;> simp

theorem spells_times_one (n : Nat) (p : Char → Bool) :
    (times n (one p)).Spells fun w => w.length = n ∧ ∀ a ∈ w, p a = true := by
  induction n with
  | zero => exact spells_nothing.congr fun w => by simp +contextual [List.length_eq_zero_iff]
  | succ n ih =>
    refine ((spells_one p).seq ih).congr fun w => ?_
    cases w <;> simp [and_left_comm]

theorem spells_atLeast (n : Nat) (p : Char → Bool) :
    (atLeast n p).Spells fun w => n ≤ w.length ∧ ∀ a ∈ w, p a = true := by
  refine ((spells_times_one n p).seq (spells_star p)).congr fun w => ?_
  constructor
  · rintro ⟨u, v, rfl, ⟨rfl, hu⟩, hv⟩
    exact ⟨by simp, fun a ha => (List.mem_append.1 ha).elim (hu a) (hv a)⟩
  · rintro ⟨hn, hw⟩
    exact ⟨w.take n, w.drop n, (List.take_append_drop n w).symm,
      ⟨List.length_take_of_le hn, fun a ha => hw a (List.mem_of_mem_take ha)⟩,
      fun a ha => hw a (List.mem_of_mem_drop ha)⟩

theorem spells_ofCharsAnyCase (l : List Char) :
    (ofCharsAnyCase l).Spells fun w => w.map Text.foldChar = l.map Text.foldChar := by
  fun_induction ofCharsAnyCase l with
  | case1 => exact spells_nothing.congr fun w => by simp
  | case2 c => exact (spells_one _).congr fun w => by simp [List.map_eq_singleton_iff, and_comm]
  | case3 c l _ ih =>
    refine ((spells_one _).seq ih).congr fun w => ?_
    cases w <;> simp

theorem spells_litAnyCase (s : String) :
    (litAnyCase s).Spells fun w => w.map Text.foldChar = s.toList.map Text.foldChar := spells_ofCharsAnyCase s.toList

theorem spells_anyLitAnyCase (l : List String) :
    (anyLitAnyCase l).Spells fun w => ∃ s ∈ l, w.map Text.foldChar = s.toList.map Text.foldChar := by
  unfold anyLitAnyCase
  induction l with
  | nil => exact fun c d => ⟨fun h => absurd h.1 (by simp), by simp⟩
  | cons s l ih =>
    cases l with
    | nil => exact (spells_litAnyCase s).congr fun w => by simp
    | cons s' l => exact ((spells_litAnyCase s).alt ih).congr fun w => by simp

theorem Spells.occursIn_iff {p : Pattern} {L : List Char → Prop} (hp : p.Spells L) {t : List Char} :
    p.occursIn t = true ↔ ∃ w, L w ∧ w <:+: t := by
  constructor
  · intro h
    obtain ⟨d, hd⟩ := Option.isSome_iff_exists.1 h
    obtain ⟨u, v, rfl, hreach⟩ := reaches_of_searchFrom hd
    obtain ⟨w, r, hw, hL, -⟩ := (hp _ _).1 hreach
    obtain rfl : v = w ++ r := hw
    exact ⟨w, hL, u, r, List.append_assoc ..⟩
  · rintro ⟨w, hL, u, r, rfl⟩
    rw [List.append_assoc]
    exact isSome_searchFrom ((hp _ _).2 ⟨w, r, rfl, hL, rfl⟩)

end Pattern

/-! ## All matches -/

/-- The place in front of the character with the number `i`. -/
def Cursor.inText (t : List Char) (i : Nat) : Cursor := ⟨(t.take i).reverse, t.drop i, i, []⟩

namespace Pattern

variable {p : Pattern} {t : List Char}

/-- The match that begins at a place, unless it is empty. -/
def foundAt? (p : Pattern) (t : List Char) (i : Nat) : Option Found :=
  (p.matchAt? (.inText t i)).bind fun d => if i < d.index then
    some ⟨i, (t.drop i).take (d.index - i), d.groups⟩ else none

theorem foundAt?_eq_some_iff {i : Nat} {m : Found} : p.foundAt? t i = some m ↔
    ∃ d, p.matchAt? (.inText t i) = some d ∧ i < d.index ∧ m = ⟨i, (t.drop i).take (d.index - i), d.groups⟩ := by
  simp only [foundAt?, Option.bind_eq_some_iff, Option.ite_none_right_eq_some, Option.some.injEq, eq_comm (a := m)]

/-- No match begins within another one. -/
def NoOverlap (p : Pattern) (t : List Char) : Prop :=
  ∀ i d, p.matchAt? (.inText t i) = some d → ∀ j, i < j → j < d.index → p.matchAt? (.inText t j) = none

/-- The walk from the place `i` on collects the match at each place. The characters that are passed over belong to the
match before, so that none begins there. -/
theorem collect_eq (hapart : p.NoOverlap t) (k : Nat) : ∀ i skip acc, i + k = t.length →
    (∀ j, i ≤ j → j < i + skip → p.matchAt? (.inText t j) = none) →
    p.collect (t.take i).reverse i skip acc (t.drop i) =
      ((List.range' i k).filterMap (p.foundAt? t)).reverse ++ acc := by
  induction k with
  | zero =>
    intro i skip acc hi _
    rw [List.drop_eq_nil_of_le (by omega)]
    rfl
  | succ k ih =>
    intro i skip acc hi hskip
    have hlt : i < t.length := by omega
    have hdrop : t.drop i = t[i] :: t.drop (i + 1) := List.drop_eq_getElem_cons hlt
    have htake : t[i] :: (t.take i).reverse = (t.take (i + 1)).reverse := by
      rw [List.take_succ_eq_append_getElem hlt, List.reverse_append]
      rfl
    have hnone : p.foundAt? t i = none → ∀ n, (∀ j, i + 1 ≤ j → j < i + 1 + n → p.matchAt? (.inText t j) = none) →
        p.collect (t.take (i + 1)).reverse (i + 1) n acc (t.drop (i + 1)) =
          ((List.range' i (k + 1)).filterMap (p.foundAt? t)).reverse ++ acc := by
      intro hfound n hn
      rw [ih (i + 1) n acc (by omega) hn, List.range'_succ, List.filterMap_cons_none hfound]
    cases skip with
    | succ n =>
      have hmatch := hskip i (Nat.le_refl i) (by omega)
      rw [hdrop, collect, htake]
      exact hnone (by rw [foundAt?, hmatch]; rfl) n fun j hj hjn => hskip j (by omega) (by omega)
    | zero =>
      have hplace : (⟨(t.take i).reverse, t[i] :: t.drop (i + 1), i, []⟩ : Cursor) = .inText t i := by
        rw [Cursor.inText, hdrop]
      rw [hdrop, collect, hplace, htake]
      cases hmatch : p.matchAt? (.inText t i) with
      | none => exact hnone (by rw [foundAt?, hmatch]; rfl) 0 fun j hj hjn => by omega
      | some d =>
        cases hlength : d.index - i with
        | zero =>
          have hfound : p.foundAt? t i = none := by
            rw [foundAt?, hmatch]
            exact if_neg (by omega)
          simp only [hlength]
          exact hnone hfound 0 fun j hj hjn => by omega
        | succ n =>
          have hfound := foundAt?_eq_some_iff.2 ⟨d, hmatch, by omega, rfl⟩
          simp only [hlength]
          rw [ih (i + 1) n _ (by omega) fun j hj hjn => hapart i d hmatch j (by omega) (by omega), List.range'_succ,
            List.filterMap_cons_some hfound, List.reverse_cons, List.append_assoc, hlength, hdrop]
          rfl

/-- If no match begins within another one, there is a match found for each place at which one begins. -/
theorem findAll_eq_filterMap (hapart : p.NoOverlap t) :
    p.findAll t = (List.range t.length).filterMap (p.foundAt? t) := by
  have h := collect_eq hapart t.length 0 0 [] (Nat.zero_add _) fun j _ hj => by omega
  simpa [findAll, List.range_eq_range'] using congrArg List.reverse h

theorem findAll_eq_nil (h : ∀ i d, ¬ p.Reaches (.inText t i) d) : p.findAll t = [] := by
  have hnone : ∀ i, p.matchAt? (.inText t i) = none := fun i => matchAt?_eq_none_iff.2 (h i)
  rw [findAll_eq_filterMap fun i d hd => by simp [hnone] at hd, List.filterMap_eq_nil_iff]
  intro i _
  rw [foundAt?, hnone]
  rfl

theorem mem_findAll_iff (hapart : p.NoOverlap t) {m : Found} :
    m ∈ p.findAll t ↔ ∃ i < t.length, p.foundAt? t i = some m := by
  simp [findAll_eq_filterMap hapart]

theorem nodup_index_findAll (hapart : p.NoOverlap t) : ((p.findAll t).map (·.index)).Nodup := by
  rw [List.Nodup, List.pairwise_map, findAll_eq_filterMap hapart, List.pairwise_filterMap]
  refine List.nodup_range.imp fun {i j} hne m hm m' hm' => ?_
  obtain ⟨_, -, -, rfl⟩ := foundAt?_eq_some_iff.1 hm
  obtain ⟨_, -, -, rfl⟩ := foundAt?_eq_some_iff.1 hm'
  exact hne

/-- If every match begins with a character that is nowhere else in it, no match begins within another one. -/
theorem noOverlap_of_head {a : Char}
    (h : ∀ c d, p.Reaches c d → ∃ w r, c.after = a :: (w ++ r) ∧ a ∉ w ∧ d.index = c.index + 1 + w.length)
    (t : List Char) : p.NoOverlap t := by
  intro i d hd j hij hjd
  refine matchAt?_eq_none_iff.2 fun e he => ?_
  obtain ⟨w, r, hw, hnot, hindex⟩ := h _ _ (reaches_of_matchAt? hd)
  obtain ⟨w', r', hw', -⟩ := h _ _ he
  obtain ⟨k, rfl⟩ := Nat.exists_eq_add_of_lt hij
  have hend : d.index = i + 1 + w.length := hindex
  have hk : k < w.length := by omega
  have hdrop : t.drop (i + k + 1) = (w ++ r).drop k := by
    rw [show i + k + 1 = i + (1 + k) by omega, ← List.drop_drop, show t.drop i = a :: (w ++ r) from hw, Nat.add_comm,
      List.drop_succ_cons]
  have hfirst := hdrop.symm.trans hw'
  rw [List.drop_append_of_le_length hk.le, List.drop_eq_getElem_cons hk, List.cons_append] at hfirst
  exact hnot ((List.cons.inj hfirst).1 ▸ List.getElem_mem hk)

/-- If no match begins within another one and none is empty, as many are counted as there are places at which one
begins. -/
theorem count_eq_countP (hapart : p.NoOverlap t) (hfull : ∀ c d, p.Reaches c d → c.index < d.index) :
    p.count t = (List.range t.length).countP fun i => (p.matchAt? (.inText t i)).isSome := by
  have hcount : p.count t = (p.findAll t).length := List.length_reverse.symm
  rw [hcount, findAll_eq_filterMap hapart, List.length_filterMap_eq_countP]
  refine List.countP_congr fun i _ => ?_
  cases hd : p.matchAt? (.inText t i) with
  | none => simp [foundAt?, hd]
  | some d =>
    have hlt : i < d.index := hfull _ _ (reaches_of_matchAt? hd)
    simp [foundAt?, hd, hlt]

end Pattern

end CodeSurvey
