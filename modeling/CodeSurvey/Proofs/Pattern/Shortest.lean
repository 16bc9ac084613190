/-
Which of several matches is found, where a pattern has a lazy run: the run stops at the first place from which the rest
of the pattern succeeds (`exists_shortest_of_run`).
-/
import CodeSurvey.Proofs.Pattern.Reach

namespace CodeSurvey

theorem Cursor.exists_shortest_of_firstStop {p : Char → Bool} {groups : List (Nat × List Char)}
    {k : Cursor → Option Cursor} {e : Cursor} {after before : List Char} {index : Nat}
    (h : firstStop p groups k after before index = some e) :
    ∃ w r, after = w ++ r ∧ (∀ a ∈ w, p a = true) ∧ k (past ⟨before, after, index, groups⟩ w r) = some e ∧
      ∀ u v, w = u ++ v → v ≠ [] → k (past ⟨before, after, index, groups⟩ u (v ++ r)) = none := by
  induction after generalizing before index with
  | nil =>
    refine ⟨[], [], rfl, by simp, h, fun u v huv hv => ?_⟩
    exact absurd (List.append_eq_nil_iff.1 huv.symm).2 hv
  | cons a after ih =>
    rw [firstStop] at h
    cases hk : k ⟨before, a :: after, index, groups⟩ with
    | some d =>
      simp only [hk] at h
      refine ⟨[], a :: after, rfl, by simp, hk.trans h, fun u v huv hv => ?_⟩
      exact absurd (List.append_eq_nil_iff.1 huv.symm).2 hv
    | none =>
      simp only [hk] at h
      split at h
      · rename_i ha
        obtain ⟨w, r, rfl, hp, hkw, hshort⟩ := ih h
        have hpast : ∀ u s, past ⟨before, a :: (w ++ r), index, groups⟩ (a :: u) s =
            past ⟨a :: before, w ++ r, index + 1, groups⟩ u s := by
          intro u s
          simp [past, Nat.add_assoc, Nat.add_comm 1]
        refine ⟨a :: w, r, rfl, List.forall_mem_cons.2 ⟨ha, hp⟩, by rw [hpast, hkw], fun u v huv hv => ?_⟩
        cases u with
        | nil =>
          obtain rfl : a :: w = v := huv
          exact hk
        | cons b u =>
          obtain ⟨rfl, rfl⟩ := List.cons.inj huv
          rw [hpast]
          exact hshort u v rfl hv
      · cases h

namespace Pattern

/-- A lazy run that is captured is the shortest one, of at least one character, from which the rest succeeds. -/
theorem exists_shortest_of_run {p : Char → Bool} {i : Nat} {k : Cursor → Option Cursor} {c e : Cursor}
    (h : (group i (lazyPlus p)).run k c = some e) :
    ∃ w r, c.after = w ++ r ∧ w ≠ [] ∧ (∀ a ∈ w, p a = true) ∧
      k { c.past w r with groups := (i, w) :: c.groups } = some e ∧
      ∀ u v, w = u ++ v → u ≠ [] → v ≠ [] → k { c.past u (v ++ r) with groups := (i, u) :: c.groups } = none := by
  obtain ⟨before, after, index, groups⟩ := c
  cases after with
  | nil => cases h
  | cons a after =>
    by_cases ha : p a = true
    · simp only [run, lazyPlus, ha, if_true] at h
      obtain ⟨w, r, rfl, hp, hk, hshort⟩ := Cursor.exists_shortest_of_firstStop h
      have hindex : ∀ u : List Char, index + 1 + u.length - index = u.length + 1 := fun u => by omega
      refine ⟨a :: w, r, rfl, by simp, List.forall_mem_cons.2 ⟨ha, hp⟩, ?_, fun u v huv hu hv => ?_⟩
      · simpa [Cursor.past, hindex, Nat.add_assoc, Nat.add_comm 1] using hk
      · cases u with
        | nil => exact absurd rfl hu
        | cons b u =>
          obtain ⟨rfl, rfl⟩ := List.cons.inj huv
          simpa [Cursor.past, hindex, Nat.add_assoc, Nat.add_comm 1] using hshort u v rfl hv
    · simp [run, lazyPlus, ha] at h

end Pattern

end CodeSurvey
