/-
Requests that are made of one item after the other: they are answered exactly if each item answers (`mapM_eq_ok_iff`),
and they fail if one item does (`exists_mapM_eq_error`), for the fault of an item (`exists_of_mapM_eq_error`).
-/
import CodeSurvey.Basic
import Mathlib.Data.List.Forall2

namespace CodeSurvey

variable {α β : Type} {f : α → Except Fault β} {xs : List α}

theorem bind_eq_ok_iff {ε : Type} {x : Except ε α} {k : α → Except ε β} {b : β} :
    x >>= k = .ok b ↔ ∃ a, x = .ok a ∧ k a = .ok b := by
  cases x <;> simp [bind, Except.bind]

theorem bind_pure_eq_error_iff {ε : Type} {x : Except ε α} {g : α → β} {e : ε} :
    (x >>= fun a => pure (g a)) = .error e ↔ x = .error e := by
  cases x <;> simp [bind, Except.bind, pure, Except.pure]

/-- What is asked of every item in turn is given exactly if it is given item by item. -/
theorem mapM_eq_ok_iff {ys : List β} : xs.mapM f = .ok ys ↔ List.Forall₂ (fun x y => f x = .ok y) xs ys := by
  induction xs generalizing ys with
  | nil => simp [pure, Except.pure, eq_comm]
  | cons x xs ih =>
    rw [List.mapM_cons, List.forall₂_cons_left_iff]
    simp only [bind_eq_ok_iff, ih, pure, Except.pure, Except.ok.injEq]
    refine exists_congr fun y => ⟨?_, ?_⟩
    · rintro ⟨hy, tail, htail, rfl⟩
      exact ⟨tail, hy, htail, rfl⟩
    · rintro ⟨tail, hy, htail, rfl⟩
      exact ⟨hy, tail, htail, rfl⟩

theorem mapM_eq_ok_map {g : α → β} (h : ∀ x ∈ xs, f x = .ok (g x)) : xs.mapM f = .ok (xs.map g) := by
  rw [mapM_eq_ok_iff, List.forall₂_map_right_iff, List.forall₂_same]
  exact h

theorem mem_iff_of_mapM_eq_ok {ys : List β} (h : xs.mapM f = .ok ys) {y : β} : y ∈ ys ↔ ∃ x ∈ xs, f x = .ok y := by
  rw [mapM_eq_ok_iff] at h
  induction h with
  | nil => simp
  | cons hxy _ ih => simp [hxy, ih, eq_comm]

theorem exists_eq_ok_of_mapM_eq_ok {ys : List β} (h : xs.mapM f = .ok ys) : ∀ x ∈ xs, ∃ y, f x = .ok y := by
  rw [mapM_eq_ok_iff] at h
  induction h with
  | nil => simp
  | cons hxy _ ih => exact List.forall_mem_cons.2 ⟨⟨_, hxy⟩, ih⟩

theorem exists_mapM_eq_error (h : ∃ x ∈ xs, ∃ e, f x = .error e) : ∃ e, xs.mapM f = .error e := by
  cases hall : xs.mapM f with
  | error e => exact ⟨e, rfl⟩
  | ok ys =>
    obtain ⟨x, hx, e, he⟩ := h
    have hlisted := List.forall₂_iff_get.1 (mapM_eq_ok_iff.1 hall)
    obtain ⟨i, rfl⟩ := List.mem_iff_get.1 hx
    have hok := hlisted.2 i i.2 (hlisted.1 ▸ i.2)
    rw [List.get_eq_getElem] at he hok
    rw [he] at hok
    cases hok

/-- A request fails for a fault of one of its items. -/
theorem exists_of_mapM_eq_error {e : Fault} (h : xs.mapM f = .error e) : ∃ x ∈ xs, f x = .error e := by
  induction xs with
  | nil => cases h
  | cons x xs ih =>
    rw [List.mapM_cons] at h
    cases hx : f x with
    | error e' =>
      rw [hx] at h
      cases h
      exact ⟨x, List.mem_cons_self, hx⟩
    | ok y =>
      cases hxs : xs.mapM f with
      | error e' =>
        rw [hx, hxs] at h
        cases h
        obtain ⟨z, hz, hfault⟩ := ih hxs
        exact ⟨z, List.mem_cons_of_mem x hz, hfault⟩
      | ok ys =>
        rw [hx, hxs] at h
        cases h

theorem mapM_map_eq_error_iff {γ : Type} {g : γ → α} {l : List γ} {P : γ → Prop} {fault e : Fault}
    (h : ∀ c ∈ l, ∀ e, f (g c) = .error e ↔ e = fault ∧ P c) : (l.map g).mapM f = .error e ↔ e = fault ∧
      ∃ c ∈ l, P c := by
  have honly : ∀ {e}, (l.map g).mapM f = .error e → e = fault ∧ ∃ c ∈ l, P c := by
    intro e he
    obtain ⟨x, hx, hfault⟩ := exists_of_mapM_eq_error he
    obtain ⟨c, hc, rfl⟩ := List.mem_map.1 hx
    obtain ⟨rfl, hP⟩ := (h c hc e).1 hfault
    exact ⟨rfl, c, hc, hP⟩
  refine ⟨honly, ?_⟩
  rintro ⟨rfl, c, hc, hP⟩
  obtain ⟨e', he'⟩ := exists_mapM_eq_error ⟨g c, List.mem_map_of_mem hc, e, (h c hc e).2 ⟨rfl, hP⟩⟩
  rw [he', (honly he').1]

end CodeSurvey
