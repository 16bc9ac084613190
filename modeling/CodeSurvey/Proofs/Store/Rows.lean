/-
Rows of the store. New rows: each draft becomes one row, in the order of the drafts. What a row has whatever its
identifier and time are, the new rows have (`forall_mem_numbered`), and they show it in the order of the drafts
(`map_numbered`, `forall₂_numbered`). The symbols of a repository are rows of their table, in its order
(`map_fst_symbolsOf`).
-/
import CodeSurvey.Store.Basic
import Mathlib.Data.List.Nodup

namespace CodeSurvey

/-- No identifier is handed out twice. -/
theorem Id.nth_inj {m n : Nat} : Id.nth m = Id.nth n ↔ m = n := by
  unfold Id.nth
  rw [Id.mk.injEq]
  omega

namespace Store

variable {α β γ : Type}

/-! ## New rows -/

@[simp] theorem length_numbered :
    ∀ (n : Nat) (drafts : List (Id → Moment → α)), (numbered n drafts).length = drafts.length
  | _, [] => rfl
  | n, _ :: drafts => congrArg (· + 1) (length_numbered (n + 1) drafts)

theorem forall_mem_numbered {P : α → Prop} {n : Nat} {drafts : List (Id → Moment → α)}
    (h : ∀ make ∈ drafts, ∀ id now, P (make id now)) : ∀ a ∈ numbered n drafts, P a := by
  induction drafts generalizing n with
  | nil => exact fun a ha => absurd ha List.not_mem_nil
  | cons make drafts ih =>
    intro a ha
    rcases List.mem_cons.1 ha with rfl | ha
    · exact h make List.mem_cons_self _ _
    · exact ih (fun make' hmake => h make' (List.mem_cons_of_mem make hmake)) a ha

theorem map_numbered {f : α → β} {g : γ → β} {make : γ → Id → Moment → α} (h : ∀ c id now, f (make c id now) = g c)
    (l : List γ) :
    ∀ n, (numbered n (l.map make)).map f = l.map g := by
  induction l with
  | nil => exact fun _ => rfl
  | cons c l ih =>
    intro n
    rw [List.map_cons, numbered, List.map_cons, List.map_cons, h, ih]

theorem forall₂_numbered {R : γ → α → Prop} {make : γ → Id → Moment → α} (h : ∀ c id now, R c (make c id now))
    (l : List γ) :
    ∀ n, List.Forall₂ R l (numbered n (l.map make)) := by
  induction l with
  | nil => exact fun _ => .nil
  | cons c l ih => exact fun n => .cons (h c _ _) (ih (n + 1))

theorem numbered_append (a b : List (Id → Moment → α)) :
    ∀ n, numbered n (a ++ b) = numbered n a ++ numbered (n + a.length) b := by
  induction a with
  | nil => exact fun _ => rfl
  | cons make a ih =>
    intro n
    rw [List.cons_append, numbered, ih, numbered, List.cons_append, List.length_cons, Nat.add_right_comm,
      Nat.add_assoc n]

/-- Rows that take the identifiers they are given have one each. -/
theorem nodup_id_numbered {id : α → Id} {drafts : List (Id → Moment → α)}
    (h : ∀ make ∈ drafts, ∀ i now, id (make i now) = i) (n : Nat) :
    ((numbered n drafts).map id).Nodup := by
  have hids : ∀ n, (numbered n drafts).map id = (List.range' n drafts.length).map Id.nth := by
    induction drafts with
    | nil => exact fun _ => rfl
    | cons make drafts ih =>
      intro n
      obtain ⟨hmake, hrest⟩ := List.forall_mem_cons.1 h
      rw [numbered, List.map_cons, ih hrest, hmake, List.length_cons, List.range'_succ, List.map_cons]
  rw [hids]
  exact List.Nodup.map (fun _ _ => Id.nth_inj.1) List.nodup_range'

theorem addSymbols_addSymbols (s : Store) (a b : List (Id → Moment → SymbolRow)) :
    (s.addSymbols a).addSymbols b = s.addSymbols (a ++ b) := by
  unfold addSymbols
  rw [numbered_append, List.length_append, List.append_assoc, Nat.add_assoc]

/-! ## Symbols of a repository -/

theorem map_fst_symbolsOf (s : Store) (repository : Id) : (s.symbolsOf repository).map (·.1) =
    s.symbols.filter fun y => (s.file? y.fileId).any (·.repositoryId == repository) := by
  unfold symbolsOf placedSymbols
  induction s.symbols with
  | nil => rfl
  | cons y rest ih =>
    cases hfile : s.file? y.fileId with
    | none => simpa [hfile] using ih
    | some f => by_cases hf : f.repositoryId = repository <;> simpa [hfile, hf] using ih

end Store

end CodeSurvey
