/-
Counting of matches line by line. A pattern that no line feed can be part of matches in a line as it does in the line
alone (`Linewise`), so the matches in a text are those of its lines (`Linewise.count_append_feed`).
-/
import CodeSurvey.Proofs.Pattern.Reach

namespace CodeSurvey

theorem Text.isWord_feed : isWord '\n' = false := by decide

/-- The place in a longer text, with `u` in front of the text it stands in, `n` characters, and `v` behind it. -/
def Cursor.within (u v : List Char) (n : Nat) (c : Cursor) : Cursor :=
  ⟨c.before ++ u, c.after ++ v, c.index + n, c.groups⟩

/-- A text that is empty or begins with a line feed. -/
def AtFeed (t : List Char) : Prop := ∀ c ∈ t.head?, c = '\n'

namespace Pattern

/-- Does the pattern match between line feeds as it does in the text between them alone? -/
def Linewise (p : Pattern) : Prop :=
  ∀ u v n k l, AtFeed u → AtFeed v → (∀ d : Cursor, l (d.within u v n) = (k d).map (Cursor.within u v n)) →
    ∀ c, p.run l (c.within u v n) = (p.run k c).map (Cursor.within u v n)

theorem linewise_nothing : nothing.Linewise := fun _ _ _ _ _ _ _ hk c => hk c

theorem linewise_one {p : Char → Bool} (hp : p '\n' = false) : (one p).Linewise := by
  intro u v n k l _ hv hk ⟨before, after, index, groups⟩
  cases after with
  | nil =>
    cases v with
    | nil => rfl
    | cons a v =>
      obtain rfl := hv a rfl
      simp [run, Cursor.within, hp]
  | cons a after =>
    have hnext := hk ⟨a :: before, after, index + 1, groups⟩
    by_cases ha : p a = true
    · simpa [run, Cursor.within, ha, Nat.add_right_comm] using hnext
    · simp [run, Cursor.within, ha]

theorem stops_within {p : Char → Bool} (hp : p '\n' = false) {v : List Char} (hv : AtFeed v) (u : List Char) (n : Nat)
    (groups : List (Nat × List Char)) (after before : List Char) (index : Nat) (acc : List Cursor) :
    Cursor.stops p groups (after ++ v) (before ++ u) (index + n) (acc.map (Cursor.within u v n)) =
      (Cursor.stops p groups after before index acc).map (Cursor.within u v n) := by
  induction after generalizing before index acc with
  | nil =>
    cases v with
    | nil => rfl
    | cons a v =>
      obtain rfl := hv a rfl
      simp [Cursor.stops, Cursor.within, hp]
  | cons a after ih =>
    have hnext := ih (a :: before) (index + 1) (⟨before, a :: after, index, groups⟩ :: acc)
    by_cases ha : p a = true
    · simpa [Cursor.stops, Cursor.within, ha, Nat.add_right_comm] using hnext
    · simp [Cursor.stops, Cursor.within, ha]

theorem linewise_star {p : Char → Bool} (hp : p '\n' = false) : (star p).Linewise := by
  intro u v n k l _ hv hk c
  have hstops := stops_within hp hv u n c.groups c.after c.before c.index []
  have hcomp : l ∘ Cursor.within u v n = Option.map (Cursor.within u v n) ∘ k := funext hk
  show (Cursor.stops p c.groups (c.after ++ v) (c.before ++ u) (c.index + n) []).findSome? l = _
  rw [run, List.map_findSome?, ← hcomp, ← List.findSome?_map]
  exact congrArg _ hstops

theorem Linewise.seq {a b : Pattern} (ha : a.Linewise) (hb : b.Linewise) : (a.seq b).Linewise :=
  fun u v n k l hu hv hk c => ha u v n _ _ hu hv (fun d => hb u v n k l hu hv hk d) c

theorem linewise_wordEdge : wordEdge.Linewise := by
  intro u v n k l hu hv hk c
  have hedge : (c.within u v n).atWordEdge = c.atWordEdge := by
    obtain ⟨before, after, index, groups⟩ := c
    cases before <;> cases after <;> cases u <;> cases v <;> simp_all [Cursor.atWordEdge, Cursor.within, AtFeed,
      Text.isWord_feed]
  simp only [wordEdge, run, hedge, hk]
  split <;> rfl

theorem linewise_ofChars {l : List Char} (h : '\n' ∉ l) : (ofChars l).Linewise := by
  fun_induction ofChars l with
  | case1 => exact linewise_nothing
  | case2 c => exact linewise_one (beq_false_of_ne (List.ne_of_not_mem_cons h))
  | case3 c l _ ih =>
    have hc : ('\n' == c) = false := beq_false_of_ne (List.ne_of_not_mem_cons h)
    exact (linewise_one hc).seq (ih (List.not_mem_of_not_mem_cons h))

theorem linewise_word {s : String} (h : '\n' ∉ s.toList) : (word s).Linewise :=
  (linewise_wordEdge.seq (linewise_ofChars h)).seq linewise_wordEdge

/-! ## Counting -/

variable {p : Pattern}

theorem Linewise.matchAt?_within (hp : p.Linewise) {u v : List Char} (hu : AtFeed u) (hv : AtFeed v) (n : Nat)
    (c : Cursor) :
    p.matchAt? (c.within u v n) = (p.matchAt? c).map (Cursor.within u v n) :=
  hp u v n some some hu hv (fun _ => rfl) c

/-- The walk through a text between line feeds collects as many matches as the walk through the text alone, and goes on
behind it. -/
theorem Linewise.exists_collect_eq (hp : p.Linewise) {u v : List Char} (hu : AtFeed u) (hv : AtFeed v) (n m : Nat)
    (t before : List Char) (index skip : Nat) (acc more : List Found) (hskip : skip ≤ t.length)
    (hacc : acc.length = more.length + m) :
    ∃ found, found.length = (p.collect before index skip more t).length + m ∧
      p.collect (before ++ u) (index + n) skip acc (t ++ v) =
        p.collect (t.reverse ++ (before ++ u)) (index + n + t.length) 0 found v := by
  -- along the text; both walks pass over the same characters, as the matches have the same ends
  induction t generalizing before index skip acc more with
  | nil =>
    obtain rfl := Nat.le_zero.1 hskip
    exact ⟨acc, hacc, rfl⟩
  | cons a t ih =>
    have hnext : ∀ skip acc' more', skip ≤ t.length → acc'.length = more'.length + m → ∃ found,
        found.length = (p.collect (a :: before) (index + 1) skip more' t).length + m ∧
          p.collect (a :: (before ++ u)) (index + n + 1) skip acc' (t ++ v) =
            p.collect ((a :: t).reverse ++ (before ++ u)) (index + n + (a :: t).length) 0 found v := by
      intro skip acc' more' hskip hacc'
      have h := ih (a :: before) (index + 1) skip acc' more' hskip hacc'
      have hend : index + n + 1 + t.length = index + n + (a :: t).length := Nat.add_right_comm ..
      rw [Nat.add_right_comm index 1 n, hend] at h
      simpa using h
    rw [List.cons_append]
    cases skip with
    | succ k => exact hnext k acc more (Nat.le_of_succ_le_succ hskip) hacc
    | zero =>
      have hmatch : p.matchAt? ⟨before ++ u, a :: (t ++ v), index + n, []⟩ =
          (p.matchAt? ⟨before, a :: t, index, []⟩).map (Cursor.within u v n) :=
        hp.matchAt?_within hu hv n ⟨before, a :: t, index, []⟩
      rw [collect, collect, hmatch]
      cases hd : p.matchAt? ⟨before, a :: t, index, []⟩ with
      | none => exact hnext 0 acc more (Nat.zero_le _) hacc
      | some d =>
        obtain ⟨w, hw, hindex⟩ := (reaches_of_matchAt? hd).exists_past
        have hlength : w.length ≤ t.length + 1 := by
          have := congrArg List.length hw
          simp at this
          omega
        have hpast : d.index + n - (index + n) = d.index - index := by omega
        simp only [Option.map_some, Cursor.within, hpast]
        cases hk : d.index - index with
        | zero => exact hnext 0 acc more (Nat.zero_le _) hacc
        | succ k =>
          simp only at hindex
          exact hnext k _ _ (by omega) (by simp [hacc, Nat.add_right_comm])

/-- The matches in a text are those before a line feed and those behind it. -/
theorem Linewise.count_append_feed (hp : p.Linewise) (a b : List Char) :
    p.count (a ++ '\n' :: b) = p.count a + p.count b := by
  have hnil : AtFeed [] := by simp [AtFeed]
  have hfeed : ∀ t, AtFeed ('\n' :: t) := by simp [AtFeed]
  obtain ⟨found, hfound, hleft⟩ := hp.exists_collect_eq hnil (hfeed b) 0 0 a [] 0 0 [] [] (Nat.zero_le _) rfl
  obtain ⟨all, hall, hright⟩ :=
    hp.exists_collect_eq (hfeed a.reverse) hnil (a.length + 1) found.length b [] 0 0 found [] (Nat.zero_le _)
    (Nat.zero_add _).symm
  -- at the line feed itself there is at most a match of the empty text
  have hjoint : p.collect a.reverse a.length 0 found ('\n' :: b) =
      p.collect ('\n' :: a.reverse) (a.length + 1) 0 found b := by
    have hmatch : p.matchAt? ⟨a.reverse, '\n' :: b, a.length, []⟩ =
        (p.matchAt? ⟨a.reverse, [], a.length, []⟩).map (Cursor.within [] ('\n' :: b) 0) := by
      simpa [Cursor.within] using hp.matchAt?_within hnil (hfeed b) 0 ⟨a.reverse, [], a.length, []⟩
    rw [collect, hmatch]
    cases hd : p.matchAt? ⟨a.reverse, [], a.length, []⟩ with
    | none => rfl
    | some d =>
      obtain ⟨w, hw, hindex⟩ := (reaches_of_matchAt? hd).exists_past
      obtain rfl := (List.append_eq_nil_iff.1 hw.symm).1
      simp [Cursor.within, hindex]
  simp only [List.append_nil, List.nil_append, Nat.zero_add, Nat.add_zero] at hleft hright hfound hall
  rw [count, hleft, hjoint, hright, count, count, ← hfound]
  exact hall.trans (Nat.add_comm ..)

end Pattern

end CodeSurvey
