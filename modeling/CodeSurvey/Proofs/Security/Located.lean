/-
Where the findings of the security scan come from. A finding of a kind, in a line and with a description is reported
exactly if the line is not harmless with regard to the kind and a rule with that description is found in it; it is
reported once, and the other lines have no part in it (`scan_located`).

Findings are kept apart by a key of which the line, the kind and the description can be read. So leaving out a finding
whose key is known loses nothing, and goes together with picking the findings of one line.
-/
import CodeSurvey.Proofs.Text.Piece
import CodeSurvey.Security.Scan
import Mathlib.Data.List.Induction
import Mathlib.Data.List.Nodup

namespace CodeSurvey.Security

/-! ## Items of different keys -/

section
variable {α β κ ι : Type} [BEq κ] {key : α → κ}

/-- One step of the search for items of different keys: the items found and their keys, the latest first. -/
def distinctStep (key : α → κ) (acc : List α × List κ) (a : α) : List α × List κ :=
  if acc.2.contains (key a) then acc else (a :: acc.1, key a :: acc.2)

theorem distinctBy_eq (key : α → κ) (l : List α) :
    distinctBy key l = (l.foldl (distinctStep key) ([], [])).1.reverse := rfl

theorem foldl_distinctStep_snd (key : α → κ) (l : List α) (acc : List α × List κ) (h : acc.2 = acc.1.map key) :
    (l.foldl (distinctStep key) acc).2 = (l.foldl (distinctStep key) acc).1.map key := by
  induction l generalizing acc with
  | nil => exact h
  | cons a l ih =>
    refine ih _ ?_
    unfold distinctStep
    split
    · exact h
    · simp [h]

variable [LawfulBEq κ]

theorem distinctBy_concat (key : α → κ) (l : List α) (a : α) :
    distinctBy key (l ++ [a]) =
      if ((distinctBy key l).map key).contains (key a) then distinctBy key l else distinctBy key l ++ [a] := by
  rw [distinctBy_eq, distinctBy_eq, List.foldl_append, List.foldl_cons, List.foldl_nil]
  have hkeys := foldl_distinctStep_snd key l ([], []) rfl
  generalize l.foldl (distinctStep key) ([], []) = acc at hkeys
  have hcontains : (acc.1.reverse.map key).contains (key a) = acc.2.contains (key a) := by
    rw [hkeys, List.map_reverse, Bool.eq_iff_iff, List.contains_iff_mem, List.contains_iff_mem, List.mem_reverse]
  rw [hcontains, distinctStep]
  split
  · rfl
  · exact List.reverse_cons

theorem distinctBy_concat_of_mem {l : List α} {a : α} (h : key a ∈ (distinctBy key l).map key) :
    distinctBy key (l ++ [a]) = distinctBy key l := by
  rw [distinctBy_concat, if_pos (List.contains_iff_mem.2 h)]

theorem distinctBy_concat_of_not_mem {l : List α} {a : α} (h : key a ∉ (distinctBy key l).map key) :
    distinctBy key (l ++ [a]) = distinctBy key l ++ [a] := by
  rw [distinctBy_concat, if_neg (mt List.contains_iff_mem.1 h)]

theorem mem_map_distinctBy {l : List α} {k : κ} : k ∈ (distinctBy key l).map key ↔ k ∈ l.map key := by
  induction l using List.reverseRecOn with
  | nil => rfl
  | append_singleton l a ih =>
    by_cases h : key a ∈ (distinctBy key l).map key
    · rw [distinctBy_concat_of_mem h, List.map_append, List.mem_append, ← ih]
      constructor
      · exact .inl
      · rintro (hk | hk)
        · exact hk
        · obtain rfl : k = key a := by simpa using hk
          exact h
    · rw [distinctBy_concat_of_not_mem h, List.map_append, List.map_append, List.mem_append, List.mem_append, ih]

theorem nodup_map_distinctBy (key : α → κ) (l : List α) : ((distinctBy key l).map key).Nodup := by
  induction l using List.reverseRecOn with
  | nil => exact List.nodup_nil
  | append_singleton l a ih =>
    by_cases h : key a ∈ (distinctBy key l).map key
    · rwa [distinctBy_concat_of_mem h]
    · rw [distinctBy_concat_of_not_mem h, List.map_append]
      exact List.nodup_append.2 ⟨ih, List.nodup_singleton _, fun k hk k' hk' => by
        obtain rfl : k' = key a := by simpa using hk'
        rintro rfl
        exact h hk⟩

theorem mem_of_mem_distinctBy {l : List α} {a : α} (h : a ∈ distinctBy key l) : a ∈ l := by
  induction l using List.reverseRecOn with
  | nil => exact h
  | append_singleton l b ih =>
    by_cases hb : key b ∈ (distinctBy key l).map key
    · rw [distinctBy_concat_of_mem hb] at h
      exact List.mem_append_left _ (ih h)
    · rw [distinctBy_concat_of_not_mem hb] at h
      exact List.mem_append.2 ((List.mem_append.1 h).imp_left ih)

/-- A condition that can be read off the key may be asked before or after. -/
theorem filter_distinctBy {p : α → Bool} (hp : ∀ a b, key a = key b → p a = p b) (l : List α) :
    (distinctBy key l).filter p = distinctBy key (l.filter p) := by
  induction l using List.reverseRecOn with
  | nil => rfl
  | append_singleton l a ih =>
    have hmem : p a = true → (key a ∈ (distinctBy key l).map key ↔ key a ∈ (distinctBy key (l.filter p)).map key) := by
      intro hpa
      rw [mem_map_distinctBy, mem_map_distinctBy, List.mem_map, List.mem_map]
      constructor
      · rintro ⟨b, hb, hkey⟩
        exact ⟨b, List.mem_filter.2 ⟨hb, (hp b a hkey).trans hpa⟩, hkey⟩
      · rintro ⟨b, hb, hkey⟩
        exact ⟨b, (List.mem_filter.1 hb).1, hkey⟩
    by_cases hpa : p a = true
    · have hone : [a].filter p = [a] := List.filter_cons_of_pos hpa
      by_cases h : key a ∈ (distinctBy key l).map key
      · rw [distinctBy_concat_of_mem h, List.filter_append, hone, distinctBy_concat_of_mem ((hmem hpa).1 h), ih]
      · rw [distinctBy_concat_of_not_mem h, List.filter_append, List.filter_append, hone,
          distinctBy_concat_of_not_mem (mt (hmem hpa).2 h), ih]
    · have hnone : [a].filter p = [] := List.filter_cons_of_neg hpa
      by_cases h : key a ∈ (distinctBy key l).map key
      · rw [distinctBy_concat_of_mem h, List.filter_append, hnone, List.append_nil, ih]
      · rw [distinctBy_concat_of_not_mem h, List.filter_append, List.filter_append, hnone, List.append_nil,
          List.append_nil, ih]

/-- Items may be changed before or after, if the keys of the new items differ where those of the old ones do. -/
theorem distinctBy_map [BEq ι] [LawfulBEq ι] {old : β → ι} {f : β → α} {l : List β}
    (hf : ∀ x ∈ l, ∀ y ∈ l, key (f x) = key (f y) ↔ old x = old y) :
    distinctBy key (l.map f) = (distinctBy old l).map f := by
  induction l using List.reverseRecOn with
  | nil => rfl
  | append_singleton l a ih =>
    have hmem : old a ∈ (distinctBy old l).map old ↔ key (f a) ∈ (distinctBy key (l.map f)).map key := by
      rw [mem_map_distinctBy, mem_map_distinctBy, List.map_map, List.mem_map, List.mem_map]
      refine exists_congr fun b => and_congr_right fun hb => ?_
      exact (hf b (List.mem_append_left _ hb) a (by simp)).symm
    have ih := ih fun x hx y hy => hf x (List.mem_append_left _ hx) y (List.mem_append_left _ hy)
    rw [List.map_append, List.map_singleton]
    by_cases h : old a ∈ (distinctBy old l).map old
    · rw [distinctBy_concat_of_mem h, distinctBy_concat_of_mem (hmem.1 h), ih]
    · rw [distinctBy_concat_of_not_mem h, distinctBy_concat_of_not_mem (mt hmem.2 h), ih, List.map_append,
        List.map_singleton]

end

/-! ## Findings and their keys -/

theorem Weakness.name_injective : Function.Injective Weakness.name := by
  intro a b
  cases a <;> cases b <;> simp [name]

theorem Issue.key_eq_iff {i j : Issue} :
    i.key = j.key ↔ i.weakness = j.weakness ∧ i.line = j.line ∧ i.description = j.description := by
  simp only [Issue.key, Prod.mk.injEq, Weakness.name_injective.eq_iff]
  exact and_left_comm

/-- The finding, in another line. -/
def Issue.movedTo (n : Nat) (i : Issue) : Issue := { i with line := n }

/-- The line is not harmless with regard to the kind of weakness in the language, and a rule of the kind that is for the
language and has the description is found in it. -/
def PointsTo (w : Weakness) (language : String) (line : List Char) (description : String) : Prop :=
  isRelevant w language = true ∧ isSuppressed w language line = false ∧
    ∃ r ∈ rules w, r.isFor language = true ∧ r.pattern.occursIn line = true ∧ w.describe r.description = description

section
variable {w : Weakness} {language : String} {line : List Char} {ls : List (List Char)} {i : Issue}

theorem mem_lineIssues_iff {n : Nat} :
    i ∈ lineIssues w language n line ↔ isSuppressed w language line = false ∧
      ∃ r ∈ rules w, r.isFor language = true ∧ r.pattern.occursIn line = true ∧
        i = ⟨w, n, snippetOf w line, w.describe r.description⟩ := by
  unfold lineIssues
  cases isSuppressed w language line with
  | true => simp only [if_true, List.not_mem_nil, Bool.true_eq_false, false_and]
  | false =>
    simp only [Bool.false_eq_true, if_false, List.mem_map, List.mem_filter, Bool.and_eq_true, true_and, and_assoc,
      eq_comm (b := i)]

theorem mem_check_iff :
    i ∈ check w language ls ↔ isRelevant w language = true ∧
      ∃ n line, ls[n]? = some line ∧ i ∈ lineIssues w language (n + 1) line := by
  unfold check
  cases isRelevant w language
  · simp
  · simp only [if_true, List.mem_flatMap, Prod.exists, true_and]
    constructor
    · rintro ⟨line, n, hn, hi⟩
      obtain ⟨hle, hget⟩ := List.mem_zipIdx_iff_le_and_getElem?_sub.1 hn
      exact ⟨n - 1, line, hget, by rwa [Nat.sub_add_cancel hle]⟩
    · rintro ⟨n, line, hget, hi⟩
      exact ⟨line, n + 1, List.mem_zipIdx_iff_le_and_getElem?_sub.2 ⟨by omega, by simpa using hget⟩, hi⟩

theorem mem_order (w : Weakness) : w ∈ order := by
  cases w <;> decide

end

theorem scan_finds_iff (t language : List Char) (w : Weakness) (k : Nat) (description : String) :
    (∃ i ∈ scan t language, i.weakness = w ∧ i.line = k ∧ i.description = description) ↔
      ∃ n line, k = n + 1 ∧ (Text.lines t)[n]? = some line ∧
        PointsTo w (String.ofList (Text.lower language)) line description := by
  have hkey : ∀ l : List Issue, (∃ i ∈ l, i.weakness = w ∧ i.line = k ∧ i.description = description) ↔
      (k, w.name, description) ∈ l.map Issue.key := by
    intro l
    rw [List.mem_map]
    refine exists_congr fun i => and_congr_right fun _ => ?_
    exact (Issue.key_eq_iff (j := ⟨w, k, "", description⟩)).symm
  rw [hkey, scan, mem_map_distinctBy, ← hkey]
  simp only [List.mem_flatMap, mem_order, true_and, mem_check_iff, mem_lineIssues_iff]
  constructor
  · rintro ⟨i, ⟨w', hrelevant, n, line, hget, hharmless, r, hr, hfor, hoccurs, rfl⟩, rfl, rfl, rfl⟩
    exact ⟨n, line, rfl, hget, hrelevant, hharmless, r, hr, hfor, hoccurs, rfl⟩
  · rintro ⟨n, line, rfl, hget, hrelevant, hharmless, r, hr, hfor, hoccurs, rfl⟩
    exact ⟨_, ⟨w, hrelevant, n, line, hget, hharmless, r, hr, hfor, hoccurs, rfl⟩, rfl, rfl, rfl⟩

/-! ## One line -/

theorem line_of_mem_lineIssues {w : Weakness} {language : String} {n : Nat} {line : List Char} {i : Issue}
    (hi : i ∈ lineIssues w language n line) : i.line = n := by
  obtain ⟨-, r, -, -, -, rfl⟩ := mem_lineIssues_iff.1 hi
  rfl

theorem lineIssues_eq_map (w : Weakness) (language : String) (n : Nat) (line : List Char) :
    lineIssues w language n line = (lineIssues w language 1 line).map (Issue.movedTo n) := by
  unfold lineIssues
  split
  · rfl
  · rw [List.map_map]
    rfl

/-- The findings of a kind in the line of one number, of many numbered lines. The induction is on the lines that are
left. -/
theorem filter_flatMap_lineIssues (w : Weakness) (language : String) (ls : List (List Char)) (start n : Nat) :
    ((ls.zipIdx start).flatMap fun p => lineIssues w language p.2 p.1).filter (fun i => i.line == start + n) =
      ls[n]?.toList.flatMap (lineIssues w language (start + n)) := by
  induction ls generalizing start n with
  | nil => rfl
  | cons line ls ih =>
    rw [List.zipIdx_cons, List.flatMap_cons, List.filter_append]
    cases n with
    | zero =>
      have hhere : (lineIssues w language start line).filter (fun i => i.line == start + 0) =
          lineIssues w language start line :=
        List.filter_eq_self.2 fun i hi => by simp [line_of_mem_lineIssues hi]
      have hlater : ((ls.zipIdx (start + 1)).flatMap fun p => lineIssues w language p.2 p.1).filter
          (fun i => i.line == start + 0) = [] := by
        rw [List.filter_eq_nil_iff]
        intro i hi
        obtain ⟨⟨line', m⟩, hm, hi⟩ := List.mem_flatMap.1 hi
        have hle := (List.mem_zipIdx_iff_le_and_getElem?_sub.1 hm).1
        rw [line_of_mem_lineIssues hi, beq_iff_eq]
        omega
      rw [hhere, hlater]
      simp
    | succ n =>
      have hhere : (lineIssues w language start line).filter (fun i => i.line == start + (n + 1)) = [] :=
        List.filter_eq_nil_iff.2 fun i hi => by simp [line_of_mem_lineIssues hi]
      rw [hhere, List.nil_append, show start + (n + 1) = start + 1 + n by omega, ih]
      rfl

theorem filter_check (w : Weakness) (language : String) (ls : List (List Char)) (n : Nat) :
    (check w language ls).filter (fun i => i.line == n + 1) =
      ls[n]?.toList.flatMap fun line => (check w language [line]).map (Issue.movedTo (n + 1)) := by
  unfold check
  split
  · rw [Nat.add_comm n 1]
    refine (filter_flatMap_lineIssues w language ls 1 n).trans (congrArg (List.flatMap · _) ?_)
    funext line
    rw [lineIssues_eq_map]
    simp
  · simp

/-- The findings in one line of a text are those in this line alone. -/
theorem filter_scan (t language : List Char) (n : Nat) :
    (scan t language).filter (fun i => i.line == n + 1) =
      (Text.lines t)[n]?.toList.flatMap fun line => (scan line language).map (Issue.movedTo (n + 1)) := by
  have hline : ∀ i j : Issue, i.key = j.key → (i.line == n + 1) = (j.line == n + 1) := fun i j h => by
    rw [(Issue.key_eq_iff.1 h).2.1]
  rw [scan, filter_distinctBy hline, List.filter_flatMap]
  simp only [filter_check]
  cases hget : (Text.lines t)[n]? with
  | none =>
    simp only [Option.toList_none, List.flatMap_nil]
    rfl
  | some line =>
    have hlines : Text.lines line = [line] := Text.lines_of_mem_lines (List.mem_of_getElem? hget)
    simp only [Option.toList_some, List.flatMap_cons, List.flatMap_nil, List.append_nil, scan, hlines]
    rw [← List.map_flatMap]
    refine distinctBy_map fun i hi j hj => ?_
    -- both are in the first and only line
    have hfirst : ∀ i ∈ order.flatMap fun w => check w (String.ofList (Text.lower language)) [line], i.line = 1 := by
      intro i hi
      obtain ⟨w, -, hi⟩ := List.mem_flatMap.1 hi
      obtain ⟨-, m, line', hm, hi⟩ := mem_check_iff.1 hi
      have hlt : m < 1 := (List.getElem?_eq_some_iff.1 hm).1
      rw [line_of_mem_lineIssues hi]
      omega
    simp [Issue.key_eq_iff, Issue.movedTo, hfirst i hi, hfirst j hj]

/-- A finding of a kind, in a line and with a description is reported exactly if the line points to it, and it is
reported once. The findings in a line are those in this line alone. -/
theorem scan_located (t language : List Char) :
    (∀ w k description, (∃ i ∈ scan t language, i.weakness = w ∧ i.line = k ∧ i.description = description) ↔
      ∃ n line, k = n + 1 ∧ (Text.lines t)[n]? = some line ∧
        PointsTo w (String.ofList (Text.lower language)) line description) ∧
    ((scan t language).map fun i => (i.weakness, i.line, i.description)).Nodup ∧
    ∀ n, (scan t language).filter (fun i => i.line == n + 1) =
      (Text.lines t)[n]?.toList.flatMap fun line => (scan line language).map (Issue.movedTo (n + 1)) := by
  refine ⟨scan_finds_iff t language, ?_, filter_scan t language⟩
  refine List.Nodup.of_map (fun p : Weakness × Nat × String => (p.2.1, p.1.name, p.2.2)) ?_
  rw [List.map_map]
  exact nodup_map_distinctBy Issue.key _

end CodeSurvey.Security
