/-
The windows of a text. They start at the multiples of the step, as long as they fit (`mem_windowStarts_iff`), so that
every line lies in one but for those behind the last window (`exists_window_iff`). What is kept of them are those that
are not blank and have tokens enough, in their order (`blocks_eq`, `blocks_windows`).
-/
import CodeSurvey.Duplicate.Scan
import Mathlib.Data.List.Nodup
import Mathlib.Order.Interval.Finset.Nat

namespace CodeSurvey.Duplicate

open Text
open scoped Finset

/-! ## Where windows start -/

section
variable {n b i : Nat}

theorem windowStep_natCast (b : Nat) : windowStep b = max 1 (b / 2) := by
  unfold windowStep
  omega

theorem windowStep_pos (size : Int) : 0 < windowStep size := by
  unfold windowStep
  omega

/-- The windows start at the multiples of the step, as long as they fit. -/
theorem mem_windowStarts_iff {size : Int} : i ∈ windowStarts n size ↔ windowStep size ∣ i ∧ i + size ≤ n := by
  have hstep := windowStep_pos size
  unfold windowStarts
  generalize windowStep size = s at hstep
  simp only [List.mem_map, List.mem_range]
  have hfits : ∀ k, k < (((n : Int) - size + 1).toNat + s - 1) / s ↔ (k * s : Nat) + size ≤ n := by
    intro k
    rw [← Nat.succ_le_iff, Nat.le_div_iff_mul_le hstep, Nat.succ_mul]
    omega
  constructor
  · rintro ⟨k, hk, rfl⟩
    exact ⟨Nat.dvd_mul_left s k, (hfits k).1 hk⟩
  · rintro ⟨⟨k, rfl⟩, hle⟩
    rw [Nat.mul_comm] at hle ⊢
    exact ⟨k, (hfits k).2 hle, rfl⟩

theorem mem_windowStarts_natCast_iff : i ∈ windowStarts n b ↔ windowStep b ∣ i ∧ i + b ≤ n :=
  mem_windowStarts_iff.trans (and_congr_right' (by omega))

theorem pairwise_windowStarts (n : Nat) (size : Int) : (windowStarts n size).Pairwise (· < ·) :=
  List.pairwise_map.2 (List.pairwise_lt_range.imp fun h => Nat.mul_lt_mul_of_pos_right h (windowStep_pos size))

theorem nodup_windowStarts (n : Nat) (size : Int) : (windowStarts n size).Nodup :=
  (pairwise_windowStarts n size).imp Nat.ne_of_lt

theorem eq_of_getElem?_windowStarts {size : Int} {j : Nat} (h : (windowStarts n size)[j]? = some i) :
    i = j * windowStep size := by
  rw [windowStarts, List.getElem?_map, Option.map_eq_some_iff] at h
  obtain ⟨k, hk, rfl⟩ := h
  obtain ⟨_, rfl⟩ := List.getElem?_eq_some_iff.1 hk
  rw [List.getElem_range]

/-- Which lines lie in a window: all but those behind the last window that fits. -/
theorem exists_window_iff (hb : 1 ≤ b) (hle : b ≤ n) {k : Nat} (hk : 1 ≤ k) :
    (∃ i ∈ windowStarts n b, i < k ∧ k ≤ i + b) ↔ k + (n - b) % windowStep b ≤ n := by
  have hstep : 0 < windowStep b ∧ windowStep b ≤ b := by rw [windowStep_natCast]; omega
  simp only [mem_windowStarts_natCast_iff]
  generalize windowStep (b : Int) = s at hstep
  have hlast := Nat.div_add_mod (n - b) s
  constructor
  · rintro ⟨i, ⟨⟨q, rfl⟩, hfits⟩, -, hki⟩
    have hq : q ≤ (n - b) / s := (Nat.le_div_iff_mul_le hstep.1).2 (by rw [Nat.mul_comm]; omega)
    have := Nat.mul_le_mul_left s hq
    omega
  · intro hin
    -- a line behind the start of the last window is in that one, any other in the window of the last multiple before it
    by_cases hend : s * ((n - b) / s) < k
    · exact ⟨_, ⟨Nat.dvd_mul_right s _, by omega⟩, hend, by omega⟩
    · have hdiv := Nat.div_add_mod (k - 1) s
      have hmod := Nat.mod_lt (k - 1) hstep.1
      exact ⟨_, ⟨Nat.dvd_mul_right s ((k - 1) / s), by omega⟩, by omega, by omega⟩

theorem card_overlap (hb : 1 ≤ b) {j i' : Nat} (hi : (windowStarts n b)[j]? = some i)
    (hi' : (windowStarts n b)[j + 1]? = some i') :
    #(Finset.Ioc i (i + b) ∩ Finset.Ioc i' (i' + b)) = b - windowStep b := by
  rw [eq_of_getElem?_windowStarts hi, eq_of_getElem?_windowStarts hi', Nat.succ_mul, Finset.Ioc_inter_Ioc, Nat.card_Ioc]
  omega

end

/-! ## The texts of windows -/

def windowText (o : Options) (language content : List Char) (start : Nat) : List Char :=
  let ls := lines content
  unlines (slice start (min (start + windowSize o language) ls.length) ls)

/-- Is the text of a window not blank, and has it tokens enough? -/
def counts (o : Options) (language text : List Char) : Bool :=
  !isBlankText text && decide (o.minTokens ≤ (tokens (Dialect.ofLanguage language) text).length)

/-- The window at an offset, as it is compared with others. -/
def windowBlock (o : Options) (fileId : Json) (path : Option String) (language content : List Char)
    (start : Nat) : Block :=
  let ls := lines content
  let stop := min (start + windowSize o language) ls.length
  let text := windowText o language content start
  let toks := tokens (Dialect.ofLanguage language) text
  ⟨fileId, path, start + 1, stop, text, toks, digestOf (MinHash.signature hashCount (toks.eraseDups.map String.ofList)),
    (slice start stop ls).length⟩

section
variable {o : Options} {fileId : Json} {path : Option String} {language content : List Char}

theorem block?_eq (start : Nat) : block? o fileId path language (lines content) start =
    if counts o language (windowText o language content start) then
      some (windowBlock o fileId path language content start)
    else none := by
  have hpassed : ∀ text : List Char, (isBlankText text ||
      decide (((tokens (Dialect.ofLanguage language) text).length : Int) < o.minTokens)) = !counts o language text := by
    intro text
    simp only [counts, Bool.not_and, Bool.not_not, ← decide_not, Int.not_le]
  unfold block?
  dsimp only
  rw [hpassed]
  change (if (!counts o language (windowText o language content start)) = true then none else some _) = _
  cases counts o language (windowText o language content start) <;> rfl

theorem blocks_eq : blocks o fileId path language content =
    ((windowStarts (lines content).length (windowSize o language)).filter fun start =>
      counts o language (windowText o language content start)).map (windowBlock o fileId path language content) := by
  unfold blocks
  dsimp only
  induction windowStarts (lines content).length (windowSize o language) with
  | nil => rfl
  | cons start l ih =>
    rw [List.filterMap_cons, block?_eq]
    by_cases h : counts o language (windowText o language content start) = true
    · simp [h, ih]
    · simp [h, ih]

theorem nodup_map_key_blocks : ((blocks o fileId path language content).map Block.key).Nodup := by
  rw [blocks_eq, List.map_map]
  refine ((nodup_windowStarts _ _).filter _).map fun m n h => ?_
  have hline : (m + 1 : Int) = n + 1 := congrArg Prod.snd h
  omega

theorem fileId_of_mem_blocks {b : Block} (hb : b ∈ blocks o fileId path language content) : b.fileId = fileId := by
  rw [blocks_eq] at hb
  obtain ⟨start, -, rfl⟩ := List.mem_map.1 hb
  rfl

theorem windowText_nil (start : Nat) : windowText o language [] start = [] := by
  have hsub : (slice start (min (start + windowSize o language) 1) [([] : List Char)]).Sublist [[]] :=
    (List.drop_sublist _ _).trans (List.take_sublist _ _)
  change unlines (slice start (min (start + windowSize o language) 1) [[]]) = []
  rcases List.sublist_singleton.1 hsub with h | h <;> rw [h] <;> rfl

end

/-! ## Windows that fit -/

theorem one_le_windowSize {o : Options} (h : 1 ≤ o.minBlockSize) (language : List Char) :
    1 ≤ windowSize o language := by
  unfold windowSize
  split <;> omega

theorem slice_eq_take_drop {α : Type} {l : List α} {start b : Nat} (h : start + b ≤ l.length) :
    slice start (start + b : Int) l = (l.drop start).take b := by
  have hstart : clampIndex l.length start = start := by
    rw [clampIndex, if_neg (by omega)]
    omega
  have hstop : clampIndex l.length (start + b : Int) = start + b := by
    rw [clampIndex, if_neg (by omega)]
    omega
  rw [slice, hstart, hstop, List.drop_take, Nat.add_sub_cancel_left]

def joinedLines (content : List Char) (start count : Nat) : List Char :=
  unlines (((lines content).drop start).take count)

theorem windowText_eq {o : Options} {language content : List Char} {b i : Nat} (hb : windowSize o language = b)
    (hi : i + b ≤ (lines content).length) :
    windowText o language content i = joinedLines content i b := by
  unfold windowText
  dsimp only
  rw [hb, min_eq_left (by omega), slice_eq_take_drop hi, joinedLines]

/-- The windows of a text that the search looks at, and those that it keeps. -/
theorem blocks_windows (o : Options) (hsize : 1 ≤ o.minBlockSize) (fileId : Json) (path : Option String)
    (language content : List Char) :
    ∃ b s n : Nat, windowSize o language = b ∧ s = max 1 (b / 2) ∧ n = (lines content).length ∧
      (∀ i, i ∈ windowStarts n b ↔ s ∣ i ∧ i + b ≤ n) ∧ (windowStarts n b).Pairwise (· < ·) ∧
      (b ≤ n → ∀ k, 1 ≤ k → k ≤ n → ((∃ i ∈ windowStarts n b, i < k ∧ k ≤ i + b) ↔ k + (n - b) % s ≤ n)) ∧
      (∀ j i i', (windowStarts n b)[j]? = some i → (windowStarts n b)[j + 1]? = some i' →
        #(Finset.Ioc i (i + b) ∩ Finset.Ioc i' (i' + b)) = b - s) ∧
      (∀ x ∈ blocks o fileId path language content, ∃ i ∈ windowStarts n b,
        x.startLine = i + 1 ∧ x.endLine = i + b ∧ x.content = joinedLines content i b) ∧
      (blocks o fileId path language content).Pairwise (fun x y => x.startLine < y.startLine) ∧
      ∀ i ∈ windowStarts n b, (∃ c ∈ joinedLines content i b, isBlank c = false) →
        o.minTokens ≤ (tokens (.ofLanguage language) (joinedLines content i b)).length →
        ∃ x ∈ blocks o fileId path language content, x.startLine = i + 1 := by
  have hone := one_le_windowSize hsize language
  obtain ⟨b, hb⟩ := Int.eq_ofNat_of_zero_le (show 0 ≤ windowSize o language by omega)
  have hpos : 1 ≤ b := by omega
  have hfits : ∀ {i}, i ∈ windowStarts (lines content).length b → i + b ≤ (lines content).length := fun h =>
    (mem_windowStarts_natCast_iff.1 h).2
  refine ⟨b, windowStep b, (lines content).length, hb, windowStep_natCast b, rfl, fun i => mem_windowStarts_natCast_iff,
    pairwise_windowStarts _ _, fun hle k hk _ => exists_window_iff hpos hle hk, fun j i i' =>
    card_overlap hpos, ?_, ?_, ?_⟩
  · intro x hx
    rw [blocks_eq, hb] at hx
    obtain ⟨i, hi, rfl⟩ := List.mem_map.1 hx
    have hi := (List.mem_filter.1 hi).1
    refine ⟨i, hi, rfl, ?_, windowText_eq hb (hfits hi)⟩
    have := hfits hi
    show min (i + windowSize o language) ((lines content).length : Int) = i + b
    omega
  · rw [blocks_eq, List.pairwise_map]
    refine ((pairwise_windowStarts _ _).filter _).imp fun {i j} hij => ?_
    show (i : Int) + 1 < j + 1
    omega
  · rintro i hi ⟨c, hc, hblank⟩ htokens
    refine ⟨windowBlock o fileId path language content i, ?_, rfl⟩
    rw [blocks_eq, hb]
    refine List.mem_map_of_mem (List.mem_filter.2 ⟨hi, ?_⟩)
    rw [windowText_eq hb (hfits hi), counts, Bool.and_eq_true, decide_eq_true_eq, Bool.not_eq_true',
      ← Bool.not_eq_true, isBlankText, List.all_eq_true]
    exact ⟨fun hall => by simp [hall c hc] at hblank, htokens⟩

/-- Of eight lines, windows of five leave out the last one. -/
theorem blocks_windows_eight : ¬ ∃ i ∈ windowStarts 8 5, i < 8 ∧ 8 ≤ i + 5 := by
  obtain ⟨b, s, n, hb, rfl, rfl, -, -, hcover, -⟩ :=
    blocks_windows ⟨5, 0.8, 0⟩ (by decide) .null none "python".toList "a\nb\nc\nd\ne\nf\ng\nh".toList
  obtain rfl : b = 5 := by
    have hfive : (5 : Int) = b := hb
    omega
  exact fun h => absurd ((hcover (by decide) 8 (by decide) (by decide)).1 h) (by decide)

end CodeSurvey.Duplicate
