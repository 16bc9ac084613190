/-
The two notions of a line compared. The lines under all line boundaries are those that line feeds end in the text with a
line feed for every boundary (`boundaryLines_eq`): each line that a line feed ends falls into the pieces between its
other boundaries (`lines_leveled`). So both notions agree up to the first line that holds another boundary
(`take_feedLines_leveled`).
-/
import CodeSurvey.Proofs.Text.Piece

namespace CodeSurvey.Text

def leveled (t : List Char) : List Char := t.map fun c => if isLineBoundary c then '\n' else c

/-- Takes away an empty line at the end, which nothing has ended. -/
def withoutOpen : List (List Char) → List (List Char)
  | [] => []
  | [l] => if l.isEmpty then [] else [l]
  | l :: m :: ls => l :: withoutOpen (m :: ls)

/-- The lines of a text that line feeds end; the last one need not be ended. -/
def feedLines (t : List Char) : List (List Char) := withoutOpen (lines t)

def IsUnbroken (l : List Char) : Prop := ∀ c ∈ l, isLineBoundary c = false

/-! ## Lines that are not ended -/

theorem withoutOpen_append {ls ms : List (List Char)} (hms : ms ≠ []) :
    withoutOpen (ls ++ ms) = ls ++ withoutOpen ms := by
  induction ls with
  | nil => rfl
  | cons l ls ih =>
    obtain ⟨m, rest, hrest⟩ := List.exists_cons_of_ne_nil (List.append_ne_nil_of_right_ne_nil ls hms)
    rw [List.cons_append, List.cons_append, ← ih, hrest]
    rfl

theorem mem_of_mem_withoutOpen {l : List Char} {ls : List (List Char)} (h : l ∈ withoutOpen ls) : l ∈ ls := by
  fun_induction withoutOpen ls with
  | case1 => exact h
  | case2 => exact absurd h List.not_mem_nil
  | case3 => exact h
  | case4 m m' ls ih =>
    rcases List.mem_cons.1 h with rfl | h
    · exact List.mem_cons_self
    · exact List.mem_cons_of_mem m (ih h)

/-- A line with something in it keeps its place. -/
theorem getElem?_withoutOpen {l : List Char} {ls : List (List Char)} {i : Nat} (h : ls[i]? = some l) (hl : l ≠ []) :
    (withoutOpen ls)[i]? = some l := by
  fun_induction withoutOpen ls generalizing i with
  | case1 => exact h
  | case2 m hm =>
    cases i with
    | zero =>
      obtain rfl : m = l := by simpa using h
      exact absurd (List.isEmpty_iff.1 hm) hl
    | succ i => simp at h
  | case3 => exact h
  | case4 m m' ls ih =>
    cases i with
    | zero => exact h
    | succ i => exact ih h

theorem feedLines_ne_nil {t : List Char} (h : t ≠ []) : feedLines t ≠ [] := by
  obtain ⟨c, t, rfl⟩ := List.exists_cons_of_ne_nil h
  obtain ⟨l, ls, hls⟩ := List.exists_cons_of_ne_nil (splitOnChar_ne_nil '\n' t)
  unfold feedLines lines
  rw [splitOnChar_cons, hls]
  by_cases hc : c = '\n'
  · simp [splitStep, hc, withoutOpen]
  · cases ls <;> simp [splitStep, hc, withoutOpen]

theorem mem_unlines {c : Char} {ls : List (List Char)} :
    c ∈ unlines ls ↔ (∃ l ∈ ls, c ∈ l) ∨ c = '\n' ∧ 1 < ls.length := by
  show c ∈ ['\n'].intercalate ls ↔ _
  induction ls with
  | nil => simp
  | cons l ls ih =>
    cases ls with
    | nil => simp [List.intercalate_singleton]
    | cons m ls =>
      rw [List.intercalate_cons_cons, List.mem_append, List.mem_append, List.mem_singleton, ih]
      simp only [List.mem_cons, exists_eq_or_imp, List.length_cons]
      constructor
      · rintro ((h | h) | h | h)
        · exact .inl (.inl h)
        · exact .inr ⟨h, by omega⟩
        · exact .inl (.inr h)
        · exact .inr ⟨h.1, by omega⟩
      · rintro ((h | h) | h)
        · exact .inl (.inl h)
        · exact .inr (.inl h)
        · exact .inl (.inr h.1)

/-! ## Lines put together -/

theorem unlines_lines (t : List Char) : unlines (lines t) = t := by
  induction t with
  | nil => rfl
  | cons c t ih =>
    obtain ⟨l, ls, hls⟩ := List.exists_cons_of_ne_nil (splitOnChar_ne_nil '\n' t)
    rw [lines, hls] at ih
    rw [lines, splitOnChar_cons, hls, splitStep]
    split
    · rename_i hc
      rw [unlines, joinWith_cons_cons, ← unlines, ih, eq_of_beq hc]
      rfl
    · rw [unlines, joinWith_cons_char, ← unlines, ih]

theorem lines_unlines {ls : List (List Char)} (hne : ls ≠ []) (h : ∀ l ∈ ls, '\n' ∉ l) : lines (unlines ls) = ls := by
  induction ls with
  | nil => exact absurd rfl hne
  | cons l ls ih =>
    obtain ⟨hl, hls⟩ := List.forall_mem_cons.1 h
    cases ls with
    | nil => simpa [unlines, joinWith, lines] using splitOnChar_of_not_mem hl
    | cons m ls =>
      rw [unlines, joinWith_cons_cons, List.singleton_append, lines, splitOnChar_append hl, ← lines, ← unlines,
        ih (by simp) hls]

theorem wordsBy_unlines {blank : Char → Bool} (hfeed : blank '\n' = true) (ls : List (List Char)) :
    wordsBy blank (unlines ls) = ls.flatMap (wordsBy blank) := by
  induction ls with
  | nil => rfl
  | cons l ls ih =>
    cases ls with
    | nil => simp [unlines, joinWith]
    | cons m ls =>
      rw [unlines, joinWith_cons_cons, List.singleton_append, wordsBy_append_cons hfeed, ← unlines, ih]
      rfl

/-! ## Leveled texts -/

theorem lines_feed (t : List Char) : lines ('\n' :: t) = [] :: lines t := splitOnChar_append List.not_mem_nil

theorem leveled_cons (c : Char) (t : List Char) :
    leveled (c :: t) = (if isLineBoundary c then '\n' else c) :: leveled t := rfl

theorem leveled_of_isUnbroken {l : List Char} (h : IsUnbroken l) : leveled l = l := by
  unfold leveled
  rw [List.map_congr_left fun c hc => if_neg (Bool.not_eq_true _ ▸ h c hc), List.map_id']

/-- A line feed parts the lines before it from those behind it. -/
theorem lines_append_feed (a b : List Char) : lines (a ++ '\n' :: b) = lines a ++ lines b := splitOnChar_append_cons a b

theorem feedLines_append_feed {w : List Char} (hw : '\n' ∉ w) (t : List Char) :
    feedLines (w ++ '\n' :: t) = w :: feedLines t := by
  rw [feedLines, lines, splitOnChar_append hw, ← List.singleton_append, withoutOpen_append (splitOnChar_ne_nil _ _)]
  rfl

theorem feedLines_of_not_mem {w : List Char} (hw : '\n' ∉ w) : feedLines w = if w.isEmpty then [] else [w] := by
  rw [feedLines, lines, splitOnChar_of_not_mem hw, withoutOpen]

/-- Each line that a line feed ends falls into the pieces between its other boundaries. -/
theorem lines_leveled (t : List Char) : lines (leveled t) = (lines t).flatMap fun l => lines (leveled l) := by
  induction t with
  | nil => rfl
  | cons c t ih =>
    by_cases hfeed : c = '\n'
    · subst hfeed
      have hboundary : leveled ('\n' :: t) = '\n' :: leveled t := rfl
      rw [hboundary, lines_feed, lines_feed, ih]
      rfl
    · -- the character belongs to the first line of the rest
      obtain ⟨l, ls, hls⟩ := List.exists_cons_of_ne_nil (splitOnChar_ne_nil '\n' t)
      have hlines : lines (c :: t) = (c :: l) :: ls := by
        rw [lines, splitOnChar_cons, hls]
        simp [splitStep, hfeed]
      have hrest : lines t = l :: ls := hls
      rw [hrest, List.flatMap_cons] at ih
      rw [hlines, List.flatMap_cons, leveled_cons, leveled_cons, lines, lines, splitOnChar_cons, splitOnChar_cons,
        ← splitStep_append (splitOnChar_ne_nil _ _)]
      exact congrArg _ ih

theorem mem_of_mem_lines {c : Char} {l t : List Char} (hl : l ∈ lines t) (hc : c ∈ l) : c ∈ t := by
  induction t generalizing l with
  | nil =>
    obtain rfl := List.mem_singleton.1 hl
    exact hc
  | cons d t ih =>
    obtain ⟨m, ms, hms⟩ := List.exists_cons_of_ne_nil (splitOnChar_ne_nil '\n' t)
    have hrest : lines t = m :: ms := hms
    rw [lines, splitOnChar_cons, hms] at hl
    rw [hrest] at ih
    unfold splitStep at hl
    dsimp only at hl
    split at hl
    · rcases List.mem_cons.1 hl with rfl | hl
      · cases hc
      · exact List.mem_cons_of_mem d (ih hl hc)
    · rcases List.mem_cons.1 hl with rfl | hl
      · rcases List.mem_cons.1 hc with rfl | hc
        · exact List.mem_cons_self
        · exact List.mem_cons_of_mem d (ih List.mem_cons_self hc)
      · exact List.mem_cons_of_mem d (ih (List.mem_cons_of_mem m hl) hc)

theorem isUnbroken_of_mem_feedLines_leveled {l t : List Char} (h : l ∈ feedLines (leveled t)) : IsUnbroken l := by
  have hl := mem_of_mem_withoutOpen h
  intro c hc
  obtain ⟨d, -, hd⟩ := List.mem_map.1 (mem_of_mem_lines hl hc)
  split at hd
  · exact absurd (hd ▸ hc) (not_mem_of_mem_splitOnChar hl)
  · rename_i hboundary
    exact hd ▸ Bool.eq_false_iff.2 hboundary

/-! ## Lines under all boundaries -/

/-- Of the boundaries, only a carriage return takes a line feed along. -/
theorem boundaryLinesFrom_cons {c : Char} (hc : c ≠ '\r') (cur : List Char) (acc : List (List Char)) (t : List Char) :
    boundaryLinesFrom cur acc (c :: t) =
      if isLineBoundary c then boundaryLinesFrom [] (cur.reverse :: acc) t else boundaryLinesFrom (c :: cur) acc t := by
  rw [boundaryLinesFrom]
  exact fun _ hreturn => absurd hreturn hc

/-- The lines that are read on from a place, where `cur` has been read of the first of them. -/
theorem reverse_boundaryLinesFrom {t : List Char} (ht : '\r' ∉ t) :
    ∀ cur acc l ls, lines (leveled t) = l :: ls →
      (boundaryLinesFrom cur acc t).reverse = acc.reverse ++ withoutOpen ((cur.reverse ++ l) :: ls) := by
  induction t with
  | nil =>
    intro cur acc l ls h
    obtain ⟨rfl, rfl⟩ : [] = l ∧ [] = ls := by simpa [lines, splitOnChar, leveled] using h
    cases cur <;> simp [boundaryLinesFrom, withoutOpen]
  | cons c t ih =>
    intro cur acc l ls h
    obtain ⟨m, ms, hms⟩ := List.exists_cons_of_ne_nil (splitOnChar_ne_nil '\n' (leveled t))
    have ih := fun cur acc => ih (fun hmem => ht (List.mem_cons_of_mem c hmem)) cur acc m ms hms
    rw [boundaryLinesFrom_cons fun hc => ht (hc ▸ List.mem_cons_self)]
    rw [leveled_cons] at h
    split at h
    · -- the boundary ends the line, and the next one begins
      rename_i hboundary
      rw [lines_feed, lines, hms] at h
      cases h
      rw [if_pos hboundary, ih]
      simp [withoutOpen]
    · rename_i hboundary
      have hfeed : c ≠ '\n' := fun hc => hboundary (hc ▸ by decide)
      have hlines : lines (c :: leveled t) = (c :: m) :: ms := by
        rw [lines, splitOnChar_cons, hms]
        simp [splitStep, hfeed]
      rw [hlines] at h
      cases h
      rw [if_neg hboundary, ih]
      simp

/-- In a text without carriage returns, the lines under all boundaries are those that line feeds end, where every
boundary is one. -/
theorem boundaryLines_eq {t : List Char} (ht : '\r' ∉ t) : boundaryLines t = feedLines (leveled t) := by
  obtain ⟨l, ls, hls⟩ := List.exists_cons_of_ne_nil (splitOnChar_ne_nil '\n' (leveled t))
  have hlines : lines (leveled t) = l :: ls := hls
  rw [boundaryLines, reverse_boundaryLinesFrom ht [] [] l ls hlines, feedLines, hlines]
  rfl

theorem flatMap_lines_leveled_ne_nil (l : List Char) (ls : List (List Char)) :
    ((l :: ls).flatMap fun l => lines (leveled l)) ≠ [] := by
  rw [List.flatMap_cons]
  exact List.append_ne_nil_of_left_ne_nil (splitOnChar_ne_nil _ _) _

/-- A line boundary that is no line feed only makes more lines. -/
theorem length_feedLines_le (t : List Char) : (feedLines t).length ≤ (feedLines (leveled t)).length := by
  unfold feedLines
  rw [lines_leveled]
  generalize lines t = ls
  fun_induction withoutOpen ls with
  | case1 => simp
  | case2 => simp
  | case3 l hl =>
    have hne : feedLines (leveled l) ≠ [] := feedLines_ne_nil (by simpa [leveled] using hl)
    rw [List.flatMap_singleton]
    exact List.length_pos_iff.2 hne
  | case4 l m ls ih =>
    have hl : 0 < (lines (leveled l)).length := List.length_pos_iff.2 (splitOnChar_ne_nil _ _)
    rw [List.flatMap_cons, withoutOpen_append (flatMap_lines_leveled_ne_nil m ls), List.length_append, List.length_cons]
    omega

/-- Both notions of a line agree up to the first line in which another boundary stands. -/
theorem take_feedLines_leveled {t : List Char} {n : Nat} (h : ∀ l ∈ (feedLines t).take n, IsUnbroken l) :
    (feedLines (leveled t)).take n = (feedLines t).take n := by
  have hown : ∀ l ∈ lines t, IsUnbroken l → lines (leveled l) = [l] := by
    intro l hl hunbroken
    rw [leveled_of_isUnbroken hunbroken, lines_of_mem_lines hl]
  unfold feedLines at h ⊢
  rw [lines_leveled]
  generalize lines t = ls at h hown
  -- a line without other boundaries is its own only piece, so the lines are compared one by one
  fun_induction withoutOpen ls generalizing n with
  | case1 => rfl
  | case2 l hl =>
    rw [List.isEmpty_iff.1 hl]
    rfl
  | case3 l hl =>
    cases n with
    | zero => rfl
    | succ n =>
      rw [List.flatMap_singleton, hown l List.mem_cons_self (h l (by simp)), withoutOpen, if_neg hl]
  | case4 l m ls ih =>
    cases n with
    | zero => rfl
    | succ n =>
      rw [List.take_succ_cons, List.forall_mem_cons] at h
      rw [List.flatMap_cons, hown l List.mem_cons_self h.1, withoutOpen_append (flatMap_lines_leveled_ne_nil m ls),
        List.singleton_append, List.take_succ_cons, List.take_succ_cons,
        ih h.2 fun k hk => hown k (List.mem_cons_of_mem l hk)]

/-! ## Unified line ends -/

theorem not_mem_unifyFrom {acc t : List Char} (hacc : '\r' ∉ acc) : '\r' ∉ unifyFrom acc t := by
  fun_induction unifyFrom acc t with
  | case1 => exact hacc
  | case2 acc r ih => exact ih (by simp [hacc])
  | case3 acc c r _ ih =>
    refine ih ?_
    by_cases hc : c = '\r'
    · simp [hc, hacc]
    · simp [hc, hacc, Ne.symm hc]

theorem not_mem_unifyNewlines (t : List Char) : '\r' ∉ unifyNewlines t := by
  unfold unifyNewlines
  rw [List.mem_reverse]
  exact not_mem_unifyFrom List.not_mem_nil

theorem unifyFrom_eq {acc t : List Char} (h : '\r' ∉ t) : unifyFrom acc t = t.reverse ++ acc := by
  fun_induction unifyFrom acc t with
  | case1 => rfl
  | case2 => simp at h
  | case3 acc c r _ ih =>
    rw [List.mem_cons, not_or] at h
    rw [ih h.2]
    simp [Ne.symm h.1]

theorem unifyNewlines_of_not_mem {t : List Char} (h : '\r' ∉ t) : unifyNewlines t = t := by
  rw [unifyNewlines, unifyFrom_eq h, List.append_nil, List.reverse_reverse]

/-! ## Capitals -/

theorem feed_mem_upperChar_iff {c : Char} : '\n' ∈ upperChar c ↔ c = '\n' := by
  have hcode : ∀ m, Char.ofNat m = '\n' → m = 10 := by
    intro m h
    by_cases hvalid : m.isValidChar
    · have hm : Char.ofNat m = Char.ofNatAux m hvalid := dif_pos hvalid
      exact congrArg Char.toNat (hm.symm.trans h)
    · have hm : Char.ofNat m = Char.ofNat 0 := dif_neg hvalid
      exact absurd (hm.symm.trans h) (by decide)
  unfold upperChar
  split
  · rename_i hascii
    have hall : ∀ n : Fin 128, '\n' ∈ [(Char.ofNat n).toUpper] ↔ Char.ofNat n = '\n' := by decide
    simpa using hall ⟨c.toNat, hascii⟩
  · rename_i hascii
    have hne : c ≠ '\n' := by
      rintro rfl
      exact hascii (by decide)
    simp only [hne, iff_false]
    split
    · rename_i l hfind
      have hall : upperExpansions.toList.all fun x => !x.2.contains 10 := by decide +kernel
      have hl := List.all_eq_true.1 hall _ (Array.mem_toList_iff.2 (Array.mem_of_find?_eq_some hfind))
      rintro hmem
      obtain ⟨m, hm, hn⟩ := List.mem_map.1 hmem
      obtain rfl := hcode m hn
      simp [hm] at hl
    · split
      · rename_i m hfind
        have hall : upperRuns.toList.all fun r => decide (10 < (r.first : Int) + r.shift) := by decide +kernel
        obtain ⟨r, hr, himage⟩ := Array.exists_of_findSome?_eq_some hfind
        have hbound := List.all_eq_true.1 hall r (Array.mem_toList_iff.2 hr)
        unfold CaseRun.image? at himage
        split at himage
        · rename_i hin
          simp only [Bool.and_eq_true, decide_eq_true_eq, beq_iff_eq] at hin hbound
          cases himage
          rw [List.mem_singleton]
          intro hn
          have := hcode _ hn.symm
          simp only [Int.ofNat_eq_natCast] at this
          omega
        · cases himage
      · rw [List.mem_singleton]
        exact Ne.symm hne

theorem lines_append_of_not_mem {w t l : List Char} {ls : List (List Char)} (hw : '\n' ∉ w) (h : lines t = l :: ls) :
    lines (w ++ t) = (w ++ l) :: ls := by
  induction w with
  | nil => exact h
  | cons c w ih =>
    rw [List.mem_cons, not_or] at hw
    rw [lines] at ih ⊢
    rw [List.cons_append, splitOnChar_cons, ih hw.2]
    simp [splitStep, Ne.symm hw.1]

/-- The lines of a text in capitals are its lines in capitals. -/
theorem lines_upper (t : List Char) : lines (upper t) = (lines t).map upper := by
  induction t with
  | nil => rfl
  | cons c t ih =>
    have hupper : upper (c :: t) = upperChar c ++ upper t := rfl
    by_cases hfeed : c = '\n'
    · subst hfeed
      have hown : upperChar '\n' = ['\n'] := by decide
      rw [hupper, hown, List.singleton_append, lines_feed, lines_feed, ih]
      rfl
    · obtain ⟨l, ls, hls⟩ := List.exists_cons_of_ne_nil (splitOnChar_ne_nil '\n' t)
      have hlines : lines t = l :: ls := hls
      have hrest := lines_append_of_not_mem (w := [c]) (by simpa using Ne.symm hfeed) hlines
      rw [hlines] at ih
      rw [hupper, lines_append_of_not_mem (fun h => hfeed (feed_mem_upperChar_iff.1 h)) ih]
      rw [List.singleton_append] at hrest
      rw [hrest]
      rfl

end CodeSurvey.Text
