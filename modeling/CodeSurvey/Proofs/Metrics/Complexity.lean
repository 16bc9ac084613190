/-
Complexity of a text from the complexities of its parts. The decisions in a text are those of its lines, so the parts
before and behind a line feed add up (`complexity_append_feed`). The one exception is `PERFORM UNTIL` in COBOL, whose
two words may stand on both sides.
-/
import CodeSurvey.Proofs.Metrics.LineCount
import CodeSurvey.Proofs.Pattern.Linewise
import Mathlib.Data.List.Nodup
import Mathlib.Data.List.TakeWhile

namespace CodeSurvey.Metrics

open Pattern Text

/-! ## Words at the ends of a text -/

/-- Does the text begin with the word? -/
def startsWord (w t : List Char) : Bool := w.isPrefixOf t && (t.drop w.length).head?.all fun c => !isWord c

def endsWord (w t : List Char) : Bool := startsWord w.reverse t.reverse

theorem startsWord_iff {w t : List Char} :
    startsWord w t = true ↔ ∃ r, t = w ++ r ∧ ∀ c ∈ r.head?, isWord c = false := by
  rw [startsWord, Bool.and_eq_true, List.isPrefixOf_iff_prefix]
  constructor
  · rintro ⟨⟨r, rfl⟩, hedge⟩
    exact ⟨r, rfl, by simpa [Option.all_eq_true] using hedge⟩
  · rintro ⟨r, rfl, hedge⟩
    exact ⟨List.prefix_append w r, by simpa [Option.all_eq_true] using hedge⟩

theorem endsWord_iff {w t : List Char} :
    endsWord w t = true ↔ ∃ u, t = u ++ w ∧ ∀ c ∈ u.getLast?, isWord c = false := by
  rw [endsWord, startsWord_iff]
  constructor
  · rintro ⟨r, ht, hedge⟩
    exact ⟨r.reverse, by rw [← List.reverse_inj, ht]; simp, by simpa using hedge⟩
  · rintro ⟨u, rfl, hedge⟩
    exact ⟨u.reverse, by simp, by simpa using hedge⟩

/-- What follows a line feed is no part of the word in front. -/
theorem startsWord_append_feed {w : List Char} (hw : '\n' ∉ w) (t b : List Char) :
    startsWord w (t ++ '\n' :: b) = startsWord w t := by
  rw [Bool.eq_iff_iff, startsWord_iff, startsWord_iff]
  constructor
  · rintro ⟨r, hr, hedge⟩
    obtain ⟨r', rfl⟩ := isPrefix_of_append_cons hw ⟨r, hr.symm⟩
    obtain rfl : r' ++ '\n' :: b = r := by simpa using hr
    refine ⟨r', rfl, fun c hc => hedge c ?_⟩
    cases r' with
    | nil => cases hc
    | cons => exact hc
  · rintro ⟨r, rfl, hedge⟩
    refine ⟨r ++ '\n' :: b, List.append_assoc .., ?_⟩
    cases r with
    | nil => simp [isWord_feed]
    | cons => exact hedge

/-! ## Decisions within a line, and one of two words -/

/-- The loop of COBOL, whose words may stand on different lines. -/
def performUntil : Pattern := wordEdge ++ lit "PERFORM" ++ blanks1 ++ lit "UNTIL" ++ wordEdge

theorem linewise_of_mem_decisions {lang : Language} {d : Decision} (hd : d ∈ decisions lang) :
    d.label ≠ "PERFORM_UNTIL" ∧ d.pattern.Linewise ∨ d = ⟨"PERFORM_UNTIL", performUntil⟩ := by
  cases lang with
  | python =>
    obtain ⟨w, hw, rfl⟩ := List.mem_map.1 hd
    have hall : ∀ w ∈ ["if", "elif", "for", "while", "except", "case", "and", "or"], w ≠ "PERFORM_UNTIL" ∧
        '\n' ∉ w.toList := by decide
    exact .inl ⟨(hall w hw).1, linewise_word (hall w hw).2⟩
  | c =>
    refine .inl ?_
    rcases List.mem_append.1 hd with hd | hd
    · obtain ⟨w, hw, rfl⟩ := List.mem_map.1 hd
      have hall : ∀ w ∈ ["if", "for", "while", "do", "case"], w ≠ "PERFORM_UNTIL" ∧ '\n' ∉ w.toList := by decide
      exact ⟨(hall w hw).1, linewise_word (hall w hw).2⟩
    · simp only [List.mem_cons, List.not_mem_nil, or_false] at hd
      rcases hd with rfl | rfl | rfl <;> exact ⟨by decide, linewise_ofChars (by decide)⟩
  | cobol =>
    simp only [decisions, List.mem_cons, List.not_mem_nil, or_false] at hd
    rcases hd with rfl | rfl | rfl | hd
    · exact .inl ⟨by decide, linewise_word (by decide)⟩
    · exact .inl ⟨by decide, linewise_word (by decide)⟩
    · exact .inr rfl
    · rcases hd with rfl | rfl <;> exact .inl ⟨by decide, linewise_word (by decide)⟩
  | assembly =>
    refine .inl ?_
    simp only [decisions, List.mem_cons, List.not_mem_nil, or_false] at hd
    rcases hd with rfl | rfl | rfl | rfl
    · have hletters : (plus fun c => 'A' ≤ c && c ≤ 'Z').Linewise :=
        (linewise_one (by decide)).seq (linewise_star (by decide))
      exact ⟨by decide, ((linewise_wordEdge.seq (linewise_ofChars (by decide))).seq hletters).seq linewise_wordEdge⟩
    all_goals exact ⟨by decide, linewise_word (by decide)⟩

theorem reaches_performUntil_iff {c d : Cursor} : performUntil.Reaches c d ↔ c.atWordEdge = true ∧
    ∃ s r, c.after = "PERFORM".toList ++ (s ++ ("UNTIL".toList ++ r)) ∧ s ≠ [] ∧ (∀ a ∈ s, isBlank a = true) ∧
      (∀ a ∈ r.head?, isWord a = false) ∧ d = c.past ("PERFORM".toList ++ s ++ "UNTIL".toList) r := by
  have hedge : ∀ s r, (c.past ("PERFORM".toList ++ s ++ "UNTIL".toList) r).atWordEdge = true ↔
      ∀ a ∈ r.head?, isWord a = false := by
    intro s r
    have hlast : "PERFORM".toList ++ s ++ "UNTIL".toList = "PERFORM".toList ++ s ++ "UNTI".toList ++ ['L'] := by simp
    rw [hlast]
    exact Cursor.atWordEdge_past_iff (by decide)
  constructor
  · rintro ⟨e, ⟨f, ⟨g, ⟨h, ⟨hstart, rfl⟩, hperform⟩, hblanks⟩, huntil⟩, hend, rfl⟩
    obtain ⟨_, r, hr, rfl, rfl⟩ := (spells_lit "PERFORM" _ _).1 hperform
    obtain ⟨s, r', hr', ⟨hne, hblank⟩, rfl⟩ := (spells_plus isBlank _ _).1 hblanks
    obtain ⟨_, r'', hr'', rfl, rfl⟩ := (spells_lit "UNTIL" _ _).1 huntil
    obtain rfl : r = s ++ r' := hr'
    obtain rfl : r' = "UNTIL".toList ++ r'' := hr''
    simp only [Cursor.past_past] at hend ⊢
    exact ⟨hstart, s, r'', hr, hne, hblank, (hedge s r'').1 hend, rfl⟩
  · rintro ⟨hstart, s, r, hr, hne, hblank, hnext, rfl⟩
    have hpast : c.past ("PERFORM".toList ++ s ++ "UNTIL".toList) r =
        ((c.past "PERFORM".toList (s ++ ("UNTIL".toList ++ r))).past s ("UNTIL".toList ++ r)).past
          "UNTIL".toList r := by simp
    refine ⟨_, ⟨_, ⟨_, ⟨c, ⟨hstart, rfl⟩, (spells_lit "PERFORM" _ _).2 ⟨_, _, hr, rfl, rfl⟩⟩,
      (spells_plus isBlank _ _).2 ⟨s, _, rfl, ⟨hne, hblank⟩, rfl⟩⟩,
      (spells_lit "UNTIL" _ _).2 ⟨_, r, rfl, rfl, hpast⟩⟩, (hedge s r).2 hnext, rfl⟩

/-- At the place `i`, at the border of a word, stands `PERFORM`, and the next word is `UNTIL`. -/
structure PerformsAt (t : List Char) (i : Nat) : Prop where
  edge : ∀ c ∈ (t.take i).getLast?, isWord c = false
  words : ∃ r, t.drop i = "PERFORM".toList ++ r ∧ (∃ c ∈ r.head?, isBlank c = true) ∧
    startsWord "UNTIL".toList (stripLeft r) = true

theorem stripLeft_append_of_all {s : List Char} (hs : ∀ a ∈ s, isBlank a = true) (t : List Char) :
    stripLeft (s ++ t) = stripLeft t :=
  List.dropWhile_append_of_pos hs

theorem isSome_matchAt?_performUntil_iff {t : List Char} {i : Nat} :
    (performUntil.matchAt? (.inText t i)).isSome = true ↔ PerformsAt t i := by
  have hstart : ∀ r, t.drop i = "PERFORM".toList ++ r →
      ((Cursor.inText t i).atWordEdge = true ↔ ∀ c ∈ (t.take i).getLast?, isWord c = false) := by
    intro r hr
    rw [Cursor.atWordEdge_iff (a := 'P') hr (by decide), Cursor.inText, List.head?_reverse]
  rw [isSome_matchAt?_iff]
  constructor
  · rintro ⟨d, hd⟩
    obtain ⟨hedge, s, r, hr, hne, hblank, hnext, -⟩ := reaches_performUntil_iff.1 hd
    refine ⟨(hstart _ hr).1 hedge, _, hr, ?_, startsWord_iff.2 ⟨r, ?_, hnext⟩⟩
    · obtain ⟨a, s, rfl⟩ := List.exists_cons_of_ne_nil hne
      exact ⟨a, rfl, hblank a List.mem_cons_self⟩
    · rw [stripLeft_append_of_all hblank]
      exact List.dropWhile_cons_of_neg (show ¬ isBlank 'U' = true by decide)
  · rintro ⟨hedge, r, hr, ⟨a, ha, hblank⟩, hwords⟩
    obtain ⟨r', hr', hnext⟩ := startsWord_iff.1 hwords
    have hsplit : r = r.takeWhile isBlank ++ ("UNTIL".toList ++ r') := by
      rw [← hr']
      exact List.takeWhile_append_dropWhile.symm
    refine ⟨_, reaches_performUntil_iff.2 ⟨(hstart r hr).2 hedge, r.takeWhile isBlank, r', ?_, ?_, ?_, hnext, rfl⟩⟩
    · rw [← hsplit]
      exact hr
    · cases r with
      | nil => cases ha
      | cons b r =>
        obtain rfl : b = a := Option.some.inj ha
        simp [hblank]
    · exact fun c hc => List.mem_takeWhile_imp hc

theorem count_performUntil (t : List Char) :
    performUntil.count t = (List.range t.length).countP fun i => (performUntil.matchAt? (.inText t i)).isSome := by
  refine count_eq_countP (noOverlap_of_head (a := 'P') ?_ t) ?_
  · -- a match has its only `P` in front, so no other one begins within it
    intro c d h
    obtain ⟨-, s, r, hr, -, hblank, -, rfl⟩ := reaches_performUntil_iff.1 h
    refine ⟨"ERFORM".toList ++ s ++ "UNTIL".toList, r, by rw [hr]; simp, ?_, by simp [Cursor.past]; omega⟩
    have hs : 'P' ∉ s := fun hP => absurd (hblank 'P' hP) (by decide)
    simpa using hs
  · intro c d h
    obtain ⟨-, s, r, -, -, -, -, rfl⟩ := reaches_performUntil_iff.1 h
    simp [Cursor.past]

/-! ## Both sides of a line feed -/

/-- The text ends, but for white space, with `PERFORM` at the place `i`, at the border of a word. -/
structure PerformsLast (t : List Char) (i : Nat) : Prop where
  edge : ∀ c ∈ (t.take i).getLast?, isWord c = false
  word : ∃ s, t.drop i = "PERFORM".toList ++ s ∧ ∀ c ∈ s, isBlank c = true

theorem performsLast_iff {t : List Char} {i : Nat} :
    PerformsLast t i ↔ endsWord "PERFORM".toList (stripRight t) = true ∧ i + 7 = (stripRight t).length := by
  rw [endsWord_iff]
  constructor
  · rintro ⟨hedge, s, hs, hblank⟩
    have ht : t = t.take i ++ "PERFORM".toList ++ s := by rw [List.append_assoc, ← hs, List.take_append_drop]
    have hi : i ≤ t.length := by
      refine Nat.le_of_lt (Nat.lt_of_not_le fun hle => ?_)
      rw [List.drop_eq_nil_of_le hle] at hs
      cases hs
    have hstrip : stripRight t = t.take i ++ "PERFORM".toList := calc
      stripRight t = stripRight (t.take i ++ "PERFORM".toList ++ s) := congrArg stripRight ht
      _ = t.take i ++ "PERFORM".toList := stripRightBy_append (by simp [isBlank]) hblank
    exact ⟨⟨t.take i, hstrip, hedge⟩, by simp [hstrip, hi]⟩
  · rintro ⟨⟨u, hu, hedge⟩, hi⟩
    obtain ⟨s, hs, hblank⟩ := exists_eq_stripRightBy_append isBlank t
    obtain rfl : i = u.length := by
      rw [hu] at hi
      simpa using hi
    have ht : t = u ++ ("PERFORM".toList ++ s) := by rw [← List.append_assoc, ← hu]; exact hs
    rw [ht]
    exact ⟨by simpa using hedge, s, by simp, hblank⟩

/-- A word at the start of a text, behind white space and a line feed, is on either side of the line feed. -/
theorem startsWord_stripLeft_append_feed {w : List Char} (hne : w ≠ []) (hw : '\n' ∉ w) (s b : List Char) :
    startsWord w (stripLeft (s ++ '\n' :: b)) = true ↔
      startsWord w (stripLeft s) = true ∨ (∀ c ∈ s, isBlank c = true) ∧ startsWord w (stripLeft b) = true := by
  by_cases hs : ∀ c ∈ s, isBlank c = true
  · have hempty : stripLeft s = [] := List.dropWhile_eq_nil_iff.2 hs
    have hnot : startsWord w [] = false := by
      obtain ⟨c, w, rfl⟩ := List.exists_cons_of_ne_nil hne
      rfl
    rw [stripLeft_append_of_all hs, hempty, hnot]
    exact ⟨fun h => .inr ⟨hs, h⟩, fun h => h.resolve_left Bool.false_ne_true |>.2⟩
  · have hfull : ¬ (List.dropWhile isBlank s).isEmpty = true :=
      fun h => hs (List.dropWhile_eq_nil_iff.1 (List.isEmpty_iff.1 h))
    rw [stripLeft, stripLeftBy, List.dropWhile_append, if_neg hfull, startsWord_append_feed hw]
    exact ⟨.inl, fun h => h.resolve_right fun hr => hs hr.1⟩

/-- In front of a line feed, the words are both before it, or one on each side. -/
theorem performsAt_append_feed_iff {a b : List Char} {i : Nat} (hi : i < a.length) :
    PerformsAt (a ++ '\n' :: b) i ↔ PerformsAt a i ∨ PerformsLast a i ∧
      startsWord "UNTIL".toList (stripLeft b) = true := by
  have htake : (a ++ '\n' :: b).take i = a.take i := List.take_append_of_le_length hi.le
  have hdrop : (a ++ '\n' :: b).drop i = a.drop i ++ '\n' :: b := List.drop_append_of_le_length hi.le
  have huntil : ∀ s, startsWord "UNTIL".toList (stripLeft (s ++ '\n' :: b)) = true ↔ _ :=
    fun s => startsWord_stripLeft_append_feed (by decide) (by decide) s b
  constructor
  · rintro ⟨hedge, r, hr, hgap, hr'⟩
    rw [htake] at hedge
    rw [hdrop] at hr
    obtain ⟨s, hs⟩ := isPrefix_of_append_cons (by decide) ⟨r, hr.symm⟩
    obtain rfl : s ++ '\n' :: b = r := by simpa [← hs] using hr
    rcases (huntil s).1 hr' with h | ⟨hblank, h⟩
    · refine .inl ⟨hedge, s, hs.symm, ?_, h⟩
      cases s with
      | nil => exact absurd h (by decide)
      | cons c s => exact hgap
    · exact .inr ⟨⟨hedge, s, hs.symm, hblank⟩, h⟩
  · rintro (⟨hedge, s, hs, ⟨c, hc, hblank⟩, h⟩ | ⟨⟨hedge, s, hs, hblank⟩, h⟩)
    · refine ⟨by rwa [htake], s ++ '\n' :: b, by rw [hdrop, hs, List.append_assoc], ⟨c, ?_, hblank⟩,
        (huntil s).2 (.inl h)⟩
      exact List.head?_append_of_ne_nil s (List.ne_nil_of_mem (List.mem_of_mem_head? hc)) ▸ hc
    · refine ⟨by rwa [htake], s ++ '\n' :: b, by rw [hdrop, hs, List.append_assoc], ?_, (huntil s).2 (.inr ⟨hblank, h⟩)⟩
      cases s with
      | nil => exact ⟨'\n', rfl, by decide⟩
      | cons c s => exact ⟨c, rfl, hblank c List.mem_cons_self⟩

theorem not_performsAt_feed (a b : List Char) : ¬ PerformsAt (a ++ '\n' :: b) a.length := by
  rintro ⟨-, r, hr, -⟩
  rw [List.drop_left] at hr
  cases hr

theorem performsAt_behind_feed_iff {a b : List Char} {j : Nat} :
    PerformsAt (a ++ '\n' :: b) (a.length + (j + 1)) ↔ PerformsAt b j := by
  have hdrop : (a ++ '\n' :: b).drop (a.length + (j + 1)) = b.drop j := by simp
  have htake : (a ++ '\n' :: b).take (a.length + (j + 1)) = a ++ '\n' :: b.take j := by simp [List.take_append]
  have hedge : (∀ c ∈ (a ++ '\n' :: b.take j).getLast?, isWord c = false) ↔
      ∀ c ∈ (b.take j).getLast?, isWord c = false := by
    rw [List.getLast?_append_cons, List.getLast?_cons]
    cases (b.take j).getLast? with
    | none => simp [isWord_feed]
    | some c => rfl
  constructor
  · rintro ⟨hleft, hwords⟩
    rw [htake] at hleft
    rw [hdrop] at hwords
    exact ⟨hedge.1 hleft, hwords⟩
  · rintro ⟨hleft, hwords⟩
    refine ⟨?_, ?_⟩
    · rw [htake]
      exact hedge.2 hleft
    · rw [hdrop]
      exact hwords

theorem PerformsAt.not_performsLast {t : List Char} {i : Nat} (h : PerformsAt t i) : ¬ PerformsLast t i := by
  rintro ⟨-, s, hs, hblank⟩
  obtain ⟨r, hr, -, huntil⟩ := h.words
  obtain rfl := List.append_cancel_left (hr.symm.trans hs)
  rw [stripLeft, stripLeftBy, List.dropWhile_eq_nil_iff.2 hblank] at huntil
  cases huntil

/-- Does the one text end with `PERFORM` and the other one begin with `UNTIL`, but for white space? -/
def splitsPerform (a b : List Char) : Bool :=
  endsWord "PERFORM".toList (stripRight a) && startsWord "UNTIL".toList (stripLeft b)

/-- Is the place that of a `PERFORM` at the end of the one text, whose `UNTIL` is in the other one? -/
def splitsPerformAt (a b : List Char) (i : Nat) : Bool := splitsPerform a b && i + 7 == (stripRight a).length

theorem splitsPerformAt_iff {a b : List Char} {i : Nat} :
    splitsPerformAt a b i = true ↔ PerformsLast a i ∧ startsWord "UNTIL".toList (stripLeft b) = true := by
  rw [splitsPerformAt, splitsPerform, performsLast_iff, Bool.and_eq_true, Bool.and_eq_true, beq_iff_eq, and_right_comm]

theorem countP_splitsPerformAt (a b : List Char) :
    (List.range a.length).countP (splitsPerformAt a b) = (splitsPerform a b).toNat := by
  cases hsplit : splitsPerform a b with
  | false => simp [splitsPerformAt, hsplit]
  | true =>
    obtain ⟨u, hu, -⟩ := endsWord_iff.1 (Bool.and_eq_true_iff.1 hsplit).1
    have hplace : splitsPerformAt a b = fun i => i == u.length := by
      funext i
      simp [splitsPerformAt, hsplit, hu]
    have hlt : u.length < a.length := by
      have hle : (stripRight a).length ≤ a.length := (stripRightBy_isPrefix isBlank a).length_le
      rw [hu, List.length_append] at hle
      exact Nat.lt_of_lt_of_le (Nat.lt_add_of_pos_right (by decide)) hle
    rw [hplace]
    exact List.count_eq_one_of_mem List.nodup_range (List.mem_range.2 hlt)

theorem count_performUntil_append_feed (a b : List Char) :
    performUntil.count (a ++ '\n' :: b) = performUntil.count a + performUntil.count b + (splitsPerform a b).toNat := by
  have hleft : (List.range a.length).countP (fun i => (performUntil.matchAt? (.inText a i)).isSome) +
      (List.range a.length).countP (splitsPerformAt a b) =
        (List.range a.length).countP fun i => (performUntil.matchAt? (.inText (a ++ '\n' :: b) i)).isSome := by
    have htally : ∀ x y z : Bool, (z = true ↔ x = true ∨ y = true) → (x = true → ¬ y = true) →
        x.toNat + y.toNat = z.toNat := by decide
    -- a place with both words in `a` is not the last word of `a`, so none is counted twice
    refine countP_add_countP fun i hi => htally _ _ _ ?_ fun h hlast => ?_
    · rw [isSome_matchAt?_performUntil_iff, isSome_matchAt?_performUntil_iff, splitsPerformAt_iff]
      exact performsAt_append_feed_iff (List.mem_range.1 hi)
    · exact (isSome_matchAt?_performUntil_iff.1 h).not_performsLast (splitsPerformAt_iff.1 hlast).1
  have hmiddle : (performUntil.matchAt? (.inText (a ++ '\n' :: b) a.length)).isSome = false := by
    rw [Bool.eq_false_iff]
    exact mt isSome_matchAt?_performUntil_iff.1 (not_performsAt_feed a b)
  have hright : ∀ j, (performUntil.matchAt? (.inText (a ++ '\n' :: b) (a.length + (j + 1)))).isSome =
      (performUntil.matchAt? (.inText b j)).isSome := by
    intro j
    rw [Bool.eq_iff_iff, isSome_matchAt?_performUntil_iff, isSome_matchAt?_performUntil_iff]
    exact performsAt_behind_feed_iff
  -- the places are those of `a`, that of the line feed and those of `b`
  have hlength : (a ++ '\n' :: b).length = a.length + (b.length + 1) := by simp
  rw [count_performUntil, count_performUntil, count_performUntil, hlength, List.range_add, List.countP_append, ← hleft,
    countP_splitsPerformAt, List.countP_map, List.range_succ_eq_map, List.countP_cons, List.countP_map]
  simp only [Function.comp_def, Nat.add_zero, hmiddle, hright, Bool.false_eq_true, if_false]
  exact Nat.add_right_comm ..

/-! ## The complexity -/

theorem total_map_add {α : Type} {f g h : α → Nat} {l : List α} (hf : ∀ x ∈ l, f x = g x + h x) :
    total (l.map f) = total (l.map g) + total (l.map h) := by
  induction l with
  | nil => rfl
  | cons x l ih =>
    have hx := hf x List.mem_cons_self
    have hl := ih fun y hy => hf y (List.mem_cons_of_mem x hy)
    simp only [total, List.map_cons, List.foldr_cons] at hl ⊢
    omega

theorem decisionText_append_feed (lang : Language) (a b : List Char) :
    decisionText lang (a ++ '\n' :: b) = decisionText lang a ++ '\n' :: decisionText lang b := by
  cases lang with
  | python | c => rfl
  | cobol | assembly => exact List.flatMap_append

/-- The counts of a kind of decision add up, and one is added for a decision on both sides of the line feed. -/
theorem count_append_feed {lang : Language} {d : Decision} (hd : d ∈ decisions lang) (a b : List Char) :
    d.pattern.count (a ++ '\n' :: b) =
      d.pattern.count a + (d.pattern.count b + (d.label == "PERFORM_UNTIL" && splitsPerform a b).toNat) := by
  rcases linewise_of_mem_decisions hd with ⟨hlabel, hlines⟩ | rfl
  · simp [hlabel, hlines.count_append_feed]
  · simp [count_performUntil_append_feed, Nat.add_assoc]

theorem total_splitsPerform (lang : Language) (a b : List Char) :
    total ((decisions lang).map fun d => (d.label == "PERFORM_UNTIL" && splitsPerform a b).toNat) =
      (lang == .cobol && splitsPerform a b).toNat := by
  cases lang <;> cases splitsPerform a b <;> rfl

theorem complexity_some (lang : Language) (t : List Char) :
    complexity (some lang) t = 1 + total ((decisions lang).map fun d => d.pattern.count (decisionText lang t)) := by
  rw [complexity, decisionCounts, List.map_map]
  rfl

theorem filter_decisionCounts (lang : Language) (t : List Char) :
    (decisionCounts lang t).filter (fun e => e.1 ≠ "base" ∧ e.1 ≠ "comprehensions_for_if") = decisionCounts lang t := by
  have hlabel : ∀ l ∈ (decisions lang).map Decision.label, l ≠ "base" ∧ l ≠ "comprehensions_for_if" := by
    cases lang <;> decide
  refine List.filter_eq_self.2 fun e he => decide_eq_true ?_
  obtain ⟨d, hd, rfl⟩ := List.mem_map.1 he
  exact hlabel d.label (List.mem_map_of_mem hd)

/-- The complexities of the texts on both sides of a line feed add up but for the one path that is counted in both, with
one more path for a `PERFORM UNTIL` in COBOL of which each side has one word. In each text, the counts that are listed
add up to the complexity, except for that of the comprehensions. -/
theorem complexity_append_feed (lang : Option Language) (a b : List Char) :
    complexity lang (a ++ '\n' :: b) =
        complexity lang a + complexity lang b - 1 + (if lang = some .cobol ∧
          splitsPerform (upper a) (upper b) = true then 1 else 0) ∧
      ∀ t, complexity lang t =
        1 + total (((complexityBreakdown lang t).filter fun e => e.1 ≠ "base" ∧
          e.1 ≠ "comprehensions_for_if").map (·.2)) := by
  cases lang with
  | none => exact ⟨rfl, fun _ => rfl⟩
  | some lang =>
    constructor
    · have hone : (lang == .cobol && splitsPerform (decisionText lang a) (decisionText lang b)).toNat =
          if some lang = some .cobol ∧ splitsPerform (upper a) (upper b) = true then 1 else 0 := by
        cases lang with
        | cobol =>
          show (splitsPerform (upper a) (upper b)).toNat = _
          cases splitsPerform (upper a) (upper b) <;> rfl
        | _ => rfl
      rw [complexity_some, complexity_some, complexity_some, decisionText_append_feed,
        total_map_add fun d hd => count_append_feed hd _ _, total_map_add fun _ _ => rfl, total_splitsPerform, hone]
      omega
    · intro t
      have hrest : (if lang = .python then [("comprehensions_for_if", filteredComprehension.count t)] else []).filter
          (fun e => e.1 ≠ "base" ∧ e.1 ≠ "comprehensions_for_if") = [] := by
        split <;> rfl
      rw [complexityBreakdown, List.filter_cons_of_neg (by simp), List.filter_append, filter_decisionCounts, hrest,
        List.append_nil]
      rfl

example : splitsPerform "MOVE 1 TO X. PERFORM ".toList "  UNTIL X > 9".toList = true := by decide

end CodeSurvey.Metrics
