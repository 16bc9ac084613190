/-
Comments and the tokens of a source text. A comment up to the end of a line that is put behind any line changes no
tokens, whatever its text says (`tokens_withComment`).

Where a line is cut before its comment, the comment put in leaves at most a blank at the end of its line. Blanks there
are seen neither by the search for what stands between two marks (`IsBlind`) nor by the search for words
(`Padded.wordsBy_eq`). In COBOL the lines with a star in front go first, and a comment behind a blank line makes such a
line of it: the text is read line by line (`words_cobol`).
-/
import CodeSurvey.Duplicate.Token
import CodeSurvey.Proofs.Pattern.Cut
import CodeSurvey.Proofs.Pattern.Linewise
import CodeSurvey.Proofs.Text.Lines
import Mathlib.Data.List.Forall2
import Mathlib.Data.List.TakeWhile

namespace CodeSurvey.Duplicate

open Text Pattern

/-! ## What stands between marks -/

def behind? (mark : List Char) : List Char → Option (List Char)
  | [] => none
  | a :: r => if mark.isPrefixOf (a :: r) then some ((a :: r).drop mark.length) else behind? mark r

/-- What stands behind two marks and the text between them. -/
def behindBoth? (opening closing t : List Char) : Option (List Char) :=
  if opening.isPrefixOf t then behind? closing (t.drop opening.length) else none

theorem firstStop_literal {closing : List Char} (hne : closing ≠ []) (groups : List (Nat × List Char))
    (t before : List Char) (index : Nat) :
    (Cursor.firstStop (fun _ => true) groups (fun d => (ofChars closing).run some d) t before index).map Cursor.after =
      behind? closing t := by
  induction t generalizing before index with
  | nil =>
    obtain ⟨a, closing, rfl⟩ := List.exists_cons_of_ne_nil hne
    rw [Cursor.firstStop, run_ofChars]
    rfl
  | cons a t ih =>
    rw [Cursor.firstStop, run_ofChars, behind?]
    by_cases h : closing.isPrefixOf (a :: t) = true
    · simp [h]
    · simpa [h] using ih (a :: before) (index + 1)

theorem map_after_between {opening closing : String} (hne : closing.toList ≠ []) (c : Cursor) :
    ((between opening closing).matchAt? c).map Cursor.after = behindBoth? opening.toList closing.toList c.after := by
  have hrun : (between opening closing).matchAt? c = (ofChars opening.toList).run (fun d =>
      Cursor.firstStop (fun _ => true) d.groups (fun e => (ofChars closing.toList).run some e) d.after d.before
      d.index) c := rfl
  rw [hrun, run_ofChars, behindBoth?]
  split
  · exact firstStop_literal hne _ _ _ _
  · rfl

/-! ## Blanks at the ends of lines -/

/-- The second text is the first one with blanks put in at the ends of lines. -/
inductive Padded : List Char → List Char → Prop
  | nil : Padded [] []
  | cons (a : Char) {t u : List Char} (h : Padded t u) : Padded (a :: t) (a :: u)
  | pad {t u : List Char} (hfeed : AtFeed t) (h : Padded t u) : Padded t (' ' :: u)

/-- The second line is the first one, or the first one with a blank behind it. -/
def Trails (l m : List Char) : Prop := m = l ∨ m = l ++ [' ']

/-- A mark that no blank and no line feed is part of. -/
structure IsMark (mark : List Char) : Prop where
  ne_nil : mark ≠ []
  blank : ' ' ∉ mark
  feed : '\n' ∉ mark

instance (mark : List Char) : Decidable (IsMark mark) :=
  decidable_of_iff (mark ≠ [] ∧ ' ' ∉ mark ∧ '\n' ∉ mark) ⟨fun h => ⟨h.1, h.2.1, h.2.2⟩, fun h => ⟨h.ne_nil,
    h.blank, h.feed⟩⟩

theorem isPrefixOf_cons_of_not_mem {a : Char} {mark : List Char} (hne : mark ≠ []) (ha : a ∉ mark) (t : List Char) :
    mark.isPrefixOf (a :: t) = false := by
  obtain ⟨c, mark, rfl⟩ := List.exists_cons_of_ne_nil hne
  rw [List.mem_cons, not_or] at ha
  simp [List.isPrefixOf, Ne.symm ha.1]

theorem isPrefixOf_of_atFeed {mark t : List Char} (hne : mark ≠ []) (hfeed : '\n' ∉ mark) (hat : AtFeed t) :
    mark.isPrefixOf t = false := by
  cases t with
  | nil =>
    obtain ⟨c, mark, rfl⟩ := List.exists_cons_of_ne_nil hne
    rfl
  | cons a t =>
    obtain rfl := hat a rfl
    exact isPrefixOf_cons_of_not_mem hne hfeed t

theorem trails_upToFirst {mark l s : List Char} (hmark : IsMark mark) (hs : upToFirst mark s = []) :
    Trails (upToFirst mark l) (upToFirst mark (l ++ ' ' :: s)) := by
  by_cases h : mark <:+: l
  · exact .inl (upToFirst_append_of_isInfix h _)
  · right
    rw [upToFirst_append_cons hmark.blank hmark.ne_nil h, hs, upToFirst_of_not_isInfix h]

theorem Trails.upToFirst {mark l m : List Char} (hmark : IsMark mark) (h : Trails l m) :
    Trails (upToFirst mark l) (upToFirst mark m) := by
  rcases h with rfl | rfl
  · exact .inl rfl
  · exact trails_upToFirst hmark (by unfold Text.upToFirst; split <;> simp)

namespace Padded

variable {t u : List Char}

theorem append_left (l : List Char) (h : Padded t u) : Padded (l ++ t) (l ++ u) := by
  induction l with
  | nil => exact h
  | cons a l ih => exact .cons a ih

theorem of_trails {l m : List Char} (hl : Trails l m) (hfeed : AtFeed t) (h : Padded t u) :
    Padded (l ++ t) (m ++ u) := by
  rcases hl with rfl | rfl
  · exact h.append_left m
  · rw [List.append_assoc]
    exact (h.pad hfeed).append_left l

theorem unlines {ls ms : List (List Char)} (h : List.Forall₂ Trails ls ms) : Padded (unlines ls) (unlines ms) := by
  induction h with
  | nil => exact .nil
  | @cons l m ls ms hl h ih =>
    cases h with
    | nil => simpa [Text.unlines, joinWith] using of_trails hl (by simp [AtFeed]) .nil
    | cons hm h =>
      rw [Text.unlines, Text.unlines, joinWith_cons_cons, joinWith_cons_cons]
      exact of_trails hl (by simp [AtFeed]) (.cons _ ih)

theorem wordsBy_eq {blank : Char → Bool} (hspace : blank ' ' = true) (hfeed : blank '\n' = true) (h : Padded t u) :
    wordsBy blank u = wordsBy blank t := by
  have hfold : u.foldr (wordStep blank) ([], []) = t.foldr (wordStep blank) ([], []) := by
    induction h with
    | nil => rfl
    | cons a h ih => rw [List.foldr_cons, List.foldr_cons, ih]
    | @pad t u hat h ih =>
      rw [List.foldr_cons, ih, wordStep, if_pos hspace]
      cases t with
      | nil => rfl
      | cons a t =>
        obtain rfl := hat a rfl
        rw [List.foldr_cons, wordStep, if_pos hfeed]
        rfl
  rw [wordsBy, hfold, wordsBy]

theorem isPrefixOf_eq {mark : List Char} (hblank : ' ' ∉ mark) (hfeed : '\n' ∉ mark) (h : Padded t u) :
    mark.isPrefixOf u = mark.isPrefixOf t ∧
    (mark.isPrefixOf t = true → Padded (t.drop mark.length) (u.drop mark.length)) := by
  induction mark generalizing t u with
  | nil => exact ⟨by simp, fun _ => h⟩
  | cons c mark ih =>
    cases h with
    | nil => simp
    | @cons a t u h =>
      rw [List.mem_cons, not_or] at hblank hfeed
      obtain ⟨heq, hdrop⟩ := ih hblank.2 hfeed.2 h
      refine ⟨by rw [List.isPrefixOf, List.isPrefixOf, heq], fun hp => ?_⟩
      rw [List.isPrefixOf, Bool.and_eq_true] at hp
      exact hdrop hp.2
    | @pad _ u hat h =>
      have ht := isPrefixOf_of_atFeed (List.cons_ne_nil c mark) hfeed hat
      exact ⟨by rw [ht, isPrefixOf_cons_of_not_mem (List.cons_ne_nil c mark) hblank], fun hp => by simp [ht] at hp⟩

end Padded

/-- Does a search that tells what stands behind what it finds see no blanks at the ends of lines? -/
structure IsBlind (f : List Char → Option (List Char)) : Prop where
  rel : ∀ {t u}, Padded t u → Option.Rel Padded (f t) (f u)
  feed : ∀ {t}, AtFeed t → f t = none
  short : ∀ t, f t ≠ some t

theorem Padded.behind? {mark t u : List Char} (hmark : IsMark mark) (h : Padded t u) :
    Option.Rel Padded (behind? mark t) (behind? mark u) := by
  induction h with
  | nil => exact .none
  | @cons a t u h ih =>
    obtain ⟨heq, hdrop⟩ := (h.cons a).isPrefixOf_eq hmark.blank hmark.feed
    rw [Duplicate.behind?, Duplicate.behind?, heq]
    split
    · rename_i hp
      exact .some (hdrop hp)
    · exact ih
  | @pad t u hat h ih =>
    rw [Duplicate.behind?.eq_def mark (' ' :: u)]
    simpa [isPrefixOf_cons_of_not_mem hmark.ne_nil hmark.blank] using ih

theorem behind?_length {mark t r : List Char} (hne : mark ≠ []) (h : behind? mark t = some r) :
    r.length < t.length := by
  fun_induction behind? mark t with
  | case1 => cases h
  | case2 a t hp =>
    obtain rfl := Option.some.inj h
    have := List.length_pos_iff.2 hne
    rw [List.length_drop, List.length_cons]
    omega
  | case3 a t hp ih => exact (ih h).trans (Nat.lt_succ_self _)

theorem behindBoth?_ne {opening closing : List Char} (hne : closing ≠ []) (t : List Char) :
    behindBoth? opening closing t ≠ some t := by
  intro h
  unfold behindBoth? at h
  split at h
  · have := behind?_length hne h
    rw [List.length_drop] at this
    omega
  · cases h

theorem isBlind_behindBoth? {opening closing : List Char} (ho : IsMark opening) (hc : IsMark closing) :
    IsBlind (behindBoth? opening closing) where
  rel := by
    intro t u h
    obtain ⟨heq, hdrop⟩ := h.isPrefixOf_eq ho.blank ho.feed
    rw [behindBoth?, behindBoth?, heq]
    split
    · rename_i hp
      exact (hdrop hp).behind? hc
    · exact .none
  feed := by
    intro t hat
    rw [behindBoth?, isPrefixOf_of_atFeed ho.ne_nil ho.feed hat]
    rfl
  short := behindBoth?_ne hc.ne_nil

theorem IsBlind.or {f g : List Char → Option (List Char)} (hf : IsBlind f) (hg : IsBlind g) :
    IsBlind fun t => (f t).or (g t) where
  rel := by
    intro t u h
    have hrel := hf.rel h
    generalize f t = x at hrel
    generalize f u = y at hrel
    cases hrel with
    | some h => exact .some h
    | none => exact hg.rel h
  feed := by
    intro t hat
    simp [hf.feed hat, hg.feed hat]
  short := by
    intro t h
    rcases Option.or_eq_some_iff.1 h with h | ⟨-, h⟩
    · exact hf.short t h
    · exact hg.short t h

/-- What is left of a text without its matches has blanks more only at the ends of lines. The induction is along the
longer text. -/
theorem Padded.struck {f : List Char → Option (List Char)} (hf : IsBlind f) {before before' t u s s' : List Char}
    (h : Padded t u) (ht : Struck (fun _ t r => f t = some r) before t s)
    (hu : Struck (fun _ t r => f t = some r) before' u s') : Padded s s' := by
  induction hu generalizing before t s with
  | nil =>
    cases h
    rw [ht.eq_nil]
    exact .nil
  | @keep before' u s' a hno hu ih =>
    have hrel := hf.rel h
    rw [Option.eq_none_iff_forall_not_mem.2 hno] at hrel
    have hnone : ∀ v, ¬ f t = some v := by
      intro v hv
      rw [hv] at hrel
      cases hrel
    cases h with
    | cons _ h =>
      obtain ⟨s, rfl, hs⟩ := ht.exists_cons hnone
      exact .cons a (ih h hs)
    | pad hat h =>
      -- the blank stands before a line feed, which no match has taken away
      refine .pad ?_ (ih h ht)
      cases t with
      | nil => rw [ht.eq_nil]; exact hat
      | cons b t =>
        obtain ⟨s, rfl, -⟩ := ht.exists_cons hnone
        exact hat
  | @word before' w r s' hw _ hu ih =>
    have hrel := hf.rel h
    rw [hw] at hrel
    cases t with
    | nil =>
      rw [hf.feed (by simp [AtFeed])] at hrel
      cases hrel
    | cons b t =>
      generalize hv : f (b :: t) = x at hrel
      cases hrel with
      | some hpad =>
        obtain ⟨_, v, -, hv', ht⟩ := ht.exists_of_match hv
        obtain rfl := Option.some.inj (hv'.symm.trans hv)
        exact ih hpad ht

/-- Blanks at the ends of lines are in no word, also where what stands between marks is taken away. -/
theorem wordsBy_replaceAll {p : Pattern} {f : List Char → Option (List Char)} (hf : IsBlind f)
    (hp : ∀ c, (p.matchAt? c).map Cursor.after = f c.after) {blank : Char → Bool}
    (hspace : blank ' ' = true) (hfeed : blank '\n' = true) {t u : List Char} (h : Padded t u) :
    wordsBy blank (p.replaceAll [] u) = wordsBy blank (p.replaceAll [] t) := by
  have hleaves : p.Leaves fun _ t r => f t = some r := by
    intro before t index r
    show _ ↔ f t = some r
    rw [show f t = _ from (hp ⟨before, t, index, []⟩).symm, Option.map_eq_some_iff]
  have hstruck := struck_replaceAll hleaves fun _ t => hf.short t
  exact (h.struck hf (hstruck t) (hstruck u)).wordsBy_eq hspace hfeed

/-! ## Lines with a star in front -/

/-- Behind the start of a line, blanks and a star, the rest of the line with the star goes. -/
def StarLeaves (before t r : List Char) : Prop :=
  AtFeed before ∧ ∃ x, t.dropWhile isBlank = '*' :: x ∧ r = x.dropWhile (· != '\n')

theorem atLineStart_iff (c : Cursor) : c.atLineStart = true ↔ AtFeed c.before := by
  unfold Cursor.atLineStart AtFeed
  cases c.before <;> simp

theorem leaves_starredLine : starredLine.Leaves StarLeaves := by
  have hend : ∀ c d, starredLine.matchAt? c = some d → StarLeaves c.before c.after d.after := by
    intro c d hd
    obtain ⟨e, ⟨e₂, ⟨e₁, ⟨hstart, rfl⟩, ⟨u, r, hu, hblank, rfl⟩⟩, hstar⟩, hrest⟩ :=
      (lineStart ++ blanks ++ lit "*").run_spec.1 (fun e => rest.run some e) c d hd
    obtain ⟨w, x, hw, rfl, rfl⟩ := (spells_lit "*" _ _).1 hstar
    rw [rest, run_star_some] at hrest
    obtain rfl := Option.some.inj hrest
    refine ⟨(atLineStart_iff _).1 hstart, x, ?_, rfl⟩
    rw [hu, List.dropWhile_append_of_pos hblank, show r = '*' :: x from hw]
    rfl
  intro before t index r
  constructor
  · rintro ⟨d, hd, rfl⟩
    exact hend _ _ hd
  · rintro ⟨hat, x, hx, rfl⟩
    have hsplit : t = t.takeWhile isBlank ++ '*' :: x := by rw [← hx, List.takeWhile_append_dropWhile]
    have hreach : starredLine.Reaches ⟨before, t, index, []⟩ _ :=
      ⟨_, ⟨_, ⟨_, ⟨(atLineStart_iff _).2 hat, rfl⟩, ⟨_, _, hsplit, fun a ha => List.mem_takeWhile_imp ha, rfl⟩⟩,
        (spells_lit "*" _ _).2 ⟨['*'], x, rfl, rfl, rfl⟩⟩, ⟨[], x, rfl, by simp, rfl⟩⟩
    obtain ⟨d, hd⟩ := Option.isSome_iff_exists.1 (isSome_matchAt?_iff.2 ⟨_, hreach⟩)
    obtain ⟨-, x', hx', hafter⟩ := hend _ _ hd
    obtain ⟨-, rfl⟩ := List.cons.inj (hx.symm.trans hx')
    exact ⟨d, hd, hafter⟩

/-- Is the first character of the line that is not a blank a star? -/
def isStarred (l : List Char) : Bool := (stripLeft l).head? == some '*'

/-- The words of a COBOL line without the comment at its end. -/
def cobolWords (l : List Char) : List (List Char) :=
  (wordsBy (fun c => !inRun .cobol c) (upToFirst "*>".toList l)).flatMap (runWords .cobol)

theorem reaches_cobolWord {c d : Cursor} (h : cobolWord.Reaches c d) :
    ∃ a r, c.after = a :: r ∧ (a.isUpper || a.isDigit || a == '-' || isDecimal a) = true := by
  rcases h with ⟨e, ⟨e', ⟨-, rfl⟩, he⟩, -⟩ | h
  · obtain ⟨w, r, hw, ⟨hne, hall⟩, -⟩ := (spells_plus _ _ _).1 he
    obtain ⟨a, w, rfl⟩ := List.exists_cons_of_ne_nil hne
    exact ⟨a, w ++ r, hw, by simp [hall a List.mem_cons_self]⟩
  · obtain ⟨w, r, hw, ⟨hne, hall⟩, -⟩ := (spells_plus _ _ _).1 h
    obtain ⟨a, w, rfl⟩ := List.exists_cons_of_ne_nil hne
    exact ⟨a, w ++ r, hw, by simp [hall a List.mem_cons_self]⟩

theorem cobolWords_of_blank {l : List Char} (h : ∀ c ∈ l, isBlank c = true) : cobolWords l = [] := by
  rw [cobolWords, List.flatMap_eq_nil_iff]
  intro w hw
  have hblank : ∀ c ∈ w, isBlank c = true :=
    fun c hc => h c ((upToFirst_isPrefix _ l).subset (mem_of_mem_wordsBy hw hc))
  have hfind : cobolWord.findAll w = [] := by
    refine findAll_eq_nil fun i d hd => ?_
    obtain ⟨a, r, ha, hclass⟩ := reaches_cobolWord hd
    have hmem : a ∈ w.drop i := by simp [show w.drop i = a :: r from ha]
    have hnone := of_isBlank (p := fun a => !(a.isUpper || a.isDigit || a == '-' || isDecimal a)) (by decide +kernel)
      (hblank a (List.mem_of_mem_drop hmem))
    simp [hclass] at hnone
  rw [runWords, texts, hfind]
  rfl

theorem isStarred_iff {l : List Char} : isStarred l = true ↔ ∃ x, l.dropWhile isBlank = '*' :: x := by
  unfold isStarred stripLeft stripLeftBy
  cases l.dropWhile isBlank <;> simp

/-- Blank lines and a starred line have no words. -/
theorem flatMap_lines_of_blank {u v : List Char} (hu : ∀ c ∈ u, isBlank c = true) (hv : '\n' ∉ v) :
    ((lines (u ++ '*' :: v)).flatMap fun l => if isStarred l then [] else cobolWords l) = [] := by
  have hlines : ∀ l ∈ lines (u ++ '*' :: v), isStarred l = true ∨ ∀ c ∈ l, isBlank c = true := by
    induction u with
    | nil =>
      rw [List.nil_append, lines, splitOnChar_of_not_mem (by simpa using hv)]
      simp [isStarred, stripLeft, stripLeftBy, isBlank]
    | cons c u ih =>
      obtain ⟨hc, hu⟩ := List.forall_mem_cons.1 hu
      have hrest := ih hu
      by_cases hfeed : c = '\n'
      · rw [hfeed, List.cons_append, lines_feed]
        exact List.forall_mem_cons.2 ⟨.inr (by simp), hrest⟩
      · obtain ⟨l, ls, hls⟩ := List.exists_cons_of_ne_nil (splitOnChar_ne_nil '\n' (u ++ '*' :: v))
        have hadd := lines_append_of_not_mem (w := [c]) (by simpa using Ne.symm hfeed) hls
        rw [List.singleton_append] at hadd
        rw [lines, hls] at hrest
        rw [List.cons_append, hadd]
        obtain ⟨hl, hrest⟩ := List.forall_mem_cons.1 hrest
        refine List.forall_mem_cons.2 ⟨hl.imp (fun hl => ?_) fun hl => List.forall_mem_cons.2 ⟨hc, hl⟩, hrest⟩
        rw [isStarred_iff] at hl ⊢
        rwa [List.singleton_append, List.dropWhile_cons_of_pos hc]
  rw [List.flatMap_eq_nil_iff]
  intro l hl
  split
  · rfl
  · rename_i hnot
    exact cobolWords_of_blank ((hlines l hl).resolve_left hnot)


theorem not_starLeaves {u before t r : List Char} (hu : '\n' ∉ u) (hne : u ≠ []) :
    ¬ StarLeaves (u.reverse ++ before) t r := by
  rintro ⟨hat, -⟩
  obtain ⟨u, a, rfl⟩ := (List.eq_nil_or_concat u).resolve_left hne
  obtain rfl := hat a (by simp)
  simp at hu

theorem atFeed_dropWhile (x : List Char) : AtFeed (x.dropWhile (· != '\n')) := by
  intro c hc
  have hhead := List.head?_dropWhile_not (· != '\n') x
  rw [hc] at hhead
  simpa using hhead

/-- At the end of a line where no match begins, the line feed stays. -/
theorem exists_feed_of_struck {M : List Char → List Char → List Char → Prop} {before r s : List Char}
    (h : Struck M before r s) (hat : AtFeed r) (hno : ∀ v, ¬ M before r v) :
    r = [] ∧ s = [] ∨ ∃ r' s', r = '\n' :: r' ∧ s = '\n' :: s' ∧ Struck M ('\n' :: before) r' s' := by
  cases r with
  | nil => exact .inl ⟨rfl, h.eq_nil⟩
  | cons a r =>
    obtain rfl := hat a rfl
    obtain ⟨s', rfl, hs⟩ := h.exists_cons hno
    exact .inr ⟨r, s', rfl, rfl, hs⟩

/-- The words of a COBOL text without its comments, line by line. The induction is on the length of the text, since a
match takes blank lines along with a starred one. -/
theorem flatMap_lines_of_struck {before t s : List Char} (h : Struck StarLeaves before t s) (hat : AtFeed before) :
    (lines s).flatMap cobolWords = (lines t).flatMap fun l => if isStarred l then [] else cobolWords l := by
  induction hn : t.length using Nat.strong_induction_on generalizing before t s with
  | _ n ih =>
    subst hn
    have hfeed : ∀ b : List Char, AtFeed ('\n' :: b) := fun b => by simp [AtFeed]
    by_cases hmatch : ∃ v, StarLeaves before t v
    · -- the match ends before the feed of the starred line, so the walk goes on at the start of a line
      obtain ⟨v, hv⟩ := hmatch
      obtain ⟨a, t, rfl⟩ : ∃ a t', t = a :: t' := by
        refine List.exists_cons_of_ne_nil ?_
        rintro rfl
        obtain ⟨-, x, hx, -⟩ := hv
        cases hx
      obtain ⟨w, r, hw, ⟨-, x, hx, hr⟩, hs⟩ := h.exists_of_match hv
      have hblank : ∀ c ∈ (a :: t).takeWhile isBlank, isBlank c = true := fun c hc => List.mem_takeWhile_imp hc
      have hline : '\n' ∉ x.takeWhile (· != '\n') := fun hc => by simpa using List.mem_takeWhile_imp hc
      have hsplit : a :: t = ((a :: t).takeWhile isBlank ++ '*' :: x.takeWhile (· != '\n')) ++ r := by
        rw [List.append_assoc, List.cons_append, hr, List.takeWhile_append_dropWhile, ← hx,
          List.takeWhile_append_dropWhile]
      obtain rfl := List.append_cancel_right (hw.symm.trans hsplit)
      have hnone := flatMap_lines_of_blank hblank hline
      rw [List.reverse_append, List.append_assoc] at hs
      rcases exists_feed_of_struck hs (hr ▸ atFeed_dropWhile x) fun k =>
        not_starLeaves (by simpa using hline) (by simp) with
        ⟨rfl, rfl⟩ | ⟨r, s, rfl, rfl, hnext⟩
      · rw [hsplit, List.append_nil, hnone]
        rfl
      · have hlength := congrArg List.length hsplit
        rw [hsplit, lines_append_feed, List.flatMap_append, hnone, List.nil_append, lines_feed, List.flatMap_cons]
        exact ih r.length (by simp at hlength ⊢; omega) hnext (hfeed _) rfl
    · have hno : ∀ v, ¬ StarLeaves before t v := not_exists.1 hmatch
      have hline : '\n' ∉ t.takeWhile (· != '\n') := fun hc => by simpa using List.mem_takeWhile_imp hc
      have hrest := atFeed_dropWhile t
      have hsplit : t = t.takeWhile (· != '\n') ++ t.dropWhile (· != '\n') := List.takeWhile_append_dropWhile.symm
      generalize t.takeWhile (· != '\n') = l at hline hsplit
      generalize t.dropWhile (· != '\n') = r at hrest hsplit
      subst hsplit
      -- the first line has no star in front, or there would be a match
      have hplain : ¬ isStarred l = true := by
        intro hstar
        obtain ⟨x, hx⟩ := isStarred_iff.1 hstar
        have hne : l.dropWhile isBlank ≠ [] := by simp [hx]
        exact hno _ ⟨hat, x ++ r, by rw [List.dropWhile_append, if_neg (by simpa using hne), hx]; rfl, rfl⟩
      -- and none begins inside the line, where the start of a line is behind
      obtain ⟨s, rfl, hs⟩ := h.exists_append (l := l) fun u v huv hv k => by
        cases u with
        | nil =>
          obtain rfl : l = v := huv
          exact hno k
        | cons b u => exact not_starLeaves (fun hu => hline (huv ▸ List.mem_append_left v hu)) (by simp)
      rcases exists_feed_of_struck hs hrest fun k => by
        cases l with
        | nil => exact hno k
        | cons b l => exact not_starLeaves hline (by simp) with ⟨rfl, rfl⟩ | ⟨r, s, rfl, rfl, hnext⟩
      · rw [List.append_nil, lines, splitOnChar_of_not_mem hline]
        simp [hplain]
      · rw [lines, lines, splitOnChar_append hline, splitOnChar_append hline, List.flatMap_cons, List.flatMap_cons,
          if_neg hplain, ← lines, ← lines, ih r.length (by simp; omega) hnext (hfeed _) rfl]

theorem words_append_comment (l text : List Char) :
    (if isStarred (l ++ ' ' :: ("*>".toList ++ text)) then [] else cobolWords (l ++ ' ' :: ("*>".toList ++ text))) =
      if isStarred l then [] else cobolWords l := by
  -- behind a blank line the mark itself is the star in front
  by_cases hblank : ∀ c ∈ l, isBlank c = true
  · have hstar : isStarred (l ++ ' ' :: ("*>".toList ++ text)) = true := by
      rw [isStarred_iff, List.dropWhile_append_of_pos hblank]
      exact ⟨_, rfl⟩
    rw [if_pos hstar, cobolWords_of_blank hblank, ite_self]
  · have hne : l.dropWhile isBlank ≠ [] := fun h => hblank (List.dropWhile_eq_nil_iff.1 h)
    have hstar : isStarred (l ++ ' ' :: ("*>".toList ++ text)) = isStarred l := by
      rw [isStarred, stripLeft, stripLeftBy, List.dropWhile_append, if_neg (by simpa using hne),
        List.head?_append_of_ne_nil _ hne]
      rfl
    rw [hstar, cobolWords, cobolWords]
    rcases trails_upToFirst (l := l) (s := "*>".toList ++ text) (by decide : IsMark "*>".toList) rfl with h | h
    · rw [h]
    · rw [h, wordsBy_append_cons (by decide), show wordsBy _ [] = [] from rfl, List.append_nil]

/-- The words of a COBOL text are those of its lines that have no star in front. -/
theorem words_cobol (t : List Char) :
    (wordsBy (fun c => !inRun .cobol c) (withoutComments .cobol t)).flatMap (runWords .cobol) =
      (lines t).flatMap fun l => if isStarred l then [] else cobolWords l := by
  have hshort : ∀ before t, ¬ StarLeaves before t t := by
    rintro before t ⟨-, x, hx, hr⟩
    have hle := (List.dropWhile_suffix (l := t) isBlank).length_le
    have hle' := (List.dropWhile_suffix (l := x) (· != '\n')).length_le
    rw [hx, List.length_cons] at hle
    rw [← hr] at hle'
    omega
  have hwords := flatMap_lines_of_struck (struck_replaceAll leaves_starredLine hshort t) (by simp [AtFeed])
  rw [← hwords, withoutComments, cutLines, wordsBy_unlines (by decide), List.flatMap_map, List.flatMap_assoc]
  rfl

/-! ## Comments put in -/

def lineMarks : List (Dialect × String) := [(.python, "#"), (.c, "//"), (.assembly, ";"), (.cobol, "*>")]

/-- The text with a comment put behind the line of a number. -/
def withComment (mark text : List Char) (i : Nat) (t : List Char) : List Char :=
  unlines ((lines t).modify i (· ++ ' ' :: (mark ++ text)))

theorem forall₂_modify {α : Type} {R : α → α → Prop} (hrefl : ∀ a, R a a) {f : α → α} (hf : ∀ a, R a (f a))
    (l : List α) (i : Nat) :
    List.Forall₂ R l (l.modify i f) := by
  induction l generalizing i with
  | nil => cases i <;> exact .nil
  | cons a l ih =>
    cases i with
    | zero => exact .cons (hf a) (List.forall₂_same.2 fun b _ => hrefl b)
    | succ i => exact .cons (hrefl a) (ih i)

theorem lines_withComment {mark text : List Char} (hmark : IsMark mark) (htext : '\n' ∉ text) (i : Nat)
    (t : List Char) :
    lines (withComment mark text i t) = (lines t).modify i (· ++ ' ' :: (mark ++ text)) := by
  refine lines_unlines ?_ fun m hm => ?_
  · rw [Ne, List.modify_eq_nil_iff]
    exact splitOnChar_ne_nil '\n' t
  · obtain ⟨j, hj⟩ := List.mem_iff_getElem?.1 hm
    rw [List.getElem?_modify, Option.map_eq_map, Option.map_eq_some_iff] at hj
    obtain ⟨l, hl, rfl⟩ := hj
    have hline := not_mem_of_mem_splitOnChar (List.mem_of_getElem? hl)
    split
    · simp [hline, hmark.feed, htext]
    · exact hline

theorem lines_cutLines (mark : String) (t : List Char) :
    lines (cutLines mark t) = (lines t).map (upToFirst mark.toList) := by
  refine lines_unlines (fun h => splitOnChar_ne_nil '\n' t (List.map_eq_nil_iff.1 h)) fun m hm => ?_
  obtain ⟨l, hl, rfl⟩ := List.mem_map.1 hm
  exact fun hc => not_mem_of_mem_splitOnChar hl ((upToFirst_isPrefix _ l).subset hc)

/-- The lines of the second text are those of the first one, some with a blank behind. -/
def TrailLines (t u : List Char) : Prop := List.Forall₂ Trails (lines t) (lines u)

namespace TrailLines

variable {t u : List Char}

theorem padded (h : TrailLines t u) : Padded t u := by
  simpa only [unlines_lines] using Padded.unlines h

theorem cutLines {mark : String} (hmark : IsMark mark.toList) (h : TrailLines t u) :
    TrailLines (cutLines mark t) (cutLines mark u) := by
  rw [TrailLines, lines_cutLines, lines_cutLines, List.forall₂_map_left_iff, List.forall₂_map_right_iff]
  exact h.imp fun l m hlm => hlm.upToFirst hmark

theorem of_comment {mark : String} (hmark : IsMark mark.toList) {text : List Char} (htext : '\n' ∉ text) (i : Nat)
    (t : List Char) :
    TrailLines (Duplicate.cutLines mark t) (Duplicate.cutLines mark (withComment mark.toList text i t)) := by
  rw [TrailLines, lines_cutLines, lines_cutLines, lines_withComment hmark htext, List.forall₂_map_left_iff,
    List.forall₂_map_right_iff]
  refine forall₂_modify (R := fun l m => Trails (upToFirst mark.toList l) (upToFirst mark.toList m)) (fun l => .inl rfl)
    (fun l => trails_upToFirst hmark ?_) (lines t) i
  obtain ⟨c, r, hc⟩ := List.exists_cons_of_ne_nil hmark.ne_nil
  rw [hc, List.cons_append, upToFirst_cons, if_pos]
  simp

end TrailLines

theorem tokens_congr {d : Dialect} {t u : List Char}
    (h : wordsBy (fun c => !inRun d c) (withoutComments d u) = wordsBy (fun c => !inRun d c) (withoutComments d t)) :
    tokens d u = tokens d t := by
  rw [tokens, h, tokens]

theorem flatMap_modify {α β : Type} {f : α → α} {g : α → List β} (h : ∀ a, g (f a) = g a) (l : List α) (i : Nat) :
    (l.modify i f).flatMap g = l.flatMap g := by
  induction l generalizing i with
  | nil => cases i <;> rfl
  | cons a l ih =>
    cases i with
    | zero => simp [h]
    | succ i => simp [ih]

/-- A comment up to the end of a line that is put behind any line changes no tokens. -/
theorem tokens_withComment {language : List Char} {mark : String}
    (hmark : (Dialect.ofLanguage language, mark) ∈ lineMarks) {text : List Char} (htext : '\n' ∉ text)
    (t : List Char) (i : Nat) :
    tokens (.ofLanguage language) (withComment mark.toList text i t) = tokens (.ofLanguage language) t := by
  simp only [lineMarks, List.mem_cons, Prod.mk.injEq, List.not_mem_nil, or_false] at hmark
  rcases hmark with ⟨hd, rfl⟩ | ⟨hd, rfl⟩ | ⟨hd, rfl⟩ | ⟨hd, rfl⟩ <;> rw [hd]
  · have htrail := TrailLines.of_comment (by decide : IsMark "#".toList) htext i t
    have hblind : ∀ q : String, IsMark q.toList → IsBlind (behindBoth? q.toList q.toList) :=
      fun q hq => isBlind_behindBoth? hq hq
    refine tokens_congr
      (wordsBy_replaceAll ((hblind "\"\"\"" (by decide)).or (hblind "'''" (by decide))) (fun c => ?_) (by decide)
      (by decide) htrail.padded)
    rw [matchAt?_orElse, Option.map_or, map_after_between (by decide), map_after_between (by decide)]
  · have htrail := TrailLines.of_comment (by decide : IsMark "//".toList) htext i t
    have hblind := isBlind_behindBoth? (by decide : IsMark "/*".toList) (by decide : IsMark "*/".toList)
    exact tokens_congr (wordsBy_replaceAll hblind (map_after_between (by decide)) (by decide) (by decide) htrail.padded)
  · have htrail := TrailLines.of_comment (by decide : IsMark ";".toList) htext i t
    have hcut := (htrail.cutLines (by decide : IsMark "//".toList)).cutLines (by decide : IsMark "#".toList)
    exact tokens_congr (hcut.padded.wordsBy_eq (by decide) (by decide))
  · rw [tokens, tokens, words_cobol, words_cobol, lines_withComment (by decide) htext,
      flatMap_modify fun l => words_append_comment l text]

/-- A text in which a quoted text begins, with a comment that has quotes and code in it. -/
theorem tokens_withComment_quotes :
    withComment "#".toList "''' + \"\"\" y = 1".toList 0 "x = '''a\nb'''".toList =
      "x = '''a #''' + \"\"\" y = 1\nb'''".toList ∧
      tokens (.ofLanguage "python".toList)
      (withComment "#".toList "''' + \"\"\" y = 1".toList 0 "x = '''a\nb'''".toList) =
        tokens (.ofLanguage "python".toList) "x = '''a\nb'''".toList :=
  ⟨by decide, tokens_withComment (by decide) (by decide) _ 0⟩

end CodeSurvey.Duplicate
