/-
Pieces of texts: splitting at a separator takes one piece after another off a text, no piece holds the separator, a
piece occurs in a text exactly if it is an infix of it, taking a piece away leaves the rest, and white space parts the
words before it from those behind.
-/
import CodeSurvey.Text.Letter
import CodeSurvey.Text.Piece
import Mathlib.Data.List.Infix

namespace CodeSurvey.Text

/-! ## Splitting -/

section
variable {sep : Char} {a b t l : List Char}

theorem splitOnChar_cons (c : Char) (t : List Char) :
    splitOnChar sep (c :: t) = splitStep sep c (splitOnChar sep t) := rfl

theorem splitOnChar_ne_nil (sep : Char) (t : List Char) : splitOnChar sep t ≠ [] := by
  induction t with
  | nil => simp [splitOnChar]
  | cons c t ih =>
    rw [splitOnChar_cons]
    unfold splitStep
    split <;> split <;> simp

theorem splitOnChar_of_not_mem (h : sep ∉ t) : splitOnChar sep t = [t] := by
  induction t with
  | nil => rfl
  | cons c t ih =>
    have hc : (c == sep) = false := by simpa using fun hc => h (by simp [hc])
    rw [splitOnChar_cons, ih fun ht => h (List.mem_cons_of_mem c ht)]
    simp [splitStep, hc]

theorem splitStep_append {c : Char} {ls ms : List (List Char)} (h : ls ≠ []) :
    splitStep sep c (ls ++ ms) = splitStep sep c ls ++ ms := by
  obtain ⟨l, ls, rfl⟩ := List.exists_cons_of_ne_nil h
  unfold splitStep
  simp only [List.cons_append]
  split <;> rfl

/-- A separator parts the pieces before it from those behind it. -/
theorem splitOnChar_append_cons (a b : List Char) :
    splitOnChar sep (a ++ sep :: b) = splitOnChar sep a ++ splitOnChar sep b := by
  induction a with
  | nil =>
    obtain ⟨l, ls, hls⟩ := List.exists_cons_of_ne_nil (splitOnChar_ne_nil sep b)
    rw [List.nil_append, splitOnChar_cons, hls]
    simp [splitStep, splitOnChar]
  | cons c a ih =>
    rw [List.cons_append, splitOnChar_cons, ih, splitStep_append (splitOnChar_ne_nil sep a), ← splitOnChar_cons]

/-- What stands before the first separator is the first piece. -/
theorem splitOnChar_append (h : sep ∉ a) : splitOnChar sep (a ++ sep :: b) = a :: splitOnChar sep b := by
  rw [splitOnChar_append_cons, splitOnChar_of_not_mem h, List.singleton_append]

/-- What stands behind the last separator is the last piece. -/
theorem getLast?_splitOnChar (h : sep ∉ b) : (splitOnChar sep (a ++ sep :: b)).getLast? = some b := by
  rw [splitOnChar_append_cons, splitOnChar_of_not_mem h, List.getLast?_concat]

theorem not_mem_of_mem_splitOnChar (h : l ∈ splitOnChar sep t) : sep ∉ l := by
  induction t generalizing l with
  | nil => simp_all [splitOnChar]
  | cons c t ih =>
    obtain ⟨m, ms, hms⟩ := List.exists_cons_of_ne_nil (splitOnChar_ne_nil sep t)
    rw [splitOnChar_cons, hms] at h
    rw [hms] at ih
    unfold splitStep at h
    dsimp only at h
    split at h
    · rcases List.mem_cons.1 h with rfl | h
      · exact List.not_mem_nil
      · exact ih h
    · rename_i hc
      rcases List.mem_cons.1 h with rfl | h
      · rw [List.mem_cons, not_or]
        exact ⟨fun hsep => hc (by simp [hsep]), ih List.mem_cons_self⟩
      · exact ih (List.mem_cons_of_mem m h)

end

/-- A line of a text, taken on its own, is its only line. -/
theorem lines_of_mem_lines {t line : List Char} (h : line ∈ lines t) : lines line = [line] :=
  splitOnChar_of_not_mem (not_mem_of_mem_splitOnChar h)

/-! ## Occurrence -/

theorem contains_iff_isInfix {piece t : List Char} : contains piece t = true ↔ piece <:+: t := by
  induction t with
  | nil => simp [contains, List.isEmpty_iff]
  | cons c t ih => rw [contains, Bool.or_eq_true, ih, List.isPrefixOf_iff_prefix, List.infix_cons_iff]

theorem isPrefix_of_append_cons {s u v : List Char} {c : Char} (hc : c ∉ s) (h : s <+: u ++ c :: v) : s <+: u := by
  induction u generalizing s with
  | nil =>
    rcases List.prefix_cons_iff.1 h with rfl | ⟨r, rfl, -⟩
    · exact List.nil_prefix
    · exact absurd List.mem_cons_self hc
  | cons a u ih =>
    rcases List.prefix_cons_iff.1 h with rfl | ⟨r, rfl, hr⟩
    · exact List.nil_prefix
    · exact (List.prefix_cons_inj a).2 (ih (fun hmem => hc (List.mem_cons_of_mem a hmem)) hr)

/-- A text lies on one side of a character that it does not hold. -/
theorem isInfix_append_cons {s u v : List Char} {c : Char} (hc : c ∉ s) (h : s <:+: u ++ c :: v) :
    s <:+: u ∨ s <:+: v := by
  induction u with
  | nil =>
    rcases List.infix_cons_iff.1 h with h | h
    · exact .inl (isPrefix_of_append_cons hc h).isInfix
    · exact .inr h
  | cons a u ih =>
    rcases List.infix_cons_iff.1 h with h | h
    · exact .inl (isPrefix_of_append_cons hc h).isInfix
    · exact (ih h).imp_left fun h => h.trans (List.suffix_cons a u).isInfix

/-- The number of places where the piece stands in the text. -/
def occurrences (piece t : List Char) : Nat := t.tails.countP piece.isPrefixOf

theorem occurrences_pos {piece t : List Char} (h : piece <:+: t) : 0 < occurrences piece t := by
  obtain ⟨u, v, rfl⟩ := h
  refine List.countP_pos_iff.2 ⟨piece ++ v, (List.mem_tails _ _).2 ⟨u, (List.append_assoc ..).symm⟩, ?_⟩
  exact List.isPrefixOf_iff_prefix.2 (List.prefix_append piece v)

theorem add_occurrences_le {piece : List Char} (hne : piece ≠ []) (u v : List Char) :
    occurrences piece u + occurrences piece v ≤ occurrences piece (u ++ v) := by
  unfold occurrences
  induction u with
  | nil => simp [List.isPrefixOf_iff_prefix, hne]
  | cons a u ih =>
    have hhere : piece.isPrefixOf (a :: u) = true → piece.isPrefixOf (a :: (u ++ v)) = true := by
      simp only [List.isPrefixOf_iff_prefix]
      exact fun h => h.trans (List.prefix_append (a :: u) v)
    rw [List.cons_append, List.tails_cons, List.tails_cons, List.countP_cons, List.countP_cons]
    split <;> simp_all <;> omega

/-! ## Taking away -/

section
variable {piece t : List Char}

theorem cutAt_skip (u cur : List Char) (acc : List (List Char)) :
    cutAt piece u.length cur acc (u ++ t) = cutAt piece 0 cur acc t := by
  induction u with
  | nil => rfl
  | cons c u ih => rw [List.length_cons, List.cons_append, cutAt, ih]

/-- What is cut into pieces beyond those gathered so far does not depend on them. -/
theorem flatten_cutAt (skip : Nat) (cur : List Char) (acc : List (List Char)) (t : List Char) :
    (cutAt piece skip cur acc t).reverse.flatten =
      acc.reverse.flatten ++ (cur.reverse ++ (cutAt piece skip [] [] t).reverse.flatten) := by
  induction t generalizing skip cur acc with
  | nil => simp [cutAt]
  | cons c t ih =>
    cases skip with
    | succ n => rw [cutAt, ih, cutAt]
    | zero =>
      rw [cutAt, cutAt]
      split
      · rw [ih, ih _ [] [[].reverse]]
        simp
      · rw [ih, ih _ [c] []]
        simp

theorem joinWith_nil (l : List (List Char)) : joinWith [] l = l.flatten := by
  unfold joinWith
  induction l with
  | nil => rfl
  | cons a l ih => cases l <;> simp_all [List.intercalate, List.intersperse]

theorem replace_nil_eq (piece t : List Char) : replace piece [] t = (cutAt piece 0 [] [] t).reverse.flatten := by
  rw [replace, splitOnText, joinWith_nil]

theorem replace_nil_append_self (hne : piece ≠ []) (t : List Char) :
    replace piece [] (piece ++ t) = replace piece [] t := by
  obtain ⟨c, u, rfl⟩ := List.exists_cons_of_ne_nil hne
  have hhere : (c :: u).isPrefixOf (c :: (u ++ t)) = true := List.isPrefixOf_iff_prefix.2 ⟨t, rfl⟩
  rw [replace_nil_eq, replace_nil_eq, List.cons_append, cutAt, if_pos hhere, List.length_cons,
    Nat.add_sub_cancel, cutAt_skip, flatten_cutAt]
  rfl

/-- What stands before the first occurrence of a piece stays. -/
theorem replace_nil_append_of_apart {u : List Char} (h : ∀ u₁ u₂, u = u₁ ++ u₂ → u₂ ≠ [] → ¬ piece <+: u₂ ++ t) :
    replace piece [] (u ++ t) = u ++ replace piece [] t := by
  induction u with
  | nil => rfl
  | cons c u ih =>
    have hhere : ¬ piece.isPrefixOf (c :: (u ++ t)) = true :=
      mt List.isPrefixOf_iff_prefix.1 (h [] (c :: u) rfl (by simp))
    have hrest := ih fun u₁ u₂ hu hne => h (c :: u₁) u₂ (by rw [hu]; rfl) hne
    rw [replace_nil_eq] at hrest
    rw [replace_nil_eq, List.cons_append, cutAt, if_neg hhere, flatten_cutAt, hrest]
    rfl

theorem replace_nil_of_not_isInfix (h : ¬ piece <:+: t) : replace piece [] t = t := by
  have hapart : replace piece [] (t ++ []) = t ++ replace piece [] [] := by
    refine replace_nil_append_of_apart fun u₁ u₂ hu _ hpre => h ?_
    rw [List.append_nil] at hpre
    rw [hu]
    exact hpre.isInfix.trans (List.suffix_append u₁ u₂).isInfix
  simpa [replace_nil_eq, cutAt] using hapart

theorem replace_nil_append (hne : piece ≠ []) (h : ¬ piece <:+: t) : replace piece [] (piece ++ t) = t := by
  rw [replace_nil_append_self hne, replace_nil_of_not_isInfix h]

end

def blankCodes : List Nat :=
  [9, 10, 11, 12, 13, 28, 29, 30, 31, 32, 133, 160, 5760, 8192, 8193, 8194, 8195, 8196, 8197, 8198, 8199, 8200, 8201,
    8202, 8232, 8233, 8239, 8287, 12288]

/-- A test that the listed blanks pass is passed by every blank. -/
theorem of_isBlank {p : Char → Bool} (hall : (blankCodes.all fun n => p (Char.ofNat n)) = true) {c : Char}
    (h : isBlank c = true) :
    p c = true := by
  have hmem : c.toNat ∈ blankCodes := by
    simp only [isBlank, Bool.or_eq_true, Bool.and_eq_true, decide_eq_true_eq, beq_iff_eq] at h
    simp only [blankCodes, List.mem_cons, List.not_mem_nil, or_false]
    omega
  have hc := List.all_eq_true.1 hall c.toNat hmem
  rwa [Char.ofNat_toNat] at hc

theorem stripLeftBy_append_cons {p : Char → Bool} {c : Char} (hc : p c = false) (t u : List Char) :
    stripLeftBy p (t ++ c :: u) = stripLeftBy p t ++ c :: u := by
  unfold stripLeftBy
  induction t with
  | nil => simp [hc]
  | cons a t ih =>
    rw [List.cons_append, List.dropWhile_cons, List.dropWhile_cons]
    split
    · exact ih
    · rfl

theorem stripRightBy_append_cons {p : Char → Bool} {c : Char} (hc : p c = false) (t u : List Char) :
    stripRightBy p (t ++ c :: u) = t ++ c :: stripRightBy p u := by
  have hrev := stripLeftBy_append_cons hc u.reverse t.reverse
  unfold stripLeftBy at hrev
  unfold stripRightBy
  rw [List.reverse_append, List.reverse_cons, List.append_assoc, List.singleton_append, hrev]
  simp

/-- White space is taken off outside of what is no white space. -/
theorem strip_between {a b : Char} (ha : isBlank a = false) (hb : isBlank b = false) (t u v : List Char) :
    strip (t ++ a :: (u ++ b :: v)) = stripLeft t ++ a :: (u ++ b :: stripRight v) := by
  rw [strip, stripBy, stripLeftBy_append_cons ha, ← List.cons_append, ← List.append_assoc, stripRightBy_append_cons hb]
  simp [stripLeft, stripRight]

theorem exists_eq_stripRightBy_append (p : Char → Bool) (t : List Char) :
    ∃ s, t = stripRightBy p t ++ s ∧ ∀ c ∈ s, p c = true := by
  refine ⟨(t.reverse.takeWhile p).reverse, ?_,
    fun c hc => List.all_eq_true.1 List.all_takeWhile c (List.mem_reverse.1 hc)⟩
  rw [stripRightBy, ← List.reverse_append, List.takeWhile_append_dropWhile, List.reverse_reverse]

theorem stripRightBy_isPrefix (p : Char → Bool) (t : List Char) : stripRightBy p t <+: t := by
  obtain ⟨s, hs, -⟩ := exists_eq_stripRightBy_append p t
  exact ⟨s, hs.symm⟩

theorem stripRightBy_append_of_all {p : Char → Bool} {u : List Char} (hu : ∀ c ∈ u, p c = true) (t : List Char) :
    stripRightBy p (t ++ u) = stripRightBy p t := by
  unfold stripRightBy
  rw [List.reverse_append, List.dropWhile_append_of_pos fun c hc => hu c (List.mem_reverse.1 hc)]

theorem stripRightBy_append {p : Char → Bool} {t u : List Char} (ht : ∀ c ∈ t.getLast?, p c = false)
    (hu : ∀ c ∈ u, p c = true) :
    stripRightBy p (t ++ u) = t := by
  rw [stripRightBy_append_of_all hu, stripRightBy]
  rw [← List.head?_reverse] at ht
  cases hrev : t.reverse with
  | nil => simpa using hrev
  | cons c r =>
    rw [List.dropWhile_cons_of_neg (by simp [ht c (by simp [hrev])]), ← hrev, List.reverse_reverse]

/-- What is left begins with a character that does not satisfy `p`. -/
theorem head?_stripLeftBy (p : Char → Bool) (t : List Char) : ∀ c ∈ (stripLeftBy p t).head?, p c = false := by
  unfold stripLeftBy
  induction t with
  | nil => simp
  | cons a t ih =>
    rw [List.dropWhile_cons]
    split
    · exact ih
    · simp_all

/-- What is taken off satisfies `p`, and what is left begins and ends with characters that do not. -/
theorem exists_eq_stripBy (p : Char → Bool) (t : List Char) : ∃ before after, t = before ++ stripBy p t ++ after ∧
    (∀ c ∈ before ++ after, p c = true) ∧
    (∀ c ∈ (stripBy p t).head?, p c = false) ∧ ∀ c ∈ (stripBy p t).getLast?, p c = false := by
  have hleft : t.takeWhile p ++ stripLeftBy p t = t := List.takeWhile_append_dropWhile
  have hright : stripBy p t ++ ((stripLeftBy p t).reverse.takeWhile p).reverse = stripLeftBy p t := by
    rw [stripBy, stripRightBy, ← List.reverse_append, List.takeWhile_append_dropWhile, List.reverse_reverse]
  have htaken : ∀ l : List Char, ∀ c ∈ l.takeWhile p, p c = true := fun l => List.all_eq_true.1 List.all_takeWhile
  refine ⟨t.takeWhile p, ((stripLeftBy p t).reverse.takeWhile p).reverse,
    by rw [List.append_assoc, hright, hleft], ?_, ?_, ?_⟩
  · intro c hc
    rcases List.mem_append.1 hc with hc | hc
    · exact htaken t c hc
    · exact htaken _ c (List.mem_reverse.1 hc)
  · intro c hc
    -- what is left begins as the text without its leading characters does
    refine head?_stripLeftBy p t c ?_
    rw [← hright, List.head?_append, Option.mem_def.1 hc]
    rfl
  · rw [stripBy, stripRightBy, List.getLast?_reverse]
    exact head?_stripLeftBy p (stripLeftBy p t).reverse

theorem stripBy_of_forall {p : Char → Bool} {t : List Char} (h : ∀ c ∈ t, p c = false) : stripBy p t = t := by
  have hleft : stripLeftBy p t = t := by
    cases t with
    | nil => rfl
    | cons c t => exact List.dropWhile_cons_of_neg (by simp [h c List.mem_cons_self])
  have hright : stripRightBy p (t ++ []) = t :=
    stripRightBy_append (fun c hc => h c (List.mem_of_getLast? hc)) (by simp)
  rw [stripBy, hleft]
  rwa [List.append_nil] at hright

/-! ## What stands before a piece -/

section
variable {piece l s : List Char}

theorem findFrom_succ (piece : List Char) (index : Nat) (t : List Char) :
    findFrom piece (index + 1) t = (findFrom piece index t).map (· + 1) := by
  induction t generalizing index with
  | nil =>
    rw [findFrom, findFrom]
    split <;> rfl
  | cons c t ih =>
    rw [findFrom, findFrom]
    split
    · rfl
    · exact ih (index + 1)

theorem upToFirst_cons (piece : List Char) (c : Char) (t : List Char) :
    upToFirst piece (c :: t) = if piece.isPrefixOf (c :: t) then [] else c :: upToFirst piece t := by
  by_cases h : piece.isPrefixOf (c :: t) = true
  · simp [upToFirst, find?, findFrom, h]
  · have hfind : find? piece (c :: t) = (find? piece t).map (· + 1) := by
      rw [find?, findFrom, if_neg h, findFrom_succ, ← find?]
    rw [if_neg h, upToFirst, hfind, upToFirst]
    cases find? piece t <;> rfl

theorem upToFirst_of_not_isInfix (h : ¬ piece <:+: l) : upToFirst piece l = l := by
  induction l with
  | nil =>
    unfold upToFirst
    split <;> simp
  | cons c l ih =>
    rw [upToFirst_cons, if_neg fun hp => h (List.isPrefixOf_iff_prefix.1 hp).isInfix,
      ih fun hl => h (hl.trans (List.suffix_cons c l).isInfix)]

theorem upToFirst_append_of_isInfix (h : piece <:+: l) (s : List Char) :
    upToFirst piece (l ++ s) = upToFirst piece l := by
  induction l with
  | nil =>
    obtain rfl := List.infix_nil.1 h
    cases s <;> rfl
  | cons c l ih =>
    have hstart : piece.isPrefixOf (c :: (l ++ s)) = piece.isPrefixOf (c :: l) := by
      rw [Bool.eq_iff_iff, List.isPrefixOf_iff_prefix, List.isPrefixOf_iff_prefix]
      exact ⟨fun hp => List.prefix_of_prefix_length_le hp (List.prefix_append (c :: l) s) h.length_le,
        fun hp => hp.trans (List.prefix_append (c :: l) s)⟩
    rw [List.cons_append, upToFirst_cons, upToFirst_cons, hstart]
    split
    · rfl
    · rename_i hp
      rw [ih ((List.infix_cons_iff.1 h).resolve_left fun hl => hp (List.isPrefixOf_iff_prefix.2 hl))]

/-- A character that the piece does not hold parts the text. -/
theorem upToFirst_append_cons {c : Char} (hc : c ∉ piece) (hne : piece ≠ []) (h : ¬ piece <:+: l) (s : List Char) :
    upToFirst piece (l ++ c :: s) = l ++ c :: upToFirst piece s := by
  induction l with
  | nil =>
    have hp : ¬ piece <+: c :: s := fun hp => hne (List.prefix_nil.1 (isPrefix_of_append_cons (u := []) hc hp))
    rw [List.nil_append, upToFirst_cons, if_neg (by rwa [List.isPrefixOf_iff_prefix]), List.nil_append]
  | cons a l ih =>
    have hp : ¬ piece <+: a :: (l ++ c :: s) := fun hp => h (isPrefix_of_append_cons (u := a :: l) hc hp).isInfix
    rw [List.cons_append, upToFirst_cons, if_neg (by rwa [List.isPrefixOf_iff_prefix]),
      ih fun hl => h (hl.trans (List.suffix_cons a l).isInfix), List.cons_append]

theorem upToFirst_isPrefix (piece t : List Char) : upToFirst piece t <+: t := by
  unfold upToFirst
  split
  · exact List.take_prefix _ _
  · exact List.prefix_rfl

end

/-! ## Words -/

section
variable {blank : Char → Bool}

theorem closeWord_append (word : List Char) (ws vs : List (List Char)) :
    closeWord (word, ws ++ vs) = closeWord (word, ws) ++ vs := by
  unfold closeWord
  split <;> rfl

theorem foldr_wordStep (t : List Char) (ws : List (List Char)) : t.foldr (wordStep blank) ([], ws) =
    ((t.foldr (wordStep blank) ([], [])).1, (t.foldr (wordStep blank) ([], [])).2 ++ ws) := by
  induction t with
  | nil => rfl
  | cons c t ih =>
    rw [List.foldr_cons, List.foldr_cons, ih]
    unfold wordStep
    split
    · rw [closeWord_append]
    · rfl

/-- White space parts the words before it from those behind it. -/
theorem wordsBy_append_cons {c : Char} (hc : blank c = true) (t u : List Char) :
    wordsBy blank (t ++ c :: u) = wordsBy blank t ++ wordsBy blank u := by
  have hstep : (c :: u).foldr (wordStep blank) ([], []) = ([], wordsBy blank u) := by
    rw [List.foldr_cons, wordStep, if_pos hc]
    rfl
  rw [wordsBy, List.foldr_append, hstep, foldr_wordStep, closeWord_append]
  rfl

theorem mem_closeWord {word : List Char} {acc : List Char × List (List Char)} (h : word ∈ closeWord acc) :
    word = acc.1 ∨ word ∈ acc.2 := by
  unfold closeWord at h
  split at h
  · exact .inr h
  · exact List.mem_cons.1 h

theorem mem_of_mem_wordsBy {t word : List Char} {c : Char} (hword : word ∈ wordsBy blank t)
    (hc : c ∈ word) : c ∈ t := by
  have hfold : ∀ w, w = (t.foldr (wordStep blank) ([], [])).1 ∨ w ∈ (t.foldr (wordStep blank) ([], [])).2 →
      c ∈ w → c ∈ t := by
    clear hword hc
    induction t with
    | nil => simp
    | cons a t ih =>
      intro w hw hc
      rw [List.foldr_cons, wordStep] at hw
      split at hw
      · rcases hw with rfl | hw
        · cases hc
        · exact List.mem_cons_of_mem a (ih w (mem_closeWord hw) hc)
      · rcases hw with rfl | hw
        · rcases List.mem_cons.1 hc with rfl | hc
          · exact List.mem_cons_self
          · exact List.mem_cons_of_mem a (ih _ (.inl rfl) hc)
        · exact List.mem_cons_of_mem a (ih w (.inr hw) hc)
  exact hfold word (mem_closeWord hword) hc

end

/-! ## Joining -/

theorem joinWith_cons_cons (new p q : List Char) (ps : List (List Char)) :
    joinWith new (p :: q :: ps) = p ++ (new ++ joinWith new (q :: ps)) := by
  simp [joinWith, List.intercalate, List.intersperse]

theorem joinWith_cons_char (new : List Char) (a : Char) (p : List Char) (ps : List (List Char)) :
    joinWith new ((a :: p) :: ps) = a :: joinWith new (p :: ps) := by
  cases ps <;> simp [joinWith, List.intercalate, List.intersperse]

/-- A piece in a list of pieces stands in the joined text, between what the pieces before and behind it give. -/
theorem joinWith_append_cons (sep : List Char) (ps : List (List Char)) (x : List Char) (qs : List (List Char)) :
    joinWith sep (ps ++ x :: qs) = ps.flatMap (· ++ sep) ++ x ++ qs.flatMap (sep ++ ·) := by
  induction ps generalizing x with
  | nil =>
    induction qs generalizing x with
    | nil => simp [joinWith, List.intercalate]
    | cons q qs ih =>
      rw [List.nil_append, joinWith_cons_cons, ← List.nil_append (q :: qs), ih]
      simp
  | cons p ps ih =>
    cases ps with
    | nil =>
      rw [List.cons_append, List.nil_append, joinWith_cons_cons, ← List.nil_append (x :: qs), ih]
      simp
    | cons q ps =>
      rw [List.cons_append, List.cons_append, joinWith_cons_cons, ← List.cons_append, ih]
      simp

/-! ## Cuts by position -/

/-- A cut from one position to another, both counted from the start, takes the items between them. -/
theorem getElem?_slice {α : Type} {lo hi : Int} (hlo : 0 ≤ lo) (hhi : 0 ≤ hi) (l : List α) (j : Nat) :
    (slice lo hi l)[j]? = if lo + j < hi then l[lo.toNat + j]? else none := by
  have hclamp : ∀ i : Int, 0 ≤ i → clampIndex l.length i = min i.toNat l.length := fun i hi => if_neg (by omega)
  rw [slice, hclamp lo hlo, hclamp hi hhi, List.getElem?_drop, List.getElem?_take]
  by_cases hstart : lo.toNat ≤ l.length
  · rw [Nat.min_eq_left hstart]
    by_cases hend : lo + j < hi
    · rw [if_pos hend]
      split
      · rfl
      · rw [List.getElem?_eq_none (by omega)]
    · rw [if_neg hend, if_neg (by omega)]
  · rw [if_neg (by omega), List.getElem?_eq_none (by omega), ite_self]

end CodeSurvey.Text
