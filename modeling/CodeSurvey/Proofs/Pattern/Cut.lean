/-
Replacing the matches of a pattern. A text is cut into the pieces between the words that the pattern matches, found from
the left (`Cut`), and replacing joins these pieces by the new text (`replaceAll_eq_joinWith`).

Where no word can lie across the border of two texts, the pieces of both together are those of each, with the two pieces
at the border made one (`Cut.split`). From that follows what happens to a part of a text: it stays in one piece if no
word meets it, and it is lost if it is a word. Where the pattern looks at what stands before a match, taking its matches
away is read character by character (`Struck`).
-/
import CodeSurvey.Proofs.Pattern.Reach
import CodeSurvey.Proofs.Text.Piece

namespace CodeSurvey

/-- Are these the pieces of the text between words, found from the left? -/
inductive Cut (L : List Char → Prop) : List Char → List (List Char) → Prop
  | nil : Cut L [] [[]]
  | keep {a : Char} {r piece : List Char} {pieces : List (List Char)} (hno : ∀ w v, a :: r = w ++ v → ¬ L w)
      (h : Cut L r (piece :: pieces)) : Cut L (a :: r) ((a :: piece) :: pieces)
  | word {w r : List Char} {pieces : List (List Char)} (hw : L w) (h : Cut L r pieces) : Cut L (w ++ r) ([] :: pieces)

/-! ## Replacing joins the pieces -/

theorem isInfix_joinWith_of_mem {new piece : List Char} {pieces : List (List Char)} (h : piece ∈ pieces) :
    piece <:+: Text.joinWith new pieces := by
  induction pieces with
  | nil => cases h
  | cons p ps ih =>
    cases ps with
    | nil =>
      obtain rfl := List.mem_singleton.1 h
      simp [Text.joinWith, List.intercalate]
    | cons q ps =>
      rw [Text.joinWith_cons_cons]
      rcases List.mem_cons.1 h with rfl | h
      · exact (List.prefix_append _ _).isInfix
      · exact (ih h).trans ((List.suffix_append _ _).trans (List.suffix_append _ _)).isInfix

/-- A text without the character that frames the new text stands in a piece or within the frame. -/
theorem isInfix_joinWith {s m : List Char} {c : Char} (hc : c ∉ s) {pieces : List (List Char)} (hne : pieces ≠ [])
    (h : s <:+: Text.joinWith (c :: (m ++ [c])) pieces) : (∃ piece ∈ pieces, s <:+: piece) ∨ s <:+: m := by
  induction pieces with
  | nil => exact absurd rfl hne
  | cons p ps ih =>
    cases ps with
    | nil => exact .inl ⟨p, List.mem_singleton_self p, by simpa [Text.joinWith, List.intercalate] using h⟩
    | cons q ps =>
      rw [Text.joinWith_cons_cons, List.cons_append, List.append_assoc] at h
      rcases Text.isInfix_append_cons hc h with h | h
      · exact .inl ⟨p, List.mem_cons_self, h⟩
      · rcases Text.isInfix_append_cons hc h with h | h
        · exact .inr h
        · refine (ih (List.cons_ne_nil q ps) h).imp_left ?_
          rintro ⟨piece, hmem, hpiece⟩
          exact ⟨piece, List.mem_cons_of_mem p hmem, hpiece⟩

namespace Pattern

variable {p : Pattern} {L : List Char → Prop}

theorem substitute_skip (w r new before acc : List Char) (index : Nat) :
    p.substitute new before index w.length acc (w ++ r) =
      p.substitute new (w.reverse ++ before) (index + w.length) 0 acc r := by
  induction w generalizing before index with
  | nil => rfl
  | cons a w ih =>
    rw [List.length_cons, List.cons_append, substitute, ih]
    simp [Nat.add_assoc, Nat.add_comm 1]

theorem substitute_of_match {before w v : List Char} {index : Nat} {d : Cursor} (hne : w ≠ [])
    (h : p.matchAt? ⟨before, w ++ v, index, []⟩ = some d) (hd : d.index = index + w.length) (new acc : List Char) :
    p.substitute new before index 0 acc (w ++ v) = p.substitute new (w.reverse ++ before)
    (index + w.length) 0 (new ++ acc) v := by
  obtain ⟨a, w, rfl⟩ := List.exists_cons_of_ne_nil hne
  have hlength : d.index - index = w.length + 1 := by
    rw [hd, List.length_cons]
    exact Nat.add_sub_cancel_left index _
  rw [List.cons_append] at h ⊢
  rw [substitute]
  simp only [h, hlength]
  rw [substitute_skip]
  simp [Nat.add_assoc, Nat.add_comm 1]

/-- The walk that replaces the matches, from any place on. The induction is on the length of what is left of the text,
since a match passes several characters at once. -/
theorem exists_cut_substitute (hp : p.Spells L) (hne : ∀ w, L w → w ≠ []) (new t before acc : List Char) (index : Nat) :
    ∃ pieces, Cut L t pieces ∧
      (p.substitute new.reverse before index 0 acc t).reverse = acc.reverse ++ Text.joinWith new pieces := by
  induction hn : t.length using Nat.strong_induction_on generalizing t before acc index with
  | _ n ih =>
    subst hn
    cases t with
    | nil => exact ⟨[[]], .nil, by simp [substitute, Text.joinWith, List.intercalate]⟩
    | cons a r =>
      cases hmatch : p.matchAt? ⟨before, a :: r, index, []⟩ with
      | none =>
        rw [substitute, hmatch]
        have hno : ∀ w v, a :: r = w ++ v → ¬ L w := fun w v hw hL =>
          matchAt?_eq_none_iff.1 hmatch _ ((hp _ _).2 ⟨w, v, hw, hL, rfl⟩)
        obtain ⟨pieces, hcut, heq⟩ := ih r.length (by simp) r (a :: before) (a :: acc) (index + 1) rfl
        cases pieces with
        | nil => cases hcut
        | cons piece pieces =>
          refine ⟨_, .keep hno hcut, ?_⟩
          rw [Text.joinWith_cons_char, heq]
          simp
      | some d =>
        obtain ⟨w, v, hw, hL, rfl⟩ := (hp _ _).1 (reaches_of_matchAt? hmatch)
        replace hw : a :: r = w ++ v := hw
        have hlength := congrArg List.length hw
        have hpos := List.length_pos_iff.2 (hne w hL)
        rw [List.length_append] at hlength
        obtain ⟨pieces, hcut, heq⟩ :=
          ih v.length (by omega) v (w.reverse ++ before) (new.reverse ++ acc) (index + w.length) rfl
        rw [hw] at hmatch ⊢
        rw [substitute_of_match (hne w hL) hmatch rfl]
        refine ⟨_, .word hL hcut, ?_⟩
        rw [heq]
        cases pieces with
        | nil => cases hcut
        | cons piece pieces => simp [Text.joinWith_cons_cons]

theorem replaceAll_eq_joinWith (hp : p.Spells L) (hne : ∀ w, L w → w ≠ []) (new t : List Char) :
    ∃ pieces, Cut L t pieces ∧ p.replaceAll new t = Text.joinWith new pieces :=
  exists_cut_substitute hp hne new t [] [] 0

end Pattern

/-! ## The pieces -/

namespace Cut

variable {L : List Char → Prop} {t x y : List Char} {pieces : List (List Char)}

theorem exists_cons (h : Cut L t pieces) : ∃ piece rest, pieces = piece :: rest := by
  cases h <;> exact ⟨_, _, rfl⟩

theorem isInfix (h : Cut L t pieces) : (∀ piece ∈ pieces.head?, piece <+: t) ∧ ∀ piece ∈ pieces, piece <:+: t := by
  induction h with
  | nil => simp
  | @keep a r p ps hno h ih =>
    have hhead : a :: p <+: a :: r := by simpa using ih.1 p rfl
    refine ⟨by simpa using hhead, List.forall_mem_cons.2 ⟨hhead.isInfix, fun q hq => ?_⟩⟩
    exact (ih.2 q (List.mem_cons_of_mem p hq)).trans (List.suffix_cons a r).isInfix
  | @word w r ps hw h ih =>
    refine ⟨by simp, List.forall_mem_cons.2 ⟨List.nil_infix, fun q hq => ?_⟩⟩
    exact (ih.2 q hq).trans (List.suffix_append w r).isInfix

/-- Lies no word of the text across the border of its two parts? -/
def Apart (L : List Char → Prop) (x y : List Char) : Prop :=
  ∀ u w v, x ++ y = u ++ w ++ v → L w → (∃ m, x = u ++ w ++ m) ∨ ∃ m, u = x ++ m

theorem Apart.of_append {u : List Char} (h : Apart L (u ++ x) y) : Apart L x y := by
  intro u' w v heq hw
  rcases h (u ++ u') w v (by rw [List.append_assoc, heq]; simp) hw with ⟨m, hm⟩ | ⟨m, hm⟩
  · exact .inl ⟨m, by simpa using hm⟩
  · exact .inr ⟨m, by simpa using hm⟩

/-- It is enough to look at the texts that hold the last character before the border and go on behind it. -/
theorem apart_concat {z : Char} (h : ∀ m k, k <+: y → k ≠ [] → ¬ L (m ++ z :: k)) : Apart L (x ++ [z]) y := by
  intro u w v heq hw
  rw [List.append_assoc u] at heq
  rcases List.append_eq_append_iff.1 heq with ⟨m, hu, -⟩ | ⟨m, hx, hm⟩
  · exact .inr ⟨m, hu⟩
  rcases List.append_eq_append_iff.1 hm with ⟨k, rfl, -⟩ | ⟨k, rfl, hk⟩
  · exact .inl ⟨k, by rw [hx, List.append_assoc]⟩
  -- the word is made of `m` before the border and of `k` behind it
  rcases List.eq_nil_or_concat m with rfl | ⟨m, c, rfl⟩
  · exact .inr ⟨[], by simpa using hx.symm⟩
  by_cases hne : k = []
  · exact .inl ⟨[], by simpa [hne] using hx⟩
  · rw [List.concat_eq_append, ← List.append_assoc] at hx
    obtain ⟨-, hc⟩ := List.append_inj' hx rfl
    obtain rfl : z = c := List.singleton_inj.1 hc
    exact absurd (by simpa using hw) (h m k ⟨v, hk.symm⟩ hne)

/-- Two texts with no word across their border are cut apart. The induction is along the cut. -/
theorem split (h : Cut L (x ++ y) pieces) (hapart : Apart L x y) :
    ∃ ps p q qs, Cut L x (ps ++ [p]) ∧ Cut L y (q :: qs) ∧ pieces = ps ++ (p ++ q) :: qs := by
  generalize ht : x ++ y = t at h
  induction h generalizing x with
  | nil =>
    obtain ⟨rfl, rfl⟩ := List.append_eq_nil_iff.1 ht
    exact ⟨[], [], [], [], .nil, .nil, rfl⟩
  | @keep a r p ps hno h ih =>
    cases x with
    | nil =>
      obtain rfl : y = a :: r := ht
      exact ⟨[], [], _, _, .nil, .keep hno h, rfl⟩
    | cons b x =>
      obtain ⟨rfl, rfl⟩ : b = a ∧ x ++ y = r := List.cons.inj ht
      have hno' : ∀ w v, b :: x = w ++ v → ¬ L w := fun w v hx =>
        hno w (v ++ y) (by rw [← List.cons_append, hx, List.append_assoc])
      obtain ⟨qs, q, q', qs', hx, hy, heq⟩ := ih (Apart.of_append (u := [b]) hapart) rfl
      cases qs with
      | nil =>
        obtain ⟨rfl, rfl⟩ := List.cons.inj heq
        exact ⟨[], b :: q, q', ps, .keep hno' hx, hy, rfl⟩
      | cons p' qs =>
        obtain ⟨rfl, rfl⟩ := List.cons.inj heq
        exact ⟨(b :: p) :: qs, q, q', qs', .keep hno' hx, hy, rfl⟩
  | @word w r ps hw h ih =>
    cases x with
    | nil =>
      obtain rfl : y = w ++ r := ht
      exact ⟨[], [], _, _, .nil, .word hw h, rfl⟩
    | cons b x =>
      rcases hapart [] w r (by rw [ht]; rfl) hw with ⟨m, hm⟩ | ⟨m, hm⟩
      · rw [List.nil_append] at hm
        rw [hm] at hapart ht ⊢
        rw [List.append_assoc, List.append_cancel_left_eq] at ht
        obtain ⟨qs, q, q', qs', hx, hy, rfl⟩ := ih hapart.of_append ht
        exact ⟨[] :: qs, q, q', qs', .word hw hx, hy, rfl⟩
      · cases hm

/-- What no word starts in stays in front of the first piece. -/
theorem exists_append (h : Cut L (x ++ y) pieces) (hno : ∀ u v w r, x = u ++ v → v ≠ [] → v ++ y = w ++ r → ¬ L w) :
    ∃ piece rest, pieces = (x ++ piece) :: rest := by
  induction x generalizing pieces with
  | nil => exact h.exists_cons
  | cons a x ih =>
    generalize ht : a :: x ++ y = t at h
    cases h with
    | nil => cases ht
    | keep _ h =>
      obtain ⟨rfl, rfl⟩ := List.cons.inj ht
      obtain ⟨piece, rest, heq⟩ := ih h fun u v w r hx hv hw => hno (a :: u) v w r (by rw [hx]; rfl) hv hw
      obtain ⟨rfl, rfl⟩ := List.cons.inj heq
      exact ⟨piece, _, rfl⟩
    | word hw h => exact absurd hw (hno [] (a :: x) _ _ rfl (by simp) ht)

/-- A part of the text that no word meets is part of a piece. -/
theorem isInfix_piece_of_untouched {s : List Char} (h : Cut L (x ++ (s ++ y)) pieces)
    (hapart : Apart L x (s ++ y)) (hno : ∀ u v w r, s = u ++ v → v ≠ [] → v ++ y = w ++ r → ¬ L w) :
    ∃ piece ∈ pieces, s <:+: piece := by
  obtain ⟨ps, p, q, qs, -, hy, rfl⟩ := h.split hapart
  obtain ⟨piece, rest, heq⟩ := hy.exists_append hno
  obtain ⟨rfl, rfl⟩ := List.cons.inj heq
  exact ⟨p ++ (s ++ piece), by simp, p, piece, by simp⟩

/-- Where a word stands apart, the pieces are parts of what stands on its sides. -/
theorem isInfix_of_word {s : List Char} (h : Cut L (x ++ (s ++ y)) pieces)
    (hapart : Apart L x (s ++ y)) (hs : L s) (hne : s ≠ []) (honly : ∀ w v, s ++ y = w ++ v → L w → w = s) :
    ∀ piece ∈ pieces, piece <:+: x ∨ piece <:+: y := by
  obtain ⟨ps, p, q, qs, hx, hy, rfl⟩ := h.split hapart
  obtain ⟨rfl, hrest⟩ : q = [] ∧ Cut L y qs := by
    generalize ht : s ++ y = t at hy
    cases hy with
    | nil => exact absurd (List.append_eq_nil_iff.1 ht).1 hne
    | keep hno _ => exact absurd hs (hno s y ht.symm)
    | word hw h =>
      obtain rfl := honly _ _ ht hw
      obtain rfl := List.append_cancel_left ht
      exact ⟨rfl, h⟩
  intro piece hpiece
  rw [List.append_nil] at hpiece
  have hmem : piece ∈ ps ++ [p] ∨ piece ∈ qs := by simpa [or_assoc] using hpiece
  exact hmem.imp (hx.isInfix.2 piece) (hrest.isInfix.2 piece)

end Cut

/-! ## Taking matches away -/

/-- What is left of a text when the matches in it are taken away, from the left: `M before t r` says that behind
`before`, a match at the start of `t` leaves `r`. -/
inductive Struck (M : List Char → List Char → List Char → Prop) : (before t s : List Char) → Prop
  | nil {before : List Char} : Struck M before [] []
  | keep {before r s : List Char} {a : Char} (hno : ∀ v, ¬ M before (a :: r) v) (h : Struck M (a :: before) r s) :
      Struck M before (a :: r) (a :: s)
  | word {before w r s : List Char} (hw : M before (w ++ r) r) (hne : w ≠ []) (h : Struck M (w.reverse ++ before) r s) :
      Struck M before (w ++ r) s

namespace Pattern

def Leaves (p : Pattern) (M : List Char → List Char → List Char → Prop) : Prop :=
  ∀ before t index r, (∃ d, p.matchAt? ⟨before, t, index, []⟩ = some d ∧ d.after = r) ↔ M before t r

variable {p : Pattern} {M : List Char → List Char → List Char → Prop}

theorem exists_struck_substitute (hp : p.Leaves M) (hne : ∀ before t, ¬ M before t t) (t before acc : List Char)
    (index : Nat) :
    ∃ s, Struck M before t s ∧ (p.substitute [] before index 0 acc t).reverse = acc.reverse ++ s := by
  induction hn : t.length using Nat.strong_induction_on generalizing t before acc index with
  | _ n ih =>
    subst hn
    cases t with
    | nil => exact ⟨[], .nil, by simp [substitute]⟩
    | cons a r =>
      cases hmatch : p.matchAt? ⟨before, a :: r, index, []⟩ with
      | none =>
        rw [substitute, hmatch]
        have hno : ∀ v, ¬ M before (a :: r) v := by
          intro v hv
          obtain ⟨d, hd, -⟩ := (hp before (a :: r) index v).2 hv
          cases hmatch.symm.trans hd
        obtain ⟨s, hs, heq⟩ := ih r.length (by simp) r (a :: before) (a :: acc) (index + 1) rfl
        exact ⟨a :: s, .keep hno hs, by simp [heq]⟩
      | some d =>
        obtain ⟨w, hw, hindex⟩ := (reaches_of_matchAt? hmatch).exists_past
        replace hw : a :: r = w ++ d.after := hw
        have hM := (hp before (a :: r) index d.after).1 ⟨d, hmatch, rfl⟩
        have hword : w ≠ [] := by
          rintro rfl
          exact hne before d.after (by rwa [hw] at hM)
        have hlength := congrArg List.length hw
        have hpos := List.length_pos_iff.2 hword
        rw [List.length_append] at hlength
        obtain ⟨s, hs, heq⟩ := ih d.after.length (by omega) d.after (w.reverse ++ before) acc (index + w.length) rfl
        rw [hw] at hmatch hM ⊢
        rw [substitute_of_match hword hmatch hindex]
        exact ⟨s, .word hM hword hs, heq⟩

theorem struck_replaceAll (hp : p.Leaves M) (hne : ∀ before t, ¬ M before t t) (t : List Char) :
    Struck M [] t (p.replaceAll [] t) := by
  obtain ⟨s, hs, heq⟩ := exists_struck_substitute hp hne t [] [] 0
  rwa [replaceAll, List.reverse_nil, heq, List.reverse_nil, List.nil_append]

end Pattern

namespace Struck

variable {M : List Char → List Char → List Char → Prop} {before t l r s v : List Char} {a : Char}

theorem eq_nil (h : Struck M before [] s) : s = [] := by
  generalize ht : ([] : List Char) = t at h
  cases h with
  | nil => rfl
  | keep => cases ht
  | word _ hne => exact absurd (List.append_eq_nil_iff.1 ht.symm).1 hne

/-- Where no match begins, a character stays. -/
theorem exists_cons (h : Struck M before (a :: r) s) (hno : ∀ v, ¬ M before (a :: r) v) :
    ∃ s', s = a :: s' ∧ Struck M (a :: before) r s' := by
  generalize ht : a :: r = t at h
  cases h with
  | nil => cases ht
  | keep _ h =>
    obtain ⟨rfl, rfl⟩ := List.cons.inj ht
    exact ⟨_, rfl, h⟩
  | word hw => exact absurd hw (ht ▸ hno _)

/-- Where a match begins, the text goes on behind one. -/
theorem exists_of_match (h : Struck M before (a :: r) s) (hM : M before (a :: r) v) :
    ∃ w v, a :: r = w ++ v ∧ M before (a :: r) v ∧ Struck M (w.reverse ++ before) v s := by
  generalize ht : a :: r = t at h
  cases h with
  | nil => cases ht
  | keep hno _ => exact absurd (ht ▸ hM) (hno v)
  | word hw _ h => exact ⟨_, _, rfl, hw, h⟩

/-- What no match begins in stays. -/
theorem exists_append (h : Struck M before (l ++ r) s)
    (hno : ∀ u v, l = u ++ v → v ≠ [] → ∀ k, ¬ M (u.reverse ++ before) (v ++ r) k) :
    ∃ s', s = l ++ s' ∧ Struck M (l.reverse ++ before) r s' := by
  induction l generalizing before s with
  | nil => exact ⟨s, rfl, h⟩
  | cons a l ih =>
    obtain ⟨s', rfl, hs⟩ := h.exists_cons (hno [] (a :: l) rfl (by simp))
    obtain ⟨s, rfl, hrest⟩ := ih hs fun u v hl hv k => by simpa using hno (a :: u) v (by rw [hl]; rfl) hv k
    exact ⟨s, rfl, by simpa using hrest⟩

end Struck

end CodeSurvey
