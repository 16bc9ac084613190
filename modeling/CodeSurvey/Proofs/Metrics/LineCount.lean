/-
Counting of lines. Every line that is not blank counts as code or as a comment, except the short lines of COBOL
(`countLines_tally`). In C a block comment of several lines counts as a comment only where its lines would count as one
on their own (`countLines_c_blocks`).
-/
import CodeSurvey.Metrics.Quality
import CodeSurvey.Proofs.Text.Piece
import Mathlib.Data.List.Basic

namespace CodeSurvey.Metrics

open Text

/-! ## Lines one after the other -/

/-- The kinds of the lines, given whether a comment block is open before them. -/
def kindsFrom (lang : Option Language) (inside : Bool) : List (List Char) → List LineKind
  | [] => []
  | l :: ls => (lineKind lang inside l).1 :: kindsFrom lang (lineKind lang inside l).2 ls

theorem lineKinds_eq (lang : Option Language) (ls : List (List Char)) :
    lineKinds lang ls = kindsFrom lang false ls := by
  suffices h : ∀ (acc : List LineKind) (inside : Bool), (ls.foldl (fun (acc : List LineKind × Bool) l =>
      ((lineKind lang acc.2 l).1 :: acc.1, (lineKind lang acc.2 l).2)) (acc, inside)).1.reverse =
        acc.reverse ++ kindsFrom lang inside ls from h [] false
  induction ls with
  | nil => simp [kindsFrom]
  | cons l ls ih =>
    intro acc inside
    rw [List.foldl_cons, ih, kindsFrom, List.reverse_cons, List.append_assoc, List.singleton_append]

theorem countP_add_countP {α : Type} {p q r : α → Bool} {l : List α}
    (h : ∀ x ∈ l, (p x).toNat + (q x).toNat = (r x).toNat) :
    l.countP p + l.countP q = l.countP r := by
  induction l with
  | nil => rfl
  | cons x l ih =>
    have hx := h x List.mem_cons_self
    have hl := ih fun y hy => h y (List.mem_cons_of_mem x hy)
    rw [List.countP_cons, List.countP_cons, List.countP_cons, ← hl]
    cases hp : p x <;> cases hq : q x <;> cases hr : r x <;> simp [hp, hq, hr] at hx ⊢ <;> omega

/-! ## Every line once -/

def isFilled (l : List Char) : Bool := !(strip l).isEmpty

/-- A line of COBOL that ends before the column of the comment mark. -/
def isShort (lang : Option Language) (l : List Char) : Bool := decide (lang = some .cobol) && decide (l.length ≤ 6)

theorem isFilled_of_mem {l : List Char} {c : Char} (hc : c ∈ l) (hblank : isBlank c = false) : isFilled l = true := by
  obtain ⟨before, after, hl, htaken, -⟩ := exists_eq_stripBy isBlank l
  cases hs : strip l with
  | cons a r => simp [isFilled, hs]
  | nil =>
    rw [show stripBy isBlank l = [] from hs, List.append_nil] at hl
    rw [htaken c (hl ▸ hc)] at hblank
    cases hblank

/-- A line counts for nothing exactly if it is blank or short, whatever block is open before it. -/
theorem lineKind_eq_ignored_iff (lang : Option Language) (inside : Bool) (l : List Char) :
    (lineKind lang inside l).1 = .ignored ↔ (isFilled l && !isShort lang l) = false := by
  cases lang with
  | none => grind [lineKind, isFilled, isShort]
  | some lang =>
    cases lang with
    | python => grind [lineKind, isFilled, isShort]
    | c => grind [lineKind, isFilled, isShort]
    | assembly => grind [lineKind, isFilled, isShort]
    | cobol =>
      simp only [lineKind, isShort]
      cases hd : l.drop 6 with
      | nil =>
        have hshort := List.drop_eq_nil_iff.1 hd
        simp [hshort]
      | cons c r =>
        have hlong : ¬ l.length ≤ 6 := fun h => by simp [List.drop_eq_nil_of_le h] at hd
        have hc : c ∈ l := List.mem_of_mem_drop (i := 6) (by simp [hd])
        by_cases hstar : c = '*'
        · subst hstar
          simp [isFilled_of_mem hc (by decide), hlong]
        · cases hs : (strip l).isEmpty <;> simp [isFilled, hs, hlong, hstar]

theorem count_kindsFrom (lang : Option Language) (inside : Bool) (ls : List (List Char)) :
    (kindsFrom lang inside ls).count .code + (kindsFrom lang inside ls).count .comment =
      ls.countP fun l => isFilled l && !isShort lang l := by
  induction ls generalizing inside with
  | nil => rfl
  | cons l ls ih =>
    have hkind := lineKind_eq_ignored_iff lang inside l
    rw [kindsFrom, List.count_cons, List.count_cons, List.countP_cons, ← ih (lineKind lang inside l).2]
    cases hk : (lineKind lang inside l).1 <;> cases hf : (isFilled l && !isShort lang l) <;> simp [hk,
      hf] at hkind ⊢ <;> omega

def languageOf (name : Option String) : Option Language := name.bind Language.ofLooseName?

/-- The lines of a text that are not blank count once each, as code or as a comment, except the short ones of COBOL,
which do not count at all. -/
theorem countLines_tally (name : Option String) (t : List Char) :
    (countLines (languageOf name) t).code + (countLines (languageOf name) t).comments +
        (lines t).countP (fun l => isFilled l && isShort (languageOf name) l) = (lines t).countP isFilled ∧
      ((countLines (languageOf name) t).code + (countLines (languageOf name) t).comments = (lines t).countP isFilled ↔
        (languageOf name = some .cobol → ∀ l ∈ lines t, isFilled l = true → 6 < l.length)) := by
  generalize languageOf name = lang
  have hcount : (countLines lang t).code + (countLines lang t).comments =
      (lines t).countP fun l => isFilled l && !isShort lang l := by
    rw [countLines, lineKinds_eq]
    exact count_kindsFrom lang false (lines t)
  have hsplit : ((lines t).countP fun l => isFilled l && !isShort lang l) + (lines t).countP (fun l =>
      isFilled l && isShort lang l) =
      (lines t).countP isFilled :=
    countP_add_countP fun l _ => by cases isFilled l <;> cases isShort lang l <;> rfl
  rw [hcount]
  refine ⟨hsplit, ?_⟩
  rw [← hsplit, eq_comm, Nat.add_eq_left, List.countP_eq_zero]
  constructor
  · intro hnone hlang l hl hfilled
    exact Nat.lt_of_not_le fun hle => hnone l hl (by simp [hfilled, isShort, hlang, hle])
  · intro hlong l hl hlost
    simp only [isShort, Bool.and_eq_true, decide_eq_true_eq] at hlost
    exact absurd hlost.2.2 (Nat.not_le.2 (hlong hlost.2.1 l hl hlost.1))

/-! ## Block comments in C -/

def opensBlock (l : List Char) : Bool := contains ['/', '*'] (strip l)

def closesBlock (l : List Char) : Bool := contains ['*', '/'] (strip l)

def isLineComment (l : List Char) : Bool := startsWith ['/', '/'] (strip l)

/-- Does the line with the number `k` lie in a block comment: at or below a line on which one begins, with no end of it
above? -/
def InBlock (ls : List (List Char)) (k : Nat) : Prop :=
  ∃ i ≤ k, (∃ l ∈ ls[i]?, opensBlock l = true) ∧ ∀ j, i ≤ j → j < k → ∀ l ∈ ls[j]?, closesBlock l = false

instance (ls : List (List Char)) (k : Nat) : Decidable (InBlock ls k) := by
  unfold InBlock
  infer_instance

/-- The code and comment lines of a C text, with all lines of its block comments. -/
def countBlockwise (t : List Char) : LineCount :=
  ⟨(lines t).zipIdx.countP fun x => isFilled x.1 && !(decide (InBlock (lines t) x.2) || isLineComment x.1),
    (lines t).zipIdx.countP fun x => isFilled x.1 && (decide (InBlock (lines t) x.2) || isLineComment x.1)⟩

/-- A line that lies in a block comment and would not be a comment on its own. -/
def isMissed (ls : List (List Char)) (x : List Char × Nat) : Bool :=
  isFilled x.1 && decide (InBlock ls x.2) && !(opensBlock x.1 || isLineComment x.1)

/-- A line of C is taken on its own: no block is open behind it. -/
theorem kindsFrom_c (ls : List (List Char)) : kindsFrom (some .c) false ls = ls.map fun l =>
    if isFilled l then (if opensBlock l || isLineComment l then .comment else .code) else .ignored := by
  induction ls with
  | nil => rfl
  | cons l ls ih =>
    have hkind : lineKind (some .c) false l =
        (if isFilled l then (if opensBlock l || isLineComment l then .comment else .code) else .ignored, false) := by
      grind [lineKind, isFilled, opensBlock, isLineComment]
    rw [kindsFrom, hkind, ih, List.map_cons]

theorem countP_zipIdx {p : List Char → Bool} (ls : List (List Char)) :
    ls.countP p = ls.zipIdx.countP fun x => p x.1 := by
  conv_lhs => rw [← List.zipIdx_map_fst 0 ls, List.countP_map]
  rfl

theorem countLines_c (t : List Char) : countLines (some .c) t =
    ⟨(lines t).zipIdx.countP fun x => isFilled x.1 && !(opensBlock x.1 || isLineComment x.1),
      (lines t).zipIdx.countP fun x => isFilled x.1 && (opensBlock x.1 || isLineComment x.1)⟩ := by
  rw [countLines, lineKinds_eq, kindsFrom_c, List.count, List.count, List.countP_map, List.countP_map, countP_zipIdx,
    countP_zipIdx]
  congr 1
  · exact List.countP_congr fun x _ => by grind
  · exact List.countP_congr fun x _ => by grind

theorem inBlock_of_opensBlock {ls : List (List Char)} {k : Nat} {l : List Char} (hl : ls[k]? = some l)
    (hopens : opensBlock l = true) :
    InBlock ls k :=
  ⟨k, Nat.le_refl k, ⟨l, hl, hopens⟩, fun _ hkj hjk => absurd hjk (Nat.not_lt.2 hkj)⟩

/-- Of the lines that lie in block comments, those that would not be comments on their own count as code. So the lines
are counted as the block comments say exactly if there are no such lines. -/
theorem countLines_c_blocks (t : List Char) :
    (countLines (some .c) t).comments + (lines t).zipIdx.countP (isMissed (lines t)) = (countBlockwise t).comments ∧
      (countBlockwise t).code + (lines t).zipIdx.countP (isMissed (lines t)) = (countLines (some .c) t).code ∧
      (countLines (some .c) t = countBlockwise t ↔ ∀ k l, (lines t)[k]? = some l → InBlock (lines t) k →
        isFilled l = true →
        opensBlock l = true ∨ isLineComment l = true) := by
  have hopen : ∀ x ∈ (lines t).zipIdx, opensBlock x.1 = true → decide (InBlock (lines t) x.2) = true :=
    fun x hx hopens =>
    decide_eq_true (inBlock_of_opensBlock (List.mem_zipIdx_iff_getElem?.1 hx) hopens)
  have hcomment : ∀ f o b s : Bool, (o = true → b = true) →
      (f && (o || s)).toNat + (f && b && !(o || s)).toNat = (f && (b || s)).toNat := by decide
  have hother : ∀ f o b s : Bool, (o = true → b = true) →
      (f && !(b || s)).toNat + (f && b && !(o || s)).toNat = (f && !(o || s)).toNat := by decide
  have hcomments : (countLines (some .c) t).comments + (lines t).zipIdx.countP (isMissed (lines t)) =
      (countBlockwise t).comments := by
    rw [countLines_c, countBlockwise]
    exact countP_add_countP fun x hx => hcomment _ _ _ _ (hopen x hx)
  have hcode : (countBlockwise t).code + (lines t).zipIdx.countP (isMissed (lines t)) =
      (countLines (some .c) t).code := by
    rw [countLines_c, countBlockwise]
    exact countP_add_countP fun x hx => hother _ _ _ _ (hopen x hx)
  refine ⟨hcomments, hcode, ?_⟩
  have hzero : countLines (some .c) t = countBlockwise t ↔ (lines t).zipIdx.countP (isMissed (lines t)) = 0 := by
    constructor
    · intro h
      rw [h] at hcomments
      omega
    · intro h
      cases hl : countLines (some .c) t
      cases hb : countBlockwise t
      simp only [hl, hb, h, Nat.add_zero] at hcomments hcode
      rw [hcomments, hcode]
  rw [hzero, List.countP_eq_zero]
  simp only [List.mem_zipIdx_iff_getElem?, Prod.forall, isMissed]
  grind

example : (countLines (some .c) "/* a\n b\n*/ c".toList).comments = 1 ∧
    (countBlockwise "/* a\n b\n*/ c".toList).comments = 3 := by
  decide +kernel

end CodeSurvey.Metrics
