/-
The documentation of Python definitions. Cleaning a documentation string takes away nothing but white space
(`ink_clean`), so of a string that is not blank something stays. A definition is the only one on its line, so the
look-up by line gives its own documentation (`ofPython_line`), and its symbol is the only one there
(`filter_symbols_line`).
-/
import CodeSurvey.Docs.Docstring
import CodeSurvey.Proofs.Python.Statement
import CodeSurvey.Symbol.Source
import Mathlib.Data.List.TakeWhile

namespace CodeSurvey

/-! ## White space -/

namespace Text

/-- The characters of a text that are not white space. -/
def ink (t : List Char) : List Char := t.filter fun c => !isBlank c

@[simp]
theorem ink_append (t u : List Char) : ink (t ++ u) = ink t ++ ink u := List.filter_append ..

@[simp]
theorem ink_reverse (t : List Char) : ink t.reverse = (ink t).reverse := List.filter_reverse ..

theorem ink_eq_nil_iff {t : List Char} : ink t = [] ↔ ∀ c ∈ t, isBlank c = true := by
  simp [ink, List.filter_eq_nil_iff]

theorem isBlankText_iff {t : List Char} : isBlankText t = true ↔ ink t = [] := by
  rw [isBlankText, List.all_eq_true, ink_eq_nil_iff]

theorem ink_dropWhile (t : List Char) : ink (t.dropWhile isBlank) = ink t := by
  have hblank : ink (t.takeWhile isBlank) = [] := ink_eq_nil_iff.2 fun c hc => List.mem_takeWhile_imp hc
  conv_rhs => rw [← List.takeWhile_append_dropWhile (p := isBlank) (l := t), ink_append, hblank, List.nil_append]

@[simp]
theorem ink_stripLeft (t : List Char) : ink (stripLeft t) = ink t := ink_dropWhile t

@[simp]
theorem ink_strip (t : List Char) : ink (strip t) = ink t := by
  show ink ((stripLeft t).reverse.dropWhile isBlank).reverse = ink t
  rw [ink_reverse, ink_dropWhile, ink_reverse, List.reverse_reverse, ink_stripLeft]

theorem flatMap_ink_splitStep {c : Char} (ls : List (List Char)) :
    (splitStep '\n' c ls).flatMap ink = ink [c] ++ ls.flatMap ink := by
  unfold splitStep
  split <;> split
  · next hc =>
    rw [beq_iff_eq.1 hc]
    rfl
  · simp
  · next hc =>
    rw [beq_iff_eq.1 hc]
    rfl
  · next l ls _ =>
    rw [List.flatMap_cons, List.flatMap_cons, ← List.append_assoc, ← ink_append, List.singleton_append]

theorem flatMap_ink_lines (t : List Char) : (lines t).flatMap ink = ink t := by
  show (t.foldr (splitStep '\n') [[]]).flatMap ink = ink t
  induction t with
  | nil => rfl
  | cons c t ih => rw [List.foldr_cons, flatMap_ink_splitStep, ih, ← ink_append, List.singleton_append]

theorem ink_unlines (ls : List (List Char)) : ink (unlines ls) = ls.flatMap ink := by
  show ink (['\n'].intercalate ls) = _
  induction ls with
  | nil => rfl
  | cons l ls ih =>
    cases ls with
    | nil => simp [List.intercalate_singleton]
    | cons m ls =>
      have hfeed : ink ['\n'] = [] := rfl
      rw [List.intercalate_cons_cons, ink_append, ink_append, ih, hfeed, List.append_nil]
      rfl

end Text

/-! ## Cleaning -/

namespace Docstring

open CodeSurvey.Text

theorem ink_expandTabsFrom (t : List Char) :
    ∀ column acc, ink (expandTabsFrom column acc t).reverse = ink acc.reverse ++ ink t := by
  induction t with
  | nil =>
    intro column acc
    exact (List.append_nil _).symm
  | cons c r ih =>
    intro column acc
    have hcons : ink (c :: acc).reverse ++ ink r = ink acc.reverse ++ ink (c :: r) := by
      rw [List.reverse_cons, ink_append, List.append_assoc, ← ink_append, List.singleton_append]
    unfold expandTabsFrom
    split
    · next hc =>
      have hblanks : ∀ n, ink (List.replicate n ' ') = [] := fun n => by
        simp [ink_eq_nil_iff, List.mem_replicate, isBlank]
      have htab : ink ['\t'] = [] := rfl
      rw [ih, List.reverse_append, ink_append, ink_reverse (List.replicate _ _), hblanks, beq_iff_eq.1 hc,
        ← List.singleton_append, ink_append, htab]
      simp
    · split <;> rw [ih, hcons]

theorem ink_expandTabs (t : List Char) : ink (expandTabs t) = ink t := ink_expandTabsFrom t 0 []

/-- A margin that is no wider than the indentations of all lines that are not blank holds white space only. -/
theorem ink_drop_margin {margin : Nat} {line : List Char} (h : ∀ n ∈ indentation? line, margin ≤ n) :
    ink (line.drop margin) = ink line := by
  have hmargin : ink (line.take margin) = [] := by
    rw [ink_eq_nil_iff]
    intro c hc
    unfold indentation? at h
    dsimp only at h
    split at h
    · next hempty =>
      have hall : ink line = [] := by rw [← ink_stripLeft, List.isEmpty_iff.1 hempty]; rfl
      exact ink_eq_nil_iff.1 hall c (List.mem_of_mem_take hc)
    · -- the indentation is the width of the white space in front
      have hwidth : margin ≤ (line.takeWhile isBlank).length := by
        have hle := h _ rfl
        have hlength := congrArg List.length (List.takeWhile_append_dropWhile (p := isBlank) (l := line))
        rw [List.length_append] at hlength
        simp only [stripLeft, stripLeftBy] at hle
        omega
      rw [← List.takeWhile_append_dropWhile (p := isBlank) (l := line), List.take_append_of_le_length hwidth] at hc
      exact List.mem_takeWhile_imp (List.mem_of_mem_take hc)
  conv_rhs => rw [← List.take_append_drop margin line, ink_append, hmargin, List.nil_append]

theorem flatMap_ink_dropWhile (ls : List (List Char)) : (ls.dropWhile (·.isEmpty)).flatMap ink = ls.flatMap ink := by
  induction ls with
  | nil => rfl
  | cons l ls ih =>
    rw [List.dropWhile_cons]
    split
    · next hempty =>
      rw [ih, List.isEmpty_iff.1 hempty]
      rfl
    · rfl

theorem flatMap_ink_reverse_dropWhile (ls : List (List Char)) :
    ((ls.reverse.dropWhile (·.isEmpty)).reverse).flatMap ink = ls.flatMap ink := by
  have hsplit : ls = (ls.reverse.dropWhile (·.isEmpty)).reverse ++ (ls.reverse.takeWhile (·.isEmpty)).reverse := by
    rw [← List.reverse_append, List.takeWhile_append_dropWhile, List.reverse_reverse]
  have hempty : ((ls.reverse.takeWhile (·.isEmpty)).reverse).flatMap ink = [] := by
    rw [List.flatMap_eq_nil_iff]
    intro l hl
    rw [List.isEmpty_iff.1 (List.mem_takeWhile_imp (List.mem_reverse.1 hl))]
    rfl
  conv_rhs => rw [hsplit, List.flatMap_append, hempty, List.append_nil]

/-- Cleaning takes away nothing but white space. -/
theorem ink_clean (doc : List Char) : ink (clean doc) = ink doc := by
  have hlines := flatMap_ink_lines (expandTabs doc)
  rw [ink_expandTabs] at hlines
  unfold clean
  split
  · next hnone =>
    rw [hnone] at hlines
    exact hlines
  · next first more hsome =>
    rw [hsome] at hlines
    rw [ink_unlines, flatMap_ink_reverse_dropWhile, flatMap_ink_dropWhile, List.flatMap_cons, ink_stripLeft, ← hlines,
      List.flatMap_cons]
    congr 1
    split
    · next margin hmin =>
      rw [List.flatMap_map]
      refine List.flatMap_congr fun line hline => ink_drop_margin fun n hn => ?_
      exact (List.min?_eq_some_iff.1 hmin).2 n (List.mem_filterMap.2 ⟨line, hline, hn⟩)
    · rfl

theorem clean_ne_nil {doc : List Char} (h : isBlankText doc = false) : clean doc ≠ [] := by
  intro hnil
  have hink : ink doc = [] := by rw [← ink_clean, hnil]; rfl
  rw [isBlankText_iff.2 hink] at h
  cases h

/-! ## Look-up by line -/

open CodeSurvey.Python

variable {t : List Char} {tree n : Node} {d : Definition}

theorem ofNode?_eq_none {line : Nat} (h : n.definitionLine? ≠ some line) : ofNode? line n = none := by
  unfold ofNode?
  cases hd : n.definition? with
  | none => rfl
  | some d =>
    cases hdoc : d.doc with
    | none => simp [hdoc]
    | some doc =>
      have hline : ¬ (n.line : Int) = line := by
        intro heq
        apply h
        rw [Node.definitionLine?, hd, Option.map_some, Int.ofNat_inj.1 heq]
      simp [hline]

/-- The documentation that is found on the line of a documented definition is its own. -/
theorem ofPython_line {doc : String} (h : parse t = .ok tree) (hn : n ∈ tree.walk) (hd : n.definition? = some d)
    (hdoc : d.doc = some doc) (hblank : isBlankText doc.toList = false) :
    ofPython t n.line = .ok (some (strip (clean doc.toList))) := by
  have hline : n.definitionLine? = some n.line := by rw [Node.definitionLine?, hd]; rfl
  obtain ⟨before, behind, hwalk, hothers⟩ := exists_walk_eq_append h hn hline
  have hbefore : before.findSome? (ofNode? n.line) = none :=
    List.findSome?_eq_none_iff.2 fun m hm => ofNode?_eq_none (hothers m (List.mem_append_left _ hm))
  have hown : ofNode? n.line n = some (strip (clean doc.toList)) := by
    simp [ofNode?, hd, hdoc, clean_ne_nil hblank]
  unfold ofPython
  rw [h]
  show Except.ok (tree.walk.findSome? (ofNode? n.line)) = _
  rw [hwalk, List.findSome?_append, hbefore, List.findSome?_cons, hown]
  rfl

end Docstring

/-! ## Symbols by line -/

namespace Python

variable {t : List Char} {tree n : Node} {d : Definition}

theorem Node.symbol?_lineStart {y : Symbol} (h : n.symbol? = some y) : n.definitionLine? = some y.lineStart := by
  unfold Node.symbol? at h
  unfold Node.definitionLine?
  split at h
  · next d hd =>
    rw [hd]
    split at h <;> cases h <;> rfl
  · cases h

theorem filter_symbols_line (h : parse t = .ok tree) (hn : n ∈ tree.walk) (hd : n.definition? = some d) :
    (symbols t).filter (·.lineStart == n.line) = n.symbol?.toList := by
  have hline : n.definitionLine? = some n.line := by rw [Node.definitionLine?, hd]; rfl
  obtain ⟨before, behind, hwalk, hothers⟩ := exists_walk_eq_append h hn hline
  have hnone : ∀ ms : List Node, (∀ m ∈ ms, m.definitionLine? ≠ some n.line) →
      (ms.filterMap Node.symbol?).filter (·.lineStart == n.line) = [] := by
    intro ms hms
    rw [List.filter_eq_nil_iff]
    intro y hy hsame
    obtain ⟨m, hm, hmy⟩ := List.mem_filterMap.1 hy
    exact hms m hm ((Node.symbol?_lineStart hmy).trans (congrArg some (beq_iff_eq.1 hsame)))
  unfold symbols
  rw [h]
  show (tree.walk.filterMap Node.symbol?).filter (·.lineStart == n.line) = _
  rw [hwalk, List.filterMap_append, List.filter_append, hnone before fun m hm => hothers m (List.mem_append_left _ hm),
    List.nil_append, ← List.singleton_append, List.filterMap_append, List.filter_append,
    hnone behind fun m hm => hothers m (List.mem_append_right _ hm), List.append_nil]
  cases hy : n.symbol? with
  | none => simp [hy]
  | some y =>
    have hstart := Option.some.inj ((Node.symbol?_lineStart hy).symm.trans hline)
    simp [hy, hstart]

end Python

end CodeSurvey
