/-
What a snapshot records. The numbers of files, lines and findings are those of the rows (`hasTrueCounts_figures`).
Symbols are never counted, and complexity is measured on the symbols above ten alone: their greatest and their mean take
the place of those of all symbols (`greatest_filter_high`, `exactMean_filter_high_iff`). So a snapshot is true exactly
if the repository has no symbols (`takeSnapshot_isTrueOf_iff`).
-/
import CodeSurvey.Api.Upload
import CodeSurvey.Metrics.Snapshot
import Mathlib.Data.Rat.Cast.Order
import Mathlib.Tactic.Linarith

namespace CodeSurvey

/-- The number of code smells of a severity, as a snapshot has it. -/
def Figures.smellsOfSeverity (f : Figures) : Severity → Int
  | .critical => f.criticalSmells
  | .high => f.highSmells
  | .medium => f.mediumSmells
  | .low => f.lowSmells

namespace Store

def complexities (s : Store) (r : Id) : List Int := (s.symbolsOf r).filterMap (·.1.complexity)

end Store

/-- The figures of files, complex symbols and findings are those of the rows. -/
structure Figures.HasTrueCounts (f : Figures) (s : Store) (r : Id) : Prop where
  files : f.files = (s.filesOf r).length
  lines : f.lines = intTotal ((s.filesOf r).map (·.lineCount))
  highComplexity : f.highComplexity = (s.complexities r).countP (10 < ·)
  smells : f.smells = (s.smellsOf r).length
  smellsOfSeverity : ∀ severity, f.smellsOfSeverity severity = (s.smellsOf r).countP (·.severity == severity)
  vulnerabilities : f.vulnerabilities = (s.vulnerabilitiesOf r).length
  criticalVulnerabilities : f.criticalVulnerabilities = (s.vulnerabilitiesOf r).countP (·.severity == "critical")
  highVulnerabilities : f.highVulnerabilities = (s.vulnerabilitiesOf r).countP (·.severity == "high")

/-- All figures are those of the rows: symbols are counted, and complexity is that of all symbols for which it is known.
-/
structure Figures.IsTrueOf (f : Figures) (s : Store) (r : Id) : Prop extends f.HasTrueCounts s r where
  symbols : f.symbols = (s.symbolsOf r).length
  averageComplexity : f.averageComplexity = Store.mean (s.complexities r)
  maxComplexity : f.maxComplexity = Store.greatest (s.complexities r)

/-! ## The greatest and the mean of the numbers above ten -/

/-- The mean of numbers as a fraction, zero if there are none. -/
def exactMean (l : List Int) : ℚ := (intTotal l : ℚ) / l.length

theorem greatest_filter_high (l : List Int) :
    Store.greatest (l.filter (10 < ·)) = if 10 < Store.greatest l then Store.greatest l else 0 := by
  unfold Store.greatest
  cases hmax : l.max? with
  | none =>
    rw [List.max?_eq_none_iff] at hmax
    subst hmax
    rfl
  | some m =>
    obtain ⟨hm, hle⟩ := List.max?_eq_some_iff.1 hmax
    simp only [Option.getD_some]
    split
    · next hhigh =>
      have hmaxHigh : (l.filter (10 < ·)).max? = some m := by
        refine List.max?_eq_some_iff.2 ⟨?_, fun b hb => hle b (List.mem_filter.1 hb).1⟩
        exact List.mem_filter.2 ⟨hm, decide_eq_true hhigh⟩
      rw [hmaxHigh, Option.getD_some]
    · next hlow =>
      have hnone : l.filter (10 < ·) = [] := by
        rw [List.filter_eq_nil_iff]
        intro b hb hhigh
        have hbm := hle b hb
        have hb10 : 10 < b := of_decide_eq_true hhigh
        omega
      rw [hnone]
      rfl

theorem intTotal_cons (c : Int) (l : List Int) : intTotal (c :: l) = c + intTotal l := rfl

theorem mul_length_le_intTotal {l : List Int} (h : ∀ c ∈ l, 10 < c) : 11 * (l.length : Int) ≤ intTotal l := by
  induction l with
  | nil => exact Int.le_refl 0
  | cons c l ih =>
    have hc := h c List.mem_cons_self
    have hrest := ih fun d hd => h d (List.mem_cons_of_mem c hd)
    rw [intTotal_cons, List.length_cons]
    omega

theorem intTotal_sub_filter_high_le (l : List Int) :
    intTotal l - intTotal (l.filter (10 < ·)) ≤ 10 * ((l.length : Int) - (l.filter (10 < ·)).length) := by
  induction l with
  | nil => exact Int.le_refl 0
  | cons c l ih =>
    by_cases hc : 10 < c
    · rw [List.filter_cons_of_pos (by simpa using hc), intTotal_cons, intTotal_cons, List.length_cons, List.length_cons]
      omega
    · rw [List.filter_cons_of_neg (by simpa using hc), intTotal_cons, List.length_cons]
      omega

/-- The mean of the numbers above ten is that of all numbers only if there are no others, or if there are only others
and they cancel out. -/
theorem exactMean_filter_high_iff (l : List Int) : exactMean (l.filter (10 < ·)) = exactMean l ↔
    (∀ c ∈ l, 10 < c) ∨ (∀ c ∈ l, c ≤ 10) ∧ intTotal l = 0 := by
  have hall : l.filter (10 < ·) = l ↔ ∀ c ∈ l, 10 < c := by
    rw [List.filter_eq_self]
    simp
  have hnone : l.filter (10 < ·) = [] ↔ ∀ c ∈ l, c ≤ 10 := by
    rw [List.filter_eq_nil_iff]
    simp
  rw [← hall, ← hnone]
  have hsub : (l.filter (10 < ·)).Sublist l := List.filter_sublist
  have hrest := intTotal_sub_filter_high_le l
  have hhigh : 11 * ((l.filter (10 < ·)).length : Int) ≤ intTotal (l.filter (10 < ·)) :=
    mul_length_le_intTotal fun c hc => of_decide_eq_true (List.mem_filter.1 hc).2
  generalize l.filter (10 < ·) = m at *
  unfold exactMean
  constructor
  · intro heq
    by_cases hm : m = []
    · subst hm
      refine .inr ⟨rfl, ?_⟩
      have hzero : (intTotal l : ℚ) / l.length = 0 := by
        rw [← heq]
        simp
      rcases div_eq_zero_iff.1 hzero with htotal | hlength
      · exact_mod_cast htotal
      · have hnil : l = [] := List.length_eq_zero_iff.1 (by exact_mod_cast hlength)
        rw [hnil]
        rfl
    · refine .inl (hsub.eq_of_length_le ?_)
      have hpos : 0 < m.length := List.length_pos_iff.2 hm
      have hle : m.length ≤ l.length := hsub.length_le
      have hcross : intTotal m * l.length = intTotal l * m.length := by
        rw [div_eq_div_iff (by exact_mod_cast hpos.ne') (by exact_mod_cast (hpos.trans_le hle).ne')] at heq
        exact_mod_cast heq
      -- otherwise the numbers above ten pull their own mean above that of all
      by_contra hlt
      have hmore : 0 < (intTotal m - 10 * m.length) * ((l.length : Int) - m.length) :=
        Int.mul_pos (by omega) (by omega)
      nlinarith
  · rintro (rfl | ⟨rfl, htotal⟩)
    · rfl
    · simp [htotal]

/-! ## Snapshots -/

namespace Store

variable (s : Store) (r : Id)

theorem hasTrueCounts_figures : (s.figures r).HasTrueCounts s r where
  files := rfl
  lines := rfl
  highComplexity := congrArg Int.ofNat List.countP_eq_length_filter.symm
  smells := rfl
  smellsOfSeverity severity := by
    cases severity <;> exact congrArg Int.ofNat List.countP_eq_length_filter.symm
  vulnerabilities := rfl
  criticalVulnerabilities := congrArg Int.ofNat List.countP_eq_length_filter.symm
  highVulnerabilities := congrArg Int.ofNat List.countP_eq_length_filter.symm

theorem isTrueOf_figures_iff : (s.figures r).IsTrueOf s r ↔ s.symbolsOf r = [] := by
  constructor
  · intro h
    have hsymbols : (0 : Int) = (s.symbolsOf r).length := h.symbols
    exact List.length_eq_zero_iff.1 (by omega)
  · intro hnone
    have hcomplexities : s.complexities r = [] := by rw [complexities, hnone]; rfl
    have hhigh : s.highComplexities r = [] := by rw [highComplexities, hnone]; rfl
    refine ⟨s.hasTrueCounts_figures r, ?_, ?_, ?_⟩
    · rw [hnone]
      rfl
    · show mean (s.highComplexities r) = _
      rw [hhigh, hcomplexities]
    · show greatest (s.highComplexities r) = _
      rw [hhigh, hcomplexities]

/-- Taking a snapshot adds one row and changes nothing else. The row has the true numbers of files, lines, findings and
symbols above ten. It counts no symbols; its greatest complexity is that of all symbols if this is above ten, and
otherwise zero; and its mean complexity is that of the symbols above ten, which as a fraction is the mean of all only if
all are above ten, or if none is and they cancel out. All its figures are true exactly if the repository has no symbols.
-/
theorem takeSnapshot_isTrueOf_iff :
    ∃ row, s.takeSnapshot r = { s with snapshots := s.snapshots ++ [row], issued := s.issued + 1 } ∧
      row.repositoryId = some r ∧ row.figures.HasTrueCounts s r ∧ row.figures.symbols = 0 ∧
      row.figures.maxComplexity = (if 10 < greatest (s.complexities r) then greatest (s.complexities r) else 0) ∧
      row.figures.averageComplexity = mean ((s.complexities r).filter (10 < ·)) ∧
      (exactMean ((s.complexities r).filter (10 < ·)) = exactMean (s.complexities r) ↔
        (∀ c ∈ s.complexities r, 10 < c) ∨ (∀ c ∈ s.complexities r, c ≤ 10) ∧ intTotal (s.complexities r) = 0) ∧
      (row.figures.IsTrueOf s r ↔ s.symbolsOf r = []) := by
  refine ⟨⟨s.nextId, some r, s.figures r, .null, s.now⟩, rfl, rfl, s.hasTrueCounts_figures r, rfl, ?_, rfl, ?_, ?_⟩
  · exact greatest_filter_high (s.complexities r)
  · exact exactMean_filter_high_iff (s.complexities r)
  · exact s.isTrueOf_figures_iff r

end Store

def SymbolRow.ofComplexity (file : Id) (complexity : Int) : Id → Moment → SymbolRow := fun id now =>
  { id := id, fileId := file, name := "f", kind := .function, lineStart := 1, lineEnd := some 20, signature := none,
    complexity := some complexity, maintainability := none, codeLines := none, commentLines := none, docstring := none,
    hasDocstring := false, docstringLength := none, created := now }

/-- A repository with a simple symbol and a complex one. -/
def Store.uneven : Store :=
  let s := ({} : Store).addRepository (RepositoryRow.blank "tool")
  let s := s.addFile fun id now => ⟨id, Id.nth 0, "a.py", "python", 20, none, now⟩
  s.addSymbols [.ofComplexity (Id.nth 1) 2, .ofComplexity (Id.nth 1) 12]

/-- Its snapshot has no symbols and a mean complexity of twelve, where there are two symbols with a mean of seven. -/
theorem Store.takeSnapshot_isTrueOf_iff_uneven :
    ∃ row, (Store.uneven.takeSnapshot (Id.nth 0)).snapshots = [row] ∧ row.figures.symbols = 0 ∧
      row.figures.averageComplexity = 12 ∧ (Store.uneven.symbolsOf (Id.nth 0)).length = 2 ∧
      Store.mean (Store.uneven.complexities (Id.nth 0)) = 7 ∧ exactMean (Store.uneven.complexities (Id.nth 0)) = 7 ∧
      ¬ row.figures.IsTrueOf Store.uneven (Id.nth 0) := by
  obtain ⟨row, hstore, -, -, hsymbols, -, haverage, -, htrue⟩ := Store.uneven.takeSnapshot_isTrueOf_iff (Id.nth 0)
  have hcomplexities : Store.uneven.complexities (Id.nth 0) = [2, 12] := rfl
  refine ⟨row, by rw [hstore]; rfl, hsymbols, ?_, rfl, ?_, ?_, ?_⟩
  · rw [haverage, hcomplexities]
    rfl
  · rw [hcomplexities]
    rfl
  · rw [hcomplexities]
    norm_num [exactMean, intTotal]
  · rw [htrue]
    exact List.cons_ne_nil _ _

end CodeSurvey
