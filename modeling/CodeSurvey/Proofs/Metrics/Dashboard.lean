/-
The quality at large. An index of maintainability is a whole number of hundredths (`isIndex_maintainabilityOf`), so that
the bounds at which indices are counted leave none out between two ratings (`IsIndex.isRated_iff`). The symbols are
counted by the ratings that their code has been given (`dashboard_counts_ratings`).
-/
import CodeSurvey.Api.Advice
import CodeSurvey.Proofs.Api.Answering
import CodeSurvey.Proofs.Decimal.Double
import CodeSurvey.Proofs.Parse.Bookkeeping

namespace CodeSurvey

/-! ## Ratings -/

namespace Metrics

/-- A number of hundredths between 0 and 100. -/
def IsIndex (x : Float) : Prop := ∃ n ≤ 10000, x = Decimal.ofScaled false n 2

/-- A double that is kept between 0 and 100 is rounded to an index. What is not a number counts as 100. -/
theorem isIndex_roundTo_clamped (x : Float) :
    IsIndex (Decimal.roundTo 2 (if 0 < (if x < 100 then x else 100) then (if x < 100 then x else 100) else 0)) := by
  by_cases hhi : x < 100
  · rw [if_pos hhi]
    by_cases hlo : 0 < x
    · rw [if_pos hlo]
      exact Decimal.exists_roundTo_of_between hlo hhi
    · rw [if_neg hlo]
      refine Decimal.exists_roundTo_eq_ofScaled Decimal.ofFloat?_zero rfl ?_
      rw [Decimal.Binary.value_zero]
      norm_num
  · rw [if_neg hhi, if_pos (by decide)]
    exact Decimal.exists_roundTo_eq_ofScaled Decimal.ofFloat?_hundred rfl Decimal.value_hundred.le

theorem isIndex_maintainabilityOf (complexity codeLines commentLines : Float) :
    IsIndex (maintainabilityOf complexity codeLines commentLines) := by
  unfold maintainabilityOf
  by_cases hcode : codeLines ≤ 0
  · rw [if_pos hcode]
    exact ⟨10000, le_rfl, rfl⟩
  · rw [if_neg hcode]
    exact isIndex_roundTo_clamped _

theorem isIndex_quality (lang : Option Language) (t : List Char) : IsIndex (quality lang t).maintainability :=
  isIndex_maintainabilityOf _ _ _

theorem maintainability_quality_of_no_code {lang : Option Language} {t : List Char} (h : (countLines lang t).code = 0) :
    (quality lang t).maintainability = 100 := by
  show maintainabilityOf (Decimal.ofInt (complexity lang t)) (Decimal.ofInt (countLines lang t).code)
    (Decimal.ofInt (countLines lang t).comments) = 100
  rw [h]
  exact if_pos (by decide)

def Rating.Spans : Rating → Nat → Prop
  | excellent, n => 8500 ≤ n
  | good, n => 6500 ≤ n ∧ n ≤ 8499
  | fair, n => 5000 ≤ n ∧ n ≤ 6499
  | poor, n => n < 5000

theorem hundredths_le_iff {i j : Nat} (hi : i ≤ 10000) (hj : j ≤ 10000) :
    Decimal.ofScaled false i 2 ≤ Decimal.ofScaled false j 2 ↔ i ≤ j :=
  Decimal.ofScaled_le_iff (by omega) (by omega)

theorem hundredths_lt_iff {i j : Nat} (hi : i ≤ 10000) (hj : j ≤ 10000) :
    Decimal.ofScaled false i 2 < Decimal.ofScaled false j 2 ↔ i < j :=
  Decimal.ofScaled_lt_iff (by omega) (by omega)

section

variable {n : Nat} (hn : n ≤ 10000)

include hn

theorem isRated_hundredths_iff (r : Rating) : Quality.isRated r (Decimal.ofScaled false n 2) = true ↔ r.Spans n := by
  -- the bounds are numbers of hundredths themselves
  cases r with
  | excellent => exact decide_eq_true_iff.trans (hundredths_le_iff (i := 8500) (by decide) hn)
  | good =>
    exact Bool.and_eq_true_iff.trans
      (and_congr (decide_eq_true_iff.trans (hundredths_le_iff (i := 6500) (by decide) hn))
      (decide_eq_true_iff.trans (hundredths_le_iff (j := 8499) hn (by decide))))
  | fair =>
    exact Bool.and_eq_true_iff.trans
      (and_congr (decide_eq_true_iff.trans (hundredths_le_iff (i := 5000) (by decide) hn))
      (decide_eq_true_iff.trans (hundredths_le_iff (j := 6499) hn (by decide))))
  | poor => exact decide_eq_true_iff.trans (hundredths_lt_iff (j := 5000) hn (by decide))

theorem ofIndex_hundredths_iff (r : Rating) : Rating.ofIndex (Decimal.ofScaled false n 2) = r ↔ r.Spans n := by
  have h85 : (85 : Float) ≤ Decimal.ofScaled false n 2 ↔ 8500 ≤ n := hundredths_le_iff (i := 8500) (by decide) hn
  have h65 : (65 : Float) ≤ Decimal.ofScaled false n 2 ↔ 6500 ≤ n := hundredths_le_iff (i := 6500) (by decide) hn
  have h50 : (50 : Float) ≤ Decimal.ofScaled false n 2 ↔ 5000 ≤ n := hundredths_le_iff (i := 5000) (by decide) hn
  simp only [Rating.ofIndex, h85, h65, h50]
  cases r <;> simp only [Rating.Spans] <;> split_ifs <;> simp <;> omega

end

variable {x : Float}

/-- An index is counted for its rating, and for no other one. -/
theorem IsIndex.isRated_iff (hx : IsIndex x) (r : Rating) : Quality.isRated r x = true ↔ Rating.ofIndex x = r := by
  obtain ⟨n, hn, rfl⟩ := hx
  rw [isRated_hundredths_iff hn, ofIndex_hundredths_iff hn]

/-- An index below 65 is one with one of the two worse ratings. -/
theorem IsIndex.lt_iff (hx : IsIndex x) : x < 65 ↔ Rating.ofIndex x = .fair ∨ Rating.ofIndex x = .poor := by
  obtain ⟨n, hn, rfl⟩ := hx
  rw [ofIndex_hundredths_iff hn, ofIndex_hundredths_iff hn]
  refine (hundredths_lt_iff (j := 6500) hn (by decide)).trans ?_
  show n < 6500 ↔ (5000 ≤ n ∧ n ≤ 6499) ∨ n < 5000
  omega

theorem Rating.count_add (l : List Rating) :
    l.count excellent + l.count good + l.count fair + l.count poor = l.length := by
  induction l with
  | nil => rfl
  | cons r l ih => cases r <;> simp only [List.count_cons, List.length_cons] <;> simp <;> omega

end Metrics

/-! ## Grades -/

namespace Quality

def Grade.ofComplexity (n : Nat) : Grade :=
  if n ≤ 10 then simple else if n ≤ 20 then moderate else if n ≤ 50 then complex else veryComplex

theorem isGraded_iff (n : Nat) (g : Grade) : isGraded g n = true ↔ Grade.ofComplexity n = g := by
  unfold Grade.ofComplexity
  cases g <;> simp only [isGraded, Bool.and_eq_true, decide_eq_true_eq] <;> split_ifs <;> simp <;> omega

theorem lt_iff_ofComplexity (n : Nat) :
    (20 : Int) < n ↔ Grade.ofComplexity n = .complex ∨ Grade.ofComplexity n = .veryComplex := by
  unfold Grade.ofComplexity
  split_ifs <;> simp <;> omega

theorem Grade.count_add (l : List Grade) :
    l.count simple + l.count moderate + l.count complex + l.count veryComplex = l.length := by
  induction l with
  | nil => rfl
  | cons g l ih => cases g <;> simp only [List.count_cons, List.length_cons] <;> simp <;> omega

/-! ## Counts -/

theorem countP_map_eq_count {α β : Type} [DecidableEq β] {f : α → β} {p : α → Bool} {b : β} {l : List α}
    (h : ∀ a ∈ l, p a = true ↔ f a = b) : l.countP p = (l.map f).count b := by
  rw [List.count_eq_countP, List.countP_map]
  refine List.countP_congr fun a ha => (h a ha).trans ?_
  simp

theorem countP_map_eq_count_add {α β : Type} [DecidableEq β] {f : α → β} {p : α → Bool} {b c : β}
    (hne : b ≠ c) {l : List α} (h : ∀ a ∈ l, p a = true ↔ f a = b ∨ f a = c) : l.countP p =
      (l.map f).count b + (l.map f).count c := by
  induction l with
  | nil => rfl
  | cons a l ih =>
    obtain ⟨ha, hl⟩ := List.forall_mem_cons.1 h
    rw [List.countP_cons, ih hl, List.map_cons, List.count_cons, List.count_cons]
    by_cases hp : p a = true
    · rcases ha.1 hp with hb | hc
      · simp [hp, hb, hne]
        omega
      · simp [hp, hc, hne.symm]
        omega
    · have hb : f a ≠ b := fun hb => hp (ha.2 (.inl hb))
      have hc : f a ≠ c := fun hc => hp (ha.2 (.inr hc))
      simp [hp, hb, hc]

end Quality

/-- The measures of a piece of code, as they are counted. -/
def Metrics.Quality.measure (q : Metrics.Quality) : Quality.Measure := ⟨q.complexity, some q.maintainability⟩

def Metrics.Quality.grade (q : Metrics.Quality) : Quality.Grade := .ofComplexity q.complexity

namespace Api

/-- The record of the quality at large for symbols with these classes and ratings. -/
def overview (grades : List Quality.Grade) (ratings : List Metrics.Rating) (meanComplexity meanIndex : Float) : Json :=
  .obj [("total_symbols", .int ratings.length), ("average_complexity", .float meanComplexity),
    ("average_maintainability", .float meanIndex),
    ("high_complexity_count", .int (grades.count .complex + grades.count .veryComplex : Nat)),
    ("low_maintainability_count", .int (ratings.count .fair + ratings.count .poor : Nat)),
    ("complexity_distribution", .obj [("simple (1-10)", .int (grades.count .simple)),
      ("moderate (11-20)", .int (grades.count .moderate)), ("complex (21-50)", .int (grades.count .complex)),
      ("very_complex (50+)", .int (grades.count .veryComplex))]),
    ("maintainability_distribution", .obj [("excellent (85-100)", .int (ratings.count .excellent)),
      ("good (65-84)", .int (ratings.count .good)), ("fair (50-64)", .int (ratings.count .fair)),
      ("poor (<50)", .int (ratings.count .poor))])]

theorem qualityRecord_eq_overview {l : List Metrics.Quality} (hl : ∀ q ∈ l, ∃ lang t, q = Metrics.quality lang t) :
    qualityRecord (l.map (·.measure)) = overview (l.map (·.grade)) (l.map (·.rating))
    (Quality.meanComplexity (l.map (·.measure)))
      (Quality.meanIndex (l.map (·.measure))) := by
  have hindex : ∀ q ∈ l, Metrics.IsIndex q.maintainability ∧ q.rating = .ofIndex q.maintainability := by
    intro q hq
    obtain ⟨lang, t, rfl⟩ := hl q hq
    exact ⟨Metrics.isIndex_quality lang t, rfl⟩
  have hgraded (g : Quality.Grade) : Quality.graded (Quality.isGraded g) (l.map (·.measure)) =
      (l.map (·.grade)).count g := by
    unfold Quality.graded
    rw [List.countP_map]
    exact Quality.countP_map_eq_count fun q _ => Quality.isGraded_iff q.complexity g
  have hrated (r : Metrics.Rating) : Quality.indexed (Quality.isRated r) (l.map (·.measure)) =
      (l.map (·.rating)).count r := by
    unfold Quality.indexed
    rw [List.countP_map]
    refine Quality.countP_map_eq_count fun q hq => ?_
    rw [(hindex q hq).2]
    exact (hindex q hq).1.isRated_iff r
  have hhigh : Quality.graded (20 < ·) (l.map (·.measure)) =
      (l.map (·.grade)).count .complex + (l.map (·.grade)).count .veryComplex := by
    unfold Quality.graded
    rw [List.countP_map]
    exact Quality.countP_map_eq_count_add (by decide) fun q _ =>
      decide_eq_true_iff.trans (Quality.lt_iff_ofComplexity q.complexity)
  have hlow : Quality.indexed (· < 65) (l.map (·.measure)) =
      (l.map (·.rating)).count .fair + (l.map (·.rating)).count .poor := by
    unfold Quality.indexed
    rw [List.countP_map]
    refine Quality.countP_map_eq_count_add (by decide) fun q hq => ?_
    rw [(hindex q hq).2]
    exact decide_eq_true_iff.trans (hindex q hq).1.lt_iff
  unfold qualityRecord overview
  simp only [hgraded, hrated, hhigh, hlow, List.length_map]

end Api

/-! ## The symbols that are counted -/

/-- A row carries the measures of a piece of code. -/
structure SymbolRow.Carries (y : SymbolRow) (q : Metrics.Quality) : Prop where
  complexity : y.complexity = some (q.complexity : Int)
  maintainability : y.maintainability = some q.maintainability

def Request.AsksFor (r : Request) (repository : Option Id) : Prop :=
  (r.param? "repository_id").elim (some none) (fun s => (Id.ofText? s.toList).map some) = some repository

namespace Store

variable {s : Store} {repository : Option Id}

def measured (s : Store) (repository : Option Id) : List SymbolRow := (s.scope repository).filter (·.complexity.isSome)

theorem filterMap_measure?_measured : (s.measured repository).filterMap SymbolRow.measure? = s.measures repository := by
  unfold measured measures
  rw [List.filterMap_filter]
  refine List.filterMap_congr fun y _ => ?_
  cases hy : y.complexity with
  | none => simp [SymbolRow.measure?, hy]
  | some n => simp

theorem filterMap_measure?_of_carries {rows : List SymbolRow} {qualities : List Metrics.Quality}
    (h : List.Forall₂ SymbolRow.Carries rows qualities) : rows.filterMap SymbolRow.measure? =
      qualities.map (·.measure) := by
  induction h with
  | nil => rfl
  | cons hy _ ih =>
    rw [List.filterMap_cons, SymbolRow.measure?, hy.complexity, hy.maintainability, List.map_cons, ih]
    rfl

end Store

/-- The quality at large of symbols that carry the measures of pieces of code. Each symbol is counted once by its
complexity and once by the rating of its code, where the complexities are positive and the indices are numbers of
hundredths up to 100. -/
theorem dashboard_counts_ratings (v : Service) (r : Request) (repository : Option Id) (hasked : r.AsksFor repository)
    (qualities : List Metrics.Quality)
    (hcarried : List.Forall₂ SymbolRow.Carries (v.store.measured repository) qualities)
    (hwritten : ∀ q ∈ qualities, ∃ lang t, q = Metrics.quality lang t) :
    let grades := qualities.map (·.grade)
    let ratings := qualities.map (·.rating)
    (qualities = [] → (Api.dashboard r).run v = (.ok (.obj [("message", .str "No quality metrics available")]), v)) ∧
    (qualities ≠ [] →
      (Api.dashboard r).run v = (.ok (Api.overview grades ratings (Quality.meanComplexity (v.store.measures repository))
      (Quality.meanIndex (v.store.measures repository))), v)) ∧
    grades.count .simple + grades.count .moderate + grades.count .complex + grades.count .veryComplex =
      qualities.length ∧
    ratings.count .excellent + ratings.count .good + ratings.count .fair + ratings.count .poor = qualities.length ∧
    ∀ q ∈ qualities, 1 ≤ q.complexity ∧ Metrics.IsIndex q.maintainability := by
  intro grades ratings
  have hmeasures : v.store.measures repository = qualities.map (·.measure) := by
    rw [← Store.filterMap_measure?_measured, Store.filterMap_measure?_of_carries hcarried]
  have hparam : (Api.repositoryParam r).run v = (.ok repository, v) :=
    (Answering.Yields.of_param r _ _ _ v).run_eq hasked
  have hrun : (Api.dashboard r).run v = (.ok (if (v.store.measures repository).isEmpty then
      .obj [("message", .str "No quality metrics available")] else
      Api.qualityRecord (v.store.measures repository)), v) :=
    Answering.run_bind_ok hparam
  refine ⟨?_, ?_, ?_, ?_, ?_⟩
  · intro hnone
    rw [hrun, hmeasures, hnone]
    rfl
  · intro hsome
    rw [hrun, hmeasures, if_neg (by simpa using hsome), Api.qualityRecord_eq_overview hwritten]
  · exact (Quality.Grade.count_add grades).trans (List.length_map _)
  · exact (Metrics.Rating.count_add ratings).trans (List.length_map _)
  · intro q hq
    obtain ⟨lang, t, rfl⟩ := hwritten q hq
    exact ⟨Metrics.one_le_complexity lang t, Metrics.isIndex_quality lang t⟩

namespace Metrics.Quality

/-- The measures of a comment with `n` words that would open a path. -/
def ofRemark (n : Nat) : Quality := quality (some .python) ('#' :: (List.replicate n " if".toList).flatten)

def ofAssignment : Quality := quality (some .python) "x = 1".toList

def samples : List Quality := [ofRemark 0, ofRemark 12, ofRemark 24, ofAssignment, ofRemark 60]

theorem maintainability_ofRemark : ∀ n ∈ [0, 12, 24, 60], (ofRemark n).maintainability = 100 := by
  have hcode : ∀ n ∈ [0, 12, 24, 60], (ofRemark n).codeLines = 0 := by decide +kernel
  exact fun n hn => maintainability_quality_of_no_code (hcode n hn)

/-- The comments have the best rating. That of the assignment rests on logarithms. -/
theorem map_rating_samples :
    samples.map (·.rating) = [.excellent, .excellent, .excellent, ofAssignment.rating, .excellent] := by
  have hrating : ∀ n ∈ [0, 12, 24, 60], (ofRemark n).rating = .excellent := by
    intro n hn
    show Rating.ofIndex (ofRemark n).maintainability = .excellent
    rw [maintainability_ofRemark n hn]
    decide
  simp [samples, hrating]

end Metrics.Quality

/-- A store with symbols that have the measures of comments and of an assignment, and a symbol without measures. -/
def Store.commented : Store :=
  let s := ({} : Store).addRepository (RepositoryRow.blank "tool")
  let s := s.addFile fun id now => ⟨id, Id.nth 0, "a.py", "python", 1, none, now⟩
  let row (complexity : Option Int) (index : Option Float) (id : Id) (now : Moment) : SymbolRow :=
    ⟨id, Id.nth 1, "f", .function, 1, none, none, complexity, index, none, none, none, false, none, now⟩
  s.addSymbols [row (some 1) (some 100), row (some 13) (some 100), row none none, row (some 25) (some 100),
    row (some 1) (some Metrics.Quality.ofAssignment.maintainability), row (some 61) (some 100)]

/-- All four grades are counted. -/
theorem dashboard_counts_ratings_commented :
    (Api.dashboard ⟨"GET", [], [], [], .empty⟩).run (Service.idle Store.commented) =
      (.ok (Api.overview [.simple, .moderate, .complex, .simple, .veryComplex]
        [.excellent, .excellent, .excellent, Metrics.Quality.ofAssignment.rating, .excellent]
        (Quality.meanComplexity (Store.commented.measures none)) (Quality.meanIndex (Store.commented.measures none))),
        Service.idle Store.commented) := by
  have hcomplexity : ∀ n ∈ [0, 12, 24, 60], (Metrics.Quality.ofRemark n).complexity = n + 1 := by decide +kernel
  have hassigned : Metrics.Quality.ofAssignment.complexity = 1 := by decide +kernel
  have hremark (row : SymbolRow) (n : Nat) (hn : n ∈ [0, 12, 24, 60])
      (hrow : row.complexity = some ((n + 1 : Nat) : Int)) (hbest : row.maintainability = some 100) :
      row.Carries (.ofRemark n) :=
    ⟨by rw [hrow, hcomplexity n hn], by rw [hbest, Metrics.Quality.maintainability_ofRemark n hn]⟩
  have hcarried : List.Forall₂ SymbolRow.Carries (Store.commented.measured none) Metrics.Quality.samples :=
    .cons (hremark _ 0 (by decide) rfl rfl) <| .cons (hremark _ 12 (by decide) rfl rfl) <|
      .cons (hremark _ 24 (by decide) rfl rfl) <| .cons ⟨by rw [hassigned]; rfl, rfl⟩ <|
      .cons (hremark _ 60 (by decide) rfl rfl) .nil
  have hwritten : ∀ q ∈ Metrics.Quality.samples, ∃ lang t, q = Metrics.quality lang t := by
    simp [Metrics.Quality.samples, Metrics.Quality.ofRemark, Metrics.Quality.ofAssignment]
  have hgrades : Metrics.Quality.samples.map (·.grade) = [.simple, .moderate, .complex, .simple, .veryComplex] := by
    decide +kernel
  have hcounts :=
    (dashboard_counts_ratings (Service.idle Store.commented) ⟨"GET", [], [], [], .empty⟩ none rfl _ hcarried
    hwritten).2.1 (List.cons_ne_nil _ _)
  rwa [hgrades, Metrics.Quality.map_rating_samples] at hcounts

end CodeSurvey
