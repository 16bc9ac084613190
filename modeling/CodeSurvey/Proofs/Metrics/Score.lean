/-
The quality score in exact arithmetic. Each of four groups of figures costs at most 25 of a hundred points (`CostGroup`,
`cost`), so the points add up without a cut at zero (`qualityScore_eq`), and what is said of the score is read off the
four costs.
-/
import CodeSurvey.Metrics.Snapshot
import Mathlib.Data.Rat.Cast.Order
import Mathlib.Tactic.Linarith
import Mathlib.Tactic.Ring

namespace CodeSurvey.Metrics

namespace ScoreInput

structure IsNonneg (m : ScoreInput ℚ) : Prop where
  complexity : 0 ≤ m.averageComplexity
  duplication : 0 ≤ m.duplicationPercentage
  smells : 0 ≤ m.smells
  critical : 0 ≤ m.criticalVulnerabilities
  high : 0 ≤ m.highVulnerabilities

/-- Every figure of the one input is at most that of the other. -/
structure IsAtMost (m m' : ScoreInput ℚ) : Prop where
  complexity : m.averageComplexity ≤ m'.averageComplexity
  duplication : m.duplicationPercentage ≤ m'.duplicationPercentage
  smells : m.smells ≤ m'.smells
  critical : m.criticalVulnerabilities ≤ m'.criticalVulnerabilities
  high : m.highVulnerabilities ≤ m'.highVulnerabilities

theorem IsNonneg.of_isAtMost {m m' : ScoreInput ℚ} (h : m.IsNonneg) (hle : m.IsAtMost m') : m'.IsNonneg :=
  ⟨h.complexity.trans hle.complexity, h.duplication.trans hle.duplication, h.smells.trans hle.smells,
    h.critical.trans hle.critical, h.high.trans hle.high⟩

end ScoreInput

/-- The groups of figures that points are taken for. -/
inductive CostGroup where
  | complexity
  | duplication
  | smells
  | vulnerabilities

/-- The weighted excess of a group over its free allowance; not positive if the group stays within it. -/
def overrun (m : ScoreInput ℚ) : CostGroup → ℚ
  | .complexity => (m.averageComplexity - 10) * 2
  | .duplication => (m.duplicationPercentage - 3) * 5
  | .smells => m.smells / 2
  | .vulnerabilities => m.criticalVulnerabilities * 5 + m.highVulnerabilities * 2

def cost (m : ScoreInput ℚ) (g : CostGroup) : ℚ := min 25 (max 0 (overrun m g))

variable {m m' : ScoreInput ℚ} {g : CostGroup}

theorem capped_eq (x : ℚ) : capped x = min 25 x := by
  unfold capped
  split <;> rename_i h
  · exact (min_eq_right h.le).symm
  · exact (min_eq_left (not_lt.1 h)).symm

theorem excess_eq {weight : ℚ} (hweight : 0 < weight) (allowance x : ℚ) :
    excess allowance weight x = min 25 (max 0 ((x - allowance) * weight)) := by
  unfold excess
  split <;> rename_i h
  · have hpos : 0 < (x - allowance) * weight := mul_pos (sub_pos.2 h) hweight
    rw [capped_eq, max_eq_right hpos.le]
  · have hneg : (x - allowance) * weight ≤ 0 := mul_nonpos_of_nonpos_of_nonneg (sub_nonpos.2 (not_lt.1 h)) hweight.le
    rw [max_eq_left hneg]
    norm_num

theorem smellPenalty_eq (x : ℚ) : smellPenalty x = min 25 (max 0 (x / 2)) := by
  unfold smellPenalty
  split <;> rename_i h
  · rw [capped_eq, max_eq_right (by linarith)]
  · rw [max_eq_left (by linarith)]
    norm_num

theorem cost_nonneg (m : ScoreInput ℚ) (g : CostGroup) : 0 ≤ cost m g := le_min (by norm_num) (le_max_left ..)

theorem cost_le (m : ScoreInput ℚ) (g : CostGroup) : cost m g ≤ 25 := min_le_left ..

theorem cost_eq_zero_iff : cost m g = 0 ↔ overrun m g ≤ 0 := by
  unfold cost
  rcases le_total (overrun m g) 0 with h | h
  · simp [h]
  · rw [max_eq_right h]
    constructor
    · intro hzero
      rcases min_choice 25 (overrun m g) with hmin | hmin <;> linarith
    · intro hle
      rw [le_antisymm hle h]
      norm_num

theorem cost_eq_iff : cost m g = 25 ↔ 25 ≤ overrun m g := by
  rw [cost, min_eq_left_iff, le_max_iff]
  norm_num

theorem cost_mono (h : m.IsAtMost m') (g : CostGroup) : cost m g ≤ cost m' g := by
  have hover : overrun m g ≤ overrun m' g := by
    cases g <;> simp only [overrun] <;> linarith [h.complexity, h.duplication, h.smells, h.critical, h.high]
  exact min_le_min_left 25 (max_le_max_left 0 hover)

/-- The score is what the groups leave of a hundred points; no cut at zero is needed, as four times 25 is a hundred. -/
theorem qualityScore_eq (h : m.IsNonneg) :
    qualityScore m = 100 - (cost m .complexity + cost m .duplication + cost m .smells + cost m .vulnerabilities) := by
  have hvulnerable : 0 ≤ m.criticalVulnerabilities * 5 + m.highVulnerabilities * 2 := by linarith [h.critical, h.high]
  have hcapped : capped (m.criticalVulnerabilities * 5 + m.highVulnerabilities * 2) = cost m .vulnerabilities := by
    rw [capped_eq, cost, overrun, max_eq_right hvulnerable]
  have hleft : 100 - excess 10 2 m.averageComplexity - excess 3 5 m.duplicationPercentage - smellPenalty m.smells -
      capped (m.criticalVulnerabilities * 5 + m.highVulnerabilities * 2) =
        100 - (cost m .complexity + cost m .duplication + cost m .smells + cost m .vulnerabilities) := by
    rw [excess_eq two_pos, excess_eq (by norm_num), smellPenalty_eq, hcapped]
    simp only [cost, overrun]
    ring
  rw [qualityScore]
  split <;> rename_i hscore
  · exact hleft
  · rw [hleft] at hscore
    linarith [cost_le m .complexity, cost_le m .duplication, cost_le m .smells, cost_le m .vulnerabilities]

/-- Two inputs agree in the figures of all groups but one. -/
inductive DiffersIn : CostGroup → ScoreInput ℚ → ScoreInput ℚ → Prop
  | complexity (m : ScoreInput ℚ) (x : ℚ) : DiffersIn .complexity m { m with averageComplexity := x }
  | duplication (m : ScoreInput ℚ) (x : ℚ) : DiffersIn .duplication m { m with duplicationPercentage := x }
  | smells (m : ScoreInput ℚ) (x : ℚ) : DiffersIn .smells m { m with smells := x }
  | vulnerabilities (m : ScoreInput ℚ) (x y : ℚ) :
    DiffersIn .vulnerabilities m { m with criticalVulnerabilities := x, highVulnerabilities := y }

theorem DiffersIn.abs_qualityScore_sub_le (h : DiffersIn g m m') (hm : m.IsNonneg) (hm' : m'.IsNonneg) :
    |qualityScore m - qualityScore m'| ≤ 25 := by
  have hdiff : qualityScore m - qualityScore m' = cost m' g - cost m g := by
    rw [qualityScore_eq hm, qualityScore_eq hm']
    cases h <;> simp only [cost, overrun] <;> ring
  rw [hdiff, abs_le]
  constructor <;> linarith [cost_nonneg m g, cost_nonneg m' g, cost_le m g, cost_le m' g]

/-- For figures that are not negative the score lies between 0 and 100, falls as any figure grows, and changes by at
most 25 with the figures of one group. It is 100 exactly if each group keeps to its allowance, and 0 exactly if each
costs all of its points. -/
theorem qualityScore_laws (h : m.IsNonneg) :
    (0 ≤ qualityScore m ∧ qualityScore m ≤ 100) ∧
      (∀ m', m.IsAtMost m' → qualityScore m' ≤ qualityScore m) ∧
      (∀ g m', DiffersIn g m m' → m'.IsNonneg → |qualityScore m - qualityScore m'| ≤ 25) ∧
      (qualityScore m = 100 ↔ m.averageComplexity ≤ 10 ∧ m.duplicationPercentage ≤ 3 ∧ m.smells = 0 ∧
        m.criticalVulnerabilities = 0 ∧ m.highVulnerabilities = 0) ∧
      (qualityScore m = 0 ↔ 25 ≤ (m.averageComplexity - 10) * 2 ∧ 25 ≤ (m.duplicationPercentage - 3) * 5 ∧
        25 ≤ m.smells / 2 ∧ 25 ≤ m.criticalVulnerabilities * 5 + m.highVulnerabilities * 2) := by
  have hscore := qualityScore_eq h
  have hnonneg := cost_nonneg m
  have hle := cost_le m
  refine ⟨⟨?_, ?_⟩, ?_, fun g m' hdiffers hm' => hdiffers.abs_qualityScore_sub_le h hm', ?_, ?_⟩
  · linarith [hle .complexity, hle .duplication, hle .smells, hle .vulnerabilities]
  · linarith [hnonneg .complexity, hnonneg .duplication, hnonneg .smells, hnonneg .vulnerabilities]
  · intro m' hmore
    have hmono := cost_mono hmore
    rw [hscore, qualityScore_eq (h.of_isAtMost hmore)]
    linarith [hmono .complexity, hmono .duplication, hmono .smells, hmono .vulnerabilities]
  · -- nothing is lost exactly if each of the costs is zero, as none is negative
    have hzero : qualityScore m = 100 ↔ ∀ g, cost m g = 0 := by
      rw [hscore]
      constructor
      · intro hsum g
        cases g <;> linarith [hnonneg .complexity, hnonneg .duplication, hnonneg .smells, hnonneg .vulnerabilities]
      · intro hall
        simp [hall]
    rw [hzero]
    simp only [cost_eq_zero_iff]
    constructor
    · intro hall
      have hvulnerable := hall .vulnerabilities
      have hsmells := hall .smells
      simp only [overrun] at hvulnerable hsmells
      obtain ⟨-, -, hsmells', hcritical, hhigh⟩ := h
      refine ⟨?_, ?_, by linarith, by linarith, by linarith⟩
      · linarith [show (m.averageComplexity - 10) * 2 ≤ 0 from hall .complexity]
      · linarith [show (m.duplicationPercentage - 3) * 5 ≤ 0 from hall .duplication]
    · rintro ⟨hcomplexity, hduplication, hsmells, hcritical, hhigh⟩ g
      cases g <;> simp only [overrun, hsmells, hcritical, hhigh] <;> linarith
  · have hfull : qualityScore m = 0 ↔ ∀ g, cost m g = 25 := by
      rw [hscore]
      constructor
      · intro hsum g
        cases g <;> linarith [hle .complexity, hle .duplication, hle .smells, hle .vulnerabilities]
      · intro hall
        norm_num [hall]
    rw [hfull]
    simp only [cost_eq_iff]
    constructor
    · intro hall
      exact ⟨hall .complexity, hall .duplication, hall .smells, hall .vulnerabilities⟩
    · rintro ⟨hcomplexity, hduplication, hsmells, hvulnerable⟩ g
      cases g
      exacts [hcomplexity, hduplication, hsmells, hvulnerable]

/-- Each group costs just all of its points, and nothing is left. -/
theorem qualityScore_laws_exhausted : (⟨45 / 2, 8, 50, 3, 5⟩ : ScoreInput ℚ).IsNonneg ∧
    qualityScore (⟨45 / 2, 8, 50, 3, 5⟩ : ScoreInput ℚ) = 0 := by
  have h : (⟨45 / 2, 8, 50, 3, 5⟩ : ScoreInput ℚ).IsNonneg := by constructor <;> norm_num
  exact ⟨h, (qualityScore_laws h).2.2.2.2.2 (by norm_num)⟩

end CodeSurvey.Metrics
