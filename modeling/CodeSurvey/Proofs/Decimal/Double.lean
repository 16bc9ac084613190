/-
Doubles as exact numbers. A finite double stands for a rational number (`Binary.value`), and doubles are compared as
these numbers (`le_iff_value_le`, `lt_iff_value_lt`). A quotient of doubles is off by one part in `2 ^ 52` at most
(`exists_div_near`), so that numbers of hundredths are different doubles, in the same order (`ofScaled_le_iff`,
`ofScaled_lt_iff`). A double between 0 and 100 is rounded to one of them (`exists_roundTo_of_between`). A share is
within `2 ^ -53` of the exact one (`exists_ofFloat?_ofShare_near`), and exact for a whole that is a power of two
(`exists_ofFloat?_ofShare_pow`). How a double is packed (`Float.Model`) is a matter of lemmas that only come with the
library as a whole.
-/
import CodeSurvey.Decimal.Double
import Mathlib

namespace CodeSurvey.Decimal

open Float.Model Float.Model.UnpackedFloat

/-! ## The fields of a double -/

section

variable (v : BitVec 64)

theorem toNat_unpackMantissa : (@unpackMantissa Format.binary64 v).toNat = v.toNat % 2 ^ 52 := by
  simp [unpackMantissa_def]

theorem toNat_unpackExponent : (@unpackExponent Format.binary64 v).toNat = v.toNat / 2 ^ 52 % 2048 := by
  simp [unpackExponent_def, Nat.shiftRight_eq_div_pow]

theorem toNat_unpackSign : (@unpackSign Format.binary64 v).toNat = v.toNat / 2 ^ 63 % 2 := by
  simp [unpackSign_def, Nat.shiftRight_eq_div_pow]

theorem isNegative_unpackSign :
    (Sign.ofBitVec (@unpackSign Format.binary64 v) == .negative) = (v.toNat / 2 ^ 63 == 1) := by
  have hsign := toNat_unpackSign v
  have hbit : v.toNat / 2 ^ 63 = 0 ∨ v.toNat / 2 ^ 63 = 1 := by
    have := v.isLt
    omega
  rcases hbit with h | h
  · have hzero : @unpackSign Format.binary64 v = 0#1 := BitVec.eq_of_toNat_eq (by rw [hsign, h]; rfl)
    rw [hzero, h]
    rfl
  · have hone : @unpackSign Format.binary64 v = 1#1 := BitVec.eq_of_toNat_eq (by rw [hsign, h]; rfl)
    rw [hone, h]
    rfl

theorem toNat_one_append (m : BitVec 52) : (1#1 ++ m).toNat = 2 ^ 52 + m.toNat := by
  rw [BitVec.toNat_append, ← Nat.shiftLeft_add_eq_or_of_lt m.isLt]
  rfl

end

namespace Binary

/-- The exact value of a double that has been taken apart. -/
def ofUnpacked? : UnpackedFloat → Option Binary
  | .infinity _ | .notANumber => none
  | .zero s => some ⟨s == .negative, 0, -1074⟩
  | .finite s m e _ => some ⟨s == .negative, m, e⟩

theorem ofFloat?_eq_ofUnpacked? (x : Float) : ofFloat? x = ofUnpacked? x.toModel.unpack := by
  obtain ⟨⟨⟨v⟩, hvalid⟩⟩ := x
  show ofFloat? _ = ofUnpacked? (UnpackedFloat.unpack Format.binary64 v)
  have hbits : ofFloat? ⟨⟨⟨v⟩, hvalid⟩⟩ =
      if v.toNat / 2 ^ 52 % 2048 == 2047 then none
      else if v.toNat / 2 ^ 52 % 2048 == 0 then some ⟨v.toNat / 2 ^ 63 == 1, v.toNat % 2 ^ 52, -1074⟩
      else some ⟨v.toNat / 2 ^ 63 == 1, v.toNat % 2 ^ 52 + 2 ^ 52, Int.ofNat (v.toNat / 2 ^ 52 % 2048) - 1075⟩ := rfl
  rw [hbits, ← toNat_unpackExponent v, ← toNat_unpackMantissa v, ← isNegative_unpackSign v]
  unfold UnpackedFloat.unpack
  dsimp only
  by_cases hlast : @unpackExponent Format.binary64 v = -1#11
  · rw [if_pos hlast, hlast]
    by_cases hzero : @unpackMantissa Format.binary64 v = 0#52
    · rw [if_pos hzero]
      rfl
    · rw [if_neg hzero]
      rfl
  · have hne : (@unpackExponent Format.binary64 v).toNat ≠ 2047 := fun h => hlast (BitVec.eq_of_toNat_eq h)
    rw [if_neg hlast, if_neg (by simpa using hne)]
    by_cases hfirst : @unpackExponent Format.binary64 v = 0#11
    · rw [if_pos hfirst, hfirst]
      by_cases hzero : @unpackMantissa Format.binary64 v = 0#52
      · rw [dif_pos hzero, hzero]
        rfl
      · rw [dif_neg hzero]
        rfl
    · have hne : (@unpackExponent Format.binary64 v).toNat ≠ 0 := fun h => hfirst (BitVec.eq_of_toNat_eq h)
      rw [if_neg hfirst, if_neg (by simpa using hne), ofUnpacked?, toNat_one_append, Nat.add_comm]
      rfl

/-- The form in which the parts of a double come: the mantissa has all its bits, or the exponent is the least one. -/
structure IsCanonical (b : Binary) : Prop where
  lt : b.mant < 2 ^ 53
  least : -1074 ≤ b.exp
  full : 2 ^ 52 ≤ b.mant ∨ b.exp = -1074

theorem isCanonical_of_ofFloat? {x : Float} {b : Binary} (h : ofFloat? x = some b) : b.IsCanonical := by
  have hmant : x.toBits.toNat % 2 ^ 52 < 2 ^ 52 := Nat.mod_lt _ (by decide)
  change (if x.toBits.toNat / 2 ^ 52 % 2048 == 2047 then none
    else if x.toBits.toNat / 2 ^ 52 % 2048 == 0 then some _ else some _) = some b at h
  by_cases hlast : x.toBits.toNat / 2 ^ 52 % 2048 = 2047
  · rw [if_pos (by simpa using hlast)] at h
    cases h
  · rw [if_neg (by simpa using hlast)] at h
    by_cases hfirst : x.toBits.toNat / 2 ^ 52 % 2048 = 0
    · rw [if_pos (by simpa using hfirst)] at h
      obtain rfl := Option.some_inj.1 h
      refine ⟨?_, le_rfl, .inr rfl⟩
      show x.toBits.toNat % 2 ^ 52 < 2 ^ 53
      omega
    · rw [if_neg (by simpa using hfirst)] at h
      obtain rfl := Option.some_inj.1 h
      refine ⟨?_, ?_, .inl ?_⟩
      · show x.toBits.toNat % 2 ^ 52 + 2 ^ 52 < 2 ^ 53
        omega
      · show -1074 ≤ ((x.toBits.toNat / 2 ^ 52 % 2048 : Nat) : Int) - 1075
        omega
      · show 2 ^ 52 ≤ x.toBits.toNat % 2 ^ 52 + 2 ^ 52
        omega

/-! ## Comparisons -/

/-- The absolute value. -/
def mag (b : Binary) : ℚ := b.mant * (2 : ℚ) ^ b.exp

/-- The number that a double stands for. -/
def value (b : Binary) : ℚ := if b.neg then -b.mag else b.mag

variable {b c : Binary}

theorem mag_lt_of_exp_lt (hb : b.IsCanonical) (hc : c.IsCanonical) (h : b.exp < c.exp) : b.mag < c.mag := by
  have hleast := hb.least
  have hfull : 2 ^ 52 ≤ c.mant := hc.full.resolve_right (by omega)
  have hlt : (b.mant : ℚ) < 2 ^ 53 := by exact_mod_cast hb.lt
  have hge : (2 : ℚ) ^ 52 ≤ c.mant := by exact_mod_cast hfull
  unfold mag
  calc (b.mant : ℚ) * 2 ^ b.exp
    _ < 2 ^ 53 * 2 ^ b.exp := by gcongr
    _ = 2 ^ 52 * 2 ^ (b.exp + 1) := by
      rw [zpow_add₀ two_ne_zero]
      ring
    _ ≤ 2 ^ 52 * 2 ^ c.exp := by
      gcongr
      · exact one_le_two
      · omega
    _ ≤ c.mant * 2 ^ c.exp := by gcongr

/-- The order of the exponents, and of the mantissas where these are the same, is the order of the absolute values. -/
theorem compare_then_compare (hb : b.IsCanonical) (hc : c.IsCanonical) :
    (compare b.exp c.exp).then (compare b.mant c.mant) = cmp b.mag c.mag := by
  rcases lt_trichotomy b.exp c.exp with h | h | h
  · rw [Int.compare_eq_lt.2 h, (cmp_eq_lt_iff _ _).2 (mag_lt_of_exp_lt hb hc h)]
    rfl
  · rw [Int.compare_eq_eq.2 h]
    show compare b.mant c.mant = _
    unfold mag
    rw [← h]
    rcases lt_trichotomy b.mant c.mant with hm | hm | hm
    · rw [Nat.compare_eq_lt.2 hm, (cmp_eq_lt_iff _ _).2 (by gcongr)]
    · rw [Nat.compare_eq_eq.2 hm, (cmp_eq_eq_iff _ _).2 (by rw [hm])]
    · rw [Nat.compare_eq_gt.2 hm, (cmp_eq_gt_iff _ _).2 (by gcongr)]
  · rw [Int.compare_eq_gt.2 h, (cmp_eq_gt_iff _ _).2 (mag_lt_of_exp_lt hc hb h)]
    rfl

theorem value_zero (neg : Bool) (e : Int) : value ⟨neg, 0, e⟩ = 0 := by
  cases neg <;> simp [value, mag]

theorem value_pos {m : Nat} {e : Int} (hm : 0 < m) : 0 < value ⟨Sign.positive == .negative, m, e⟩ := by
  show 0 < (m : ℚ) * 2 ^ e
  positivity

theorem value_neg {m : Nat} {e : Int} (hm : 0 < m) : value ⟨Sign.negative == .negative, m, e⟩ < 0 := by
  show -((m : ℚ) * 2 ^ e) < 0
  rw [neg_lt_zero]
  positivity

theorem compare_eq_cmp_value {u w : UnpackedFloat} (hu : ofUnpacked? u = some b) (hw : ofUnpacked? w = some c)
    (hb : b.IsCanonical) (hc : c.IsCanonical) : u.compare w = some (cmp b.value c.value) := by
  have hthen := compare_then_compare hb hc
  rcases u with s | _ | s | ⟨s, m, e, hm⟩
  · cases hu
  · cases hu
  · cases hu
    rw [value_zero]
    rcases w with t | _ | t | ⟨t, n, f, hn⟩
    · cases hw
    · cases hw
    · cases hw
      rw [value_zero, cmp_self_eq_eq]
      rfl
    · cases hw
      cases t with
      | positive => exact congrArg some ((cmp_eq_lt_iff _ _).2 (value_pos hn)).symm
      | negative => exact congrArg some ((cmp_eq_gt_iff _ _).2 (value_neg hn)).symm
  · cases hu
    rcases w with t | _ | t | ⟨t, n, f, hn⟩
    · cases hw
    · cases hw
    · cases hw
      rw [value_zero]
      cases s with
      | positive => exact congrArg some ((cmp_eq_gt_iff _ _).2 (value_pos hm)).symm
      | negative => exact congrArg some ((cmp_eq_lt_iff _ _).2 (value_neg hm)).symm
    · cases hw
      cases s <;> cases t
      · -- below zero the order of the absolute values is turned around
        have hneg : cmp (-mag ⟨true, m, e⟩) (-mag ⟨true, n, f⟩) = cmp (mag ⟨true, n, f⟩) (mag ⟨true, m, e⟩) :=
          StrictAnti.cmp_map_eq (fun _ _ => neg_lt_neg) _ _
        show some ((compare e f).then (compare m n)).swap = some (cmp (-mag ⟨true, m, e⟩) (-mag ⟨true, n, f⟩))
        rw [hneg, ← cmp_swap]
        exact congrArg (fun o => some (Ordering.swap o)) hthen
      · exact congrArg some ((cmp_eq_lt_iff _ _).2 ((value_neg hm).trans (value_pos hn))).symm
      · exact congrArg some ((cmp_eq_gt_iff _ _).2 ((value_neg hn).trans (value_pos hm))).symm
      · exact congrArg some hthen

end Binary

open Binary

variable {x y z : Float} {b c : Binary}

theorem le_iff_compare : x ≤ y ↔ (x.toModel.unpack.compare y.toModel.unpack).any (·.isLE) = true :=
  decide_eq_true_iff (p := x.toModel ≤ y.toModel)

theorem lt_iff_compare : x < y ↔ x.toModel.unpack.compare y.toModel.unpack = some .lt :=
  (decide_eq_true_iff (p := x.toModel < y.toModel)).trans beq_iff_eq

theorem compare_of_ofFloat? (hx : ofFloat? x = some b) (hy : ofFloat? y = some c) :
    x.toModel.unpack.compare y.toModel.unpack = some (cmp b.value c.value) :=
  compare_eq_cmp_value (ofFloat?_eq_ofUnpacked? x ▸ hx) (ofFloat?_eq_ofUnpacked? y ▸ hy) (isCanonical_of_ofFloat? hx)
    (isCanonical_of_ofFloat? hy)

theorem le_iff_value_le (hx : ofFloat? x = some b) (hy : ofFloat? y = some c) : x ≤ y ↔ b.value ≤ c.value := by
  rw [le_iff_compare, compare_of_ofFloat? hx hy]
  show (cmp b.value c.value).isLE = true ↔ _
  exact Ordering.isLE_iff_ne_gt.trans ((cmp_eq_gt_iff _ _).not.trans not_lt)

theorem lt_iff_value_lt (hx : ofFloat? x = some b) (hy : ofFloat? y = some c) : x < y ↔ b.value < c.value := by
  rw [lt_iff_compare, compare_of_ofFloat? hx hy, Option.some_inj, cmp_eq_lt_iff]

/-- What lies between two doubles is finite. -/
theorem exists_ofFloat?_of_between (hlo : x < y) (hhi : y < z) : ∃ b, ofFloat? y = some b := by
  rw [lt_iff_compare] at hlo hhi
  rw [ofFloat?_eq_ofUnpacked?]
  rcases hy : y.toModel.unpack with s | _ | s | ⟨s, m, e, hm⟩
  · -- nothing is below the one infinity, and nothing is above the other
    rw [hy] at hlo hhi
    cases s with
    | negative => rcases hx : x.toModel.unpack with (_ | _) | _ | _ | ⟨_, _, _, _⟩ <;> rw [hx] at hlo <;> cases hlo
    | positive => rcases hz : z.toModel.unpack with (_ | _) | _ | _ | ⟨_, _, _, _⟩ <;> rw [hz] at hhi <;> cases hhi
  · rw [hy] at hhi
    cases hhi
  · exact ⟨_, rfl⟩
  · exact ⟨_, rfl⟩

/-! ## Rounding -/

/-- A mantissa has all its bits. -/
structure IsFull (m : Nat) : Prop where
  ge : 2 ^ 52 ≤ m
  lt : m < 2 ^ 53

theorem IsFull.pos {m : Nat} (h : IsFull m) : 0 < m := by
  have := h.ge
  omega

theorem IsFull.log2_eq {m : Nat} (h : IsFull m) : m.log2 = 52 := (Nat.log2_eq_iff h.pos.ne').2 ⟨h.ge, h.lt⟩

theorem isFull_shift {m k : Nat} (hk : m.log2 = 52 + k) : IsFull (m / 2 ^ k) := by
  have hne : m ≠ 0 := by
    rintro rfl
    rw [Nat.log2_zero] at hk
    omega
  have hlo := Nat.log2_self_le hne
  have hhi := Nat.lt_log2_self (n := m)
  rw [hk] at hlo hhi
  refine ⟨(Nat.le_div_iff_mul_le (by positivity)).2 ?_, (Nat.div_lt_iff_lt_mul (by positivity)).2 ?_⟩
  · rwa [← Nat.pow_add]
  · rwa [← Nat.pow_add, Nat.add_right_comm 52 1 k]

theorem mantissa_shiftRight (em : ExtendedMantissa) (k : Nat) : (em >>> k).mantissa = em.mantissa / 2 ^ k := by
  induction k with
  | zero => exact (Nat.div_one _).symm
  | succ k ih =>
    show (em >>> k).mantissa / 2 = _
    rw [ih, Nat.div_div_eq_div_mul, Nat.pow_succ]

theorem mantissa_ofMantissaAndAccuracy (m : Nat) (a : Accuracy) :
    (ExtendedMantissa.ofMantissaAndAccuracy m a).mantissa = m := by
  rcases a with _ | o
  · rfl
  · cases o <;> rfl

/-- A mantissa is rounded to itself or to the next one. -/
theorem roundedMantissa_mem (em : ExtendedMantissa) :
    em.mantissa ≤ em.roundedMantissa ∧ em.roundedMantissa ≤ em.mantissa + 1 := by
  obtain ⟨m, r, s⟩ := em
  cases r <;> cases s
  · exact ⟨le_rfl, Nat.le_succ m⟩
  · exact ⟨le_rfl, Nat.le_succ m⟩
  · show m ≤ m + m % 2 ∧ m + m % 2 ≤ m + 1
    omega
  · exact ⟨Nat.le_succ m, le_rfl⟩

theorem shiftToTargetExponent_eq {m k : Nat} {e : Int} (a : Accuracy) (hk : m.log2 = 52 + k) (he : -1074 ≤ e) :
    shiftToTargetExponent Format.binary64 m e a = (ExtendedMantissa.ofMantissaAndAccuracy m a >>> k, e + k) := by
  have htarget : Format.binary64.targetExponent (totalExponent m e) = e + k := by
    simp only [Format.targetExponent, totalExponent, Format.mantissaBits, Format.minExponent, hk]
    omega
  have hshift : (e + k - e).toNat = k := by omega
  rw [shiftToTargetExponent, htarget, shiftToExponent, hshift]

/-- Rounding cuts a mantissa down to its bits, and goes up by one or not at all. -/
theorem exists_roundWithAccuracy (s : Sign) {m k : Nat} {e : Int} (a : Accuracy) (hk : m.log2 = 52 + k)
    (he : -1074 ≤ e) :
    ∃ r m' e' hm', roundWithAccuracy Format.binary64 s m e a = .finite s m' e' hm' ∧ IsFull m' ∧ e ≤ e' ∧
      e' ≤ e + k + 1 ∧
      m / 2 ^ k ≤ r ∧ r ≤ m / 2 ^ k + 1 ∧ (m' : ℚ) * 2 ^ e' = r * 2 ^ (e + k) := by
  have hmant : (ExtendedMantissa.ofMantissaAndAccuracy m a >>> k).mantissa = m / 2 ^ k := by
    rw [mantissa_shiftRight, mantissa_ofMantissaAndAccuracy]
  obtain ⟨hlo, hhi⟩ := hmant ▸ roundedMantissa_mem (ExtendedMantissa.ofMantissaAndAccuracy m a >>> k)
  set r := (ExtendedMantissa.ofMantissaAndAccuracy m a >>> k).roundedMantissa with hr
  obtain ⟨hge, hlt⟩ := isFull_shift hk
  -- a carry out of all bits comes to a power of two, from which a further shift takes nothing away
  obtain ⟨j, hj, hcarry⟩ : ∃ j, r.log2 = 52 + j ∧ (j = 0 ∨ j = 1 ∧ r = 2 ^ 53) := by
    rcases Nat.lt_or_ge r (2 ^ 53) with hsmall | hlarge
    · exact ⟨0, IsFull.log2_eq ⟨hge.trans hlo, hsmall⟩, .inl rfl⟩
    · have hpower : r = 2 ^ 53 := by omega
      exact ⟨1, by rw [hpower, Nat.log2_two_pow], .inr ⟨rfl, hpower⟩⟩
  have hround : roundWithAccuracy Format.binary64 s m e a =
      if h : r / 2 ^ j = 0 then .zero s else .finite s (r / 2 ^ j) (e + k + j) (Nat.pos_of_ne_zero h) := by
    unfold roundWithAccuracy
    rw [shiftToTargetExponent_eq a hk he]
    dsimp only
    rw [← hr, shiftToTargetExponent_eq .exact hj (by omega)]
    simp only [mantissa_shiftRight, mantissa_ofMantissaAndAccuracy]
  have hfull := isFull_shift hj
  refine ⟨r, r / 2 ^ j, e + k + j, hfull.pos, ?_, hfull, by omega, by omega, hlo, hhi, ?_⟩
  · rw [hround, dif_neg hfull.pos.ne']
  · rcases hcarry with rfl | ⟨rfl, hpower⟩
    · simp
    · rw [hpower, zpow_add₀ two_ne_zero (e + k)]
      norm_num
      ring

/-- A number that was cut off at a bit is rounded to a double that is off by one part in `2 ^ 52` at most. -/
theorem exists_roundWithAccuracy_near (s : Sign) {m k : Nat} {e : Int} {q : ℚ} (a : Accuracy) (hk : m.log2 = 52 + k)
    (he : -1074 ≤ e) (hlo : (m : ℚ) * 2 ^ e ≤ q) (hhi : q < (m + 1) * 2 ^ e) :
    ∃ m' e' hm', roundWithAccuracy Format.binary64 s m e a = .finite s m' e' hm' ∧ IsFull m' ∧ e ≤ e' ∧ e' ≤ e + k + 1 ∧
      |(m' : ℚ) * 2 ^ e' - q| * 2 ^ 52 ≤ q := by
  obtain ⟨r, m', e', hm', hround, hfull, hle, hge, hdown, hup, hsame⟩ := exists_roundWithAccuracy s a hk he
  refine ⟨m', e', hm', hround, hfull, hle, hge, ?_⟩
  have hunit : (2 : ℚ) ^ (e + k) = 2 ^ k * 2 ^ e := by rw [zpow_add₀ two_ne_zero, zpow_natCast, mul_comm]
  have hbelow : ((m / 2 ^ k : Nat) : ℚ) * 2 ^ (e + k) ≤ q := by
    refine le_trans ?_ hlo
    rw [hunit, ← mul_assoc]
    gcongr
    exact_mod_cast Nat.div_mul_le_self m (2 ^ k)
  have habove : q ≤ ((m / 2 ^ k : Nat) + 1) * 2 ^ (e + k) := by
    have hstep : m + 1 ≤ (m / 2 ^ k + 1) * 2 ^ k := by
      rw [Nat.add_mul, Nat.one_mul]
      exact Nat.lt_div_mul_add (by positivity)
    refine hhi.le.trans ?_
    rw [hunit, ← mul_assoc]
    gcongr
    exact_mod_cast hstep
  have hunits : (2 : ℚ) ^ 52 * 2 ^ (e + k) ≤ q := by
    refine le_trans ?_ hbelow
    gcongr
    exact_mod_cast (isFull_shift hk).ge
  have hoff : |(r : ℚ) * 2 ^ (e + k) - q| ≤ 2 ^ (e + k) := by
    have hdown' : ((m / 2 ^ k : Nat) : ℚ) * 2 ^ (e + k) ≤ r * 2 ^ (e + k) := by
      gcongr
    have hup' : (r : ℚ) * 2 ^ (e + k) ≤ ((m / 2 ^ k : Nat) + 1) * 2 ^ (e + k) := by
      gcongr
      exact_mod_cast hup
    rw [abs_le]
    constructor <;> linarith
  rw [hsame]
  linarith

theorem roundWithAccuracy_exact (s : Sign) {m : Nat} {e : Int} (hm : IsFull m) (he : -1074 ≤ e) :
    roundWithAccuracy Format.binary64 s m e .exact = .finite s m e hm.pos := by
  have hshift : shiftToTargetExponent Format.binary64 m e .exact = (⟨m, false, false⟩, e) := by
    rw [shiftToTargetExponent_eq (k := 0) .exact hm.log2_eq he, Int.natCast_zero, Int.add_zero]
    rfl
  have hsame : ExtendedMantissa.roundedMantissa ⟨m, false, false⟩ = m := rfl
  unfold roundWithAccuracy
  rw [hshift]
  dsimp only
  rw [hsame, hshift]
  exact dif_neg hm.pos.ne'

/-! ## Packing -/

theorem pack_finite (s : Sign) {m i : Nat} (hm : IsFull m) (hi : i ≤ 2046) :
    UnpackedFloat.pack Format.binary64 (.finite s m (i - 1075) hm.pos) =
      packComponents Format.binary64 s (BitVec.ofNat 11 i) (BitVec.ofNat 52 m) := by
  have hbiased : ((i : Int) - 1075 + (Format.binary64.exponentBias : Int) + (52 : Nat)).toNat = i := by
    simp only [Format.exponentBias]
    omega
  unfold UnpackedFloat.pack
  dsimp only
  rw [hbiased, if_neg (by omega), if_pos (by rw [hm.log2_eq]; rfl)]

/-- A double is read as it was written. -/
theorem ofFloat?_pack (s : Sign) {m : Nat} {e : Int} (hm : IsFull m) (hlo : -1074 ≤ e) (hhi : e ≤ 971) :
    ofFloat? ⟨Float.Model.pack (.finite s m e hm.pos)⟩ = some ⟨s == .negative, m, e⟩ := by
  obtain ⟨i, rfl⟩ : ∃ i : Nat, e = i - 1075 := ⟨(e + 1075).toNat, by omega⟩
  have hexp : (BitVec.ofNat 11 i).toNat = i := by
    rw [BitVec.toNat_ofNat]
    omega
  have hmant : (1#1 ++ BitVec.ofNat 52 m).toNat = m := by
    rw [toNat_one_append, BitVec.toNat_ofNat]
    have := hm.ge
    have := hm.lt
    omega
  have hlast : BitVec.ofNat 11 i ≠ -1#11 := by
    intro h
    have : i = 2047 := hexp.symm.trans (congrArg BitVec.toNat h)
    omega
  have hfirst : BitVec.ofNat 11 i ≠ 0#11 := by
    intro h
    have : i = 0 := hexp.symm.trans (congrArg BitVec.toNat h)
    omega
  rw [ofFloat?_eq_ofUnpacked?]
  show ofUnpacked?
    (UnpackedFloat.unpack Format.binary64 (UnpackedFloat.pack Format.binary64 (.finite s m (i - 1075) hm.pos))) = _
  rw [pack_finite s hm (by omega)]
  unfold UnpackedFloat.unpack
  simp only [unpackExponent_packComponents, unpackMantissa_packComponents, unpackSign_packComponents,
    Sign.ofBitVec_toBitVec, if_neg hlast, if_neg hfirst, ofUnpacked?, hmant, hexp]
  rfl

theorem unpack_of_ofFloat? {m : Nat} {e : Int} (h : ofFloat? x = some ⟨false, m, e⟩) (hm : 0 < m) :
    x.toModel.unpack = .finite .positive m e hm := by
  rw [ofFloat?_eq_ofUnpacked?] at h
  rcases hx : x.toModel.unpack with s | _ | s | ⟨s, m', e', hm'⟩ <;> rw [hx] at h
  · cases h
  · cases h
  · simp only [ofUnpacked?, Option.some.injEq, Binary.mk.injEq] at h
    omega
  · simp only [ofUnpacked?, Option.some.injEq, Binary.mk.injEq] at h
    obtain ⟨hs, rfl, rfl⟩ := h
    cases s
    · cases hs
    · rfl

/-! ## Quotients -/

theorem divCore_eq {m n : Nat} {e f : Int} (hm : IsFull m) (hn : IsFull n) (hlo : -1000 ≤ e - f) :
    divCore Format.binary64 m e n f = (m * 2 ^ 53 / n, e - f - 53, accuracyOfFraction (m * 2 ^ 53 % n) n) := by
  have htarget : min (e - f) (Format.binary64.targetExponent (totalExponent m e - totalExponent n f)) = e - f - 53 := by
    simp only [Format.targetExponent, totalExponent, Format.mantissaBits, Format.minExponent, hm.log2_eq, hn.log2_eq]
    omega
  have hshift : (e - f - (e - f - 53)).toNat = 53 := by omega
  unfold divCore
  dsimp only
  rw [htarget, hshift, Nat.shiftLeft_eq]

theorem exists_log2_quotient {m n : Nat} (hm : IsFull m) (hn : IsFull n) : ∃ k ≤ 1, (m * 2 ^ 53 / n).log2 = 52 + k := by
  obtain ⟨hmlo, hmhi⟩ := hm
  obtain ⟨hnlo, hnhi⟩ := hn
  have hpos : 0 < n := by omega
  have hlo : 2 ^ 52 ≤ m * 2 ^ 53 / n := (Nat.le_div_iff_mul_le hpos).2 (by omega)
  have hhi : m * 2 ^ 53 / n < 2 ^ 54 := (Nat.div_lt_iff_lt_mul hpos).2 (by omega)
  rcases Nat.lt_or_ge (m * 2 ^ 53 / n) (2 ^ 53) with h | h
  · exact ⟨0, by omega, (Nat.log2_eq_iff (by omega)).2 ⟨hlo, h⟩⟩
  · exact ⟨1, by omega, (Nat.log2_eq_iff (by omega)).2 ⟨h, hhi⟩⟩

/-- A quotient of doubles is off by one part in `2 ^ 52` at most. -/
theorem exists_div_near {m n : Nat} {e f : Int} (hx : ofFloat? x = some ⟨false, m, e⟩)
    (hy : ofFloat? y = some ⟨false, n, f⟩) (hm : IsFull m) (hn : IsFull n) (hlo : -1000 ≤ e - f) (hhi : e - f ≤ 900) :
    ∃ m' e', ofFloat? (x / y) = some ⟨false, m', e'⟩ ∧
      |(m' : ℚ) * 2 ^ e' - m * 2 ^ e / (n * 2 ^ f)| * 2 ^ 52 ≤ m * 2 ^ e / (n * 2 ^ f) := by
  have hpos : (0 : ℚ) < n := by exact_mod_cast hn.pos
  have hquotient : (m : ℚ) * 2 ^ e / (n * 2 ^ f) = m * 2 ^ 53 / n * 2 ^ (e - f - 53) := by
    rw [zpow_sub₀ two_ne_zero, zpow_sub₀ two_ne_zero]
    field_simp
  -- the quotient is cut off at a bit beyond the last one of a mantissa, and then rounded
  have hbelow : ((m * 2 ^ 53 / n : Nat) : ℚ) * 2 ^ (e - f - 53) ≤ m * 2 ^ e / (n * 2 ^ f) := by
    rw [hquotient]
    gcongr
    rw [le_div_iff₀ hpos]
    exact_mod_cast Nat.div_mul_le_self _ _
  have habove : (m : ℚ) * 2 ^ e / (n * 2 ^ f) < ((m * 2 ^ 53 / n : Nat) + 1) * 2 ^ (e - f - 53) := by
    have hstep : m * 2 ^ 53 < (m * 2 ^ 53 / n + 1) * n := by
      rw [Nat.add_mul, Nat.one_mul]
      exact Nat.lt_div_mul_add hn.pos
    rw [hquotient]
    gcongr
    rw [div_lt_iff₀ hpos]
    exact_mod_cast hstep
  obtain ⟨k, hk, hlog⟩ := exists_log2_quotient hm hn
  obtain ⟨m', e', hm', hround, hfull, hle, hge, hnear⟩ := exists_roundWithAccuracy_near (Sign.positive / Sign.positive)
    (accuracyOfFraction (m * 2 ^ 53 % n) n) hlog (by omega) hbelow habove
  refine ⟨m', e', ?_, hnear⟩
  show ofFloat? ⟨Float.Model.pack (UnpackedFloat.div Format.binary64 x.toModel.unpack y.toModel.unpack)⟩ = _
  rw [unpack_of_ofFloat? hx hm.pos, unpack_of_ofFloat? hy hn.pos]
  show ofFloat? ⟨Float.Model.pack (roundWithAccuracy Format.binary64 _ (divCore Format.binary64 m e n f).1
    (divCore Format.binary64 m e n f).2.1 (divCore Format.binary64 m e n f).2.2)⟩ = _
  rw [divCore_eq hm hn hlo]
  dsimp only
  rw [hround]
  exact ofFloat?_pack _ hfull (by omega) (by omega)

/-! ## Whole numbers -/

theorem isFull_scaled {n : Nat} (hn : 0 < n) (hlt : n < 2 ^ 53) : IsFull (n * 2 ^ (52 - n.log2)) := by
  have hlog : n.log2 < 53 := (Nat.log2_lt hn.ne').2 hlt
  refine ⟨?_, ?_⟩
  · calc 2 ^ 52
      _ = 2 ^ n.log2 * 2 ^ (52 - n.log2) := by rw [← Nat.pow_add]; congr 1; omega
      _ ≤ n * 2 ^ (52 - n.log2) := Nat.mul_le_mul_right _ (Nat.log2_self_le hn.ne')
  · calc n * 2 ^ (52 - n.log2)
      _ < 2 ^ (n.log2 + 1) * 2 ^ (52 - n.log2) := Nat.mul_lt_mul_of_pos_right Nat.lt_log2_self (by positivity)
      _ = 2 ^ 53 := by rw [← Nat.pow_add]; congr 1; omega

theorem round_nat {n : Nat} (hn : 0 < n) (hlt : n < 2 ^ 53) :
    UnpackedFloat.round Format.binary64 .positive n 0 =
      .finite .positive (n * 2 ^ (52 - n.log2)) (n.log2 - 52) (isFull_scaled hn hlt).pos := by
  have hlog : n.log2 < 53 := (Nat.log2_lt hn.ne').2 hlt
  have htarget : Format.binary64.targetExponent (totalExponent n 0) = n.log2 - 52 := by
    simp only [Format.targetExponent, totalExponent, Format.mantissaBits, Format.minExponent]
    omega
  have hshift : (0 - ((n.log2 : Int) - 52)).toNat = 52 - n.log2 := by omega
  have hexp : (0 : Int) - (52 - n.log2 : Nat) = n.log2 - 52 := by omega
  unfold UnpackedFloat.round
  dsimp only [decreaseExponent]
  rw [htarget, hshift, hexp, Nat.shiftLeft_eq]
  exact roundWithAccuracy_exact _ (isFull_scaled hn hlt) (by omega)

/-- A whole number that is not too large is a double. -/
theorem ofFloat?_toFloat {n : Nat} (hn : 0 < n) (hlt : n < 2 ^ 53) :
    ofFloat? n.toUInt64.toFloat = some ⟨false, n * 2 ^ (52 - n.log2), n.log2 - 52⟩ := by
  have hlog : n.log2 < 53 := (Nat.log2_lt hn.ne').2 hlt
  have hnat : n.toUInt64.toNat = n := by
    rw [Nat.toUInt64_eq]
    exact UInt64.toNat_ofNat_of_lt' (by unfold UInt64.size; omega)
  show ofFloat? ⟨Float.Model.pack (UnpackedFloat.normalize Format.binary64 (n.toUInt64.toNat : Int) 0 .positive)⟩ = _
  rw [hnat]
  unfold UnpackedFloat.normalize
  rw [Int.compare_eq_gt.2 (by omega)]
  dsimp only
  rw [Int.toNat_natCast, round_nat hn hlt]
  exact ofFloat?_pack _ (isFull_scaled hn hlt) (by omega) (by omega)

/-! ## Hundredths -/

theorem ofFloat?_zero : ofFloat? 0 = some ⟨false, 0, -1074⟩ := rfl

theorem ofFloat?_hundred : ofFloat? 100 = some ⟨false, 100 * 2 ^ 46, -46⟩ := rfl

theorem value_hundred : value ⟨false, 100 * 2 ^ 46, -46⟩ = 100 := by
  show ((100 * 2 ^ 46 : Nat) : ℚ) * 2 ^ (-46 : Int) = 100
  norm_num

theorem mul_zpow_sub {n k : Nat} (h : k ≤ 52) : ((n * 2 ^ (52 - k) : Nat) : ℚ) * 2 ^ ((k : Int) - 52) = n := by
  have hexp : (k : Int) - 52 = -((52 - k : Nat) : Int) := by omega
  rw [hexp, zpow_neg, zpow_natCast]
  push_cast
  field_simp

/-- The double for a number of hundredths is off by one part in `2 ^ 52` at most. -/
theorem exists_ofScaled_near (n : Nat) (hlt : n < 2 ^ 53) :
    ∃ b, ofFloat? (ofScaled false n 2) = some b ∧ |100 * b.value - n| * 2 ^ 52 ≤ n := by
  rcases Nat.eq_zero_or_pos n with rfl | hn
  · refine ⟨⟨false, 0, -1074⟩, rfl, ?_⟩
    rw [value_zero]
    norm_num
  · have hlog : n.log2 < 53 := (Nat.log2_lt hn.ne').2 hlt
    have hhundred : ofFloat? (Float.ofBits 0x4059000000000000) = some ⟨false, 100 * 2 ^ 46, -46⟩ := rfl
    obtain ⟨m, e, hfloat, hnear⟩ := exists_div_near (ofFloat?_toFloat hn hlt) hhundred (isFull_scaled hn hlt)
      ⟨by decide, by decide⟩ (by omega) (by omega)
    have hvalue : ((100 * 2 ^ 46 : Nat) : ℚ) * 2 ^ (-46 : Int) = 100 := value_hundred
    rw [mul_zpow_sub (by omega), hvalue] at hnear
    refine ⟨⟨false, m, e⟩, ?_, ?_⟩
    · rw [← hfloat]
      show ofFloat? (Float.ofScientific n true 2) = _
      unfold Float.ofScientific
      rw [dif_pos ⟨hlt, by decide⟩]
      rfl
    · show |100 * ((m : ℚ) * 2 ^ e) - n| * 2 ^ 52 ≤ n
      have hscale : 100 * ((m : ℚ) * 2 ^ e) - n = 100 * ((m : ℚ) * 2 ^ e - n / 100) := by ring
      rw [hscale, abs_mul, abs_of_nonneg (by norm_num : (0 : ℚ) ≤ 100)]
      linarith

theorem value_lt_of_near {i j : Nat} (hij : i < j) (hj : j < 2 ^ 51) (hb : |100 * b.value - i| * 2 ^ 52 ≤ i)
    (hc : |100 * c.value - j| * 2 ^ 52 ≤ j) : b.value < c.value := by
  have hsmall : (j : ℚ) < 2 ^ 51 := by exact_mod_cast hj
  have hstep : (i : ℚ) + 1 ≤ j := by exact_mod_cast hij
  have hoffb : |100 * b.value - i| < 1 / 2 := lt_of_mul_lt_mul_right (by linarith) (by positivity : (0 : ℚ) ≤ 2 ^ 52)
  have hoffc : |100 * c.value - j| < 1 / 2 := lt_of_mul_lt_mul_right (by linarith) (by positivity : (0 : ℚ) ≤ 2 ^ 52)
  have hup := (abs_lt.1 hoffb).2
  have hdown := (abs_lt.1 hoffc).1
  linarith

/-- Different numbers of hundredths are different doubles, in the same order. -/
theorem ofScaled_lt_iff {i j : Nat} (hi : i < 2 ^ 51) (hj : j < 2 ^ 51) :
    ofScaled false i 2 < ofScaled false j 2 ↔ i < j := by
  obtain ⟨b, hb, hnearb⟩ := exists_ofScaled_near i (by omega)
  obtain ⟨c, hc, hnearc⟩ := exists_ofScaled_near j (by omega)
  rw [lt_iff_value_lt hb hc]
  rcases lt_trichotomy i j with h | rfl | h
  · exact iff_of_true (value_lt_of_near h hj hnearb hnearc) h
  · obtain rfl := Option.some_inj.1 (hb.symm.trans hc)
    exact iff_of_false (lt_irrefl _) (lt_irrefl _)
  · exact iff_of_false (value_lt_of_near h hi hnearc hnearb).asymm h.asymm

theorem ofScaled_le_iff {i j : Nat} (hi : i < 2 ^ 51) (hj : j < 2 ^ 51) :
    ofScaled false i 2 ≤ ofScaled false j 2 ↔ i ≤ j := by
  obtain ⟨b, hb, -⟩ := exists_ofScaled_near i (by omega)
  obtain ⟨c, hc, -⟩ := exists_ofScaled_near j (by omega)
  rw [le_iff_value_le hb hc, ← not_lt, ← lt_iff_value_lt hc hb, ofScaled_lt_iff hj hi, not_lt]

/-! ## Rounding to hundredths -/

/-- The rounded quotient is within a half of the exact one. -/
theorem roundHalfEven_near (n : Nat) {d : Nat} (hd : 0 < d) :
    2 * (roundHalfEven n d * d) ≤ 2 * n + d ∧ 2 * n ≤ 2 * (roundHalfEven n d * d) + d := by
  have hdiv := Nat.div_add_mod' n d
  have hlt := Nat.mod_lt n hd
  have hup : (n / d + 1) * d = n / d * d + d := Nat.succ_mul _ _
  unfold roundHalfEven
  dsimp only
  split_ifs <;> omega

theorem roundHalfEven_le {n d k : Nat} (hd : 0 < d) (h : n ≤ k * d) : roundHalfEven n d ≤ k := by
  have hnear := (roundHalfEven_near n hd).1
  have hmul : 2 * roundHalfEven n d * d ≤ (2 * k + 1) * d := by linarith
  have := Nat.le_of_mul_le_mul_right hmul hd
  omega

theorem le_roundHalfEven {n d k : Nat} (hd : 0 < d) (h : k * d ≤ n) : k ≤ roundHalfEven n d := by
  have hnear := (roundHalfEven_near n hd).2
  have hmul : 2 * k * d ≤ (2 * roundHalfEven n d + 1) * d := by linarith
  have := Nat.le_of_mul_le_mul_right hmul hd
  omega

theorem roundHalfEven_mul (k : Nat) {d : Nat} (hd : 0 < d) : roundHalfEven (k * d) d = k :=
  (roundHalfEven_le hd (Nat.le_refl _)).antisymm (le_roundHalfEven hd (Nat.le_refl _))

theorem num_eq_mag_mul_den (b : Binary) : (b.num : ℚ) = b.mag * b.den := by
  have hexp : b.exp + ((-b.exp).toNat : Int) = (b.exp.toNat : Int) := by omega
  show ((b.mant * 2 ^ b.exp.toNat : Nat) : ℚ) = b.mant * 2 ^ b.exp * ((2 ^ (-b.exp).toNat : Nat) : ℚ)
  push_cast
  rw [mul_assoc, ← zpow_natCast, ← zpow_natCast, ← zpow_add₀ two_ne_zero, hexp]

/-- A double up to 100 that has no sign is rounded to a number of hundredths up to 10000. -/
theorem exists_roundTo_eq_ofScaled (hb : ofFloat? x = some b) (hneg : b.neg = false)
    (hle : b.value ≤ 100) : ∃ n ≤ 10000, roundTo 2 x = ofScaled false n 2 := by
  have hden : 0 < b.den := Nat.two_pow_pos _
  have hbound : b.num * tenTo 2 ≤ 10000 * b.den := by
    rw [value, hneg, if_neg (by simp)] at hle
    have hratio : (b.num : ℚ) ≤ 100 * b.den := by
      rw [num_eq_mag_mul_den]
      gcongr
    have hnum : b.num ≤ 100 * b.den := by exact_mod_cast hratio
    have hten : tenTo 2 = 100 := rfl
    rw [hten]
    omega
  refine ⟨roundHalfEven (b.num * tenTo 2) b.den, roundHalfEven_le hden hbound, ?_⟩
  unfold roundTo
  rw [hb]
  show ofScaled b.neg _ 2 = _
  rw [hneg]

theorem exists_roundTo_of_between (hlo : 0 < x) (hhi : x < 100) : ∃ n ≤ 10000, roundTo 2 x = ofScaled false n 2 := by
  obtain ⟨b, hb⟩ := exists_ofFloat?_of_between hlo hhi
  have hpos : 0 < b.value := by
    have hvalue := (lt_iff_value_lt ofFloat?_zero hb).1 hlo
    rwa [value_zero] at hvalue
  have hsmall : b.value < 100 := by
    have hvalue := (lt_iff_value_lt hb ofFloat?_hundred).1 hhi
    rwa [value_hundred] at hvalue
  have hneg : b.neg = false := by
    by_contra h
    have hmag : 0 ≤ b.mag := by
      unfold mag
      positivity
    rw [value, if_pos (by simpa using h)] at hpos
    linarith
  exact exists_roundTo_eq_ofScaled hb hneg hsmall.le

/-! ## Shares -/

theorem toBits_ofBits {v : UInt64} (h : v.toNat / 2 ^ 52 % 2048 ≠ 2047) : (Float.ofBits v).toBits = v := by
  have hlast : @unpackExponent Format.binary64 v.toBitVec ≠ -1#11 := by
    intro he
    have hexp := toNat_unpackExponent v.toBitVec
    rw [he] at hexp
    exact h hexp.symm
  show UInt64.ofBitVec (UnpackedFloat.pack Format.binary64 (UnpackedFloat.unpack Format.binary64 v.toBitVec)) = v
  rw [UnpackedFloat.pack_unpack _ (by decide), if_neg]
  rw [isNaNBits, decide_eq_true_eq]
  exact fun hnan => hlast hnan.1

/-- The bits of a double from its scale and its mantissa, also where rounding has carried into the next power of two. -/
theorem exists_ofFloat?_ofBits {k m : Nat} (hge : 52 ≤ k) (hle : k ≤ 1074) (hm : m ≤ 2 ^ 53)
    (hfull : k < 1074 → 2 ^ 52 ≤ m) :
    ∃ b, ofFloat? (Float.ofBits (UInt64.ofNat ((1074 - k) * 2 ^ 52 + m))) = some b ∧ b.value = m / 2 ^ k := by
  have hnat : (UInt64.ofNat ((1074 - k) * 2 ^ 52 + m)).toNat = (1074 - k) * 2 ^ 52 + m := by
    rw [UInt64.toNat_ofNat']
    omega
  have hbits := toBits_ofBits (v := UInt64.ofNat ((1074 - k) * 2 ^ 52 + m)) (by rw [hnat]; omega)
  have hparts : ofFloat? (Float.ofBits (UInt64.ofNat ((1074 - k) * 2 ^ 52 + m))) =
      if 1074 - k + m / 2 ^ 52 = 0 then some ⟨false, m % 2 ^ 52, -1074⟩
      else some ⟨false, m % 2 ^ 52 + 2 ^ 52, ((1074 - k + m / 2 ^ 52 : Nat) : Int) - 1075⟩ := by
    have he : ((1074 - k) * 2 ^ 52 + m) / 2 ^ 52 % 2048 = 1074 - k + m / 2 ^ 52 := by omega
    have hf : ((1074 - k) * 2 ^ 52 + m) % 2 ^ 52 = m % 2 ^ 52 := by omega
    have hsign : ((1074 - k) * 2 ^ 52 + m) / 2 ^ 63 = 0 := by omega
    have htwo : ∀ n, twoTo n = 2 ^ n := fun _ => rfl
    unfold ofFloat?
    simp only [hbits, hnat, htwo, he, hf, hsign]
    rw [if_neg (by rw [beq_iff_eq]; omega)]
    simp
  have hvalue : ∀ m k : Nat, value ⟨false, m, -(k : Int)⟩ = m / 2 ^ k := fun m k => by
    rw [value, if_neg Bool.false_ne_true, mag, zpow_neg, zpow_natCast, div_eq_mul_inv]
  rw [hparts]
  split
  · rename_i hzero
    obtain rfl : k = 1074 := by omega
    exact ⟨_, rfl, by rw [Nat.mod_eq_of_lt (by omega)]; exact hvalue m _⟩
  · -- a mantissa of 54 bits stands for the next power of two
    by_cases hcarry : m = 2 ^ 53
    · refine ⟨_, rfl, ?_⟩
      have hexp : ((1074 - k + m / 2 ^ 52 : Nat) : Int) - 1075 = 1 + -(k : Int) := by omega
      rw [hexp, hcarry, value, if_neg Bool.false_ne_true, mag, zpow_add₀ two_ne_zero, zpow_neg, zpow_natCast,
        div_eq_mul_inv, ← mul_assoc]
      norm_num
    · have hone : m / 2 ^ 52 = 1 := by omega
      have hexp : ((1074 - k + m / 2 ^ 52 : Nat) : Int) - 1075 = -(k : Int) := by omega
      refine ⟨_, rfl, ?_⟩
      rw [hexp, show m % 2 ^ 52 + 2 ^ 52 = m by omega]
      exact hvalue m k
/-- A scale by which the share has 53 bits in front of the point, or the greatest scale. -/
structure IsScale (part whole k : Nat) : Prop where
  ge : 52 ≤ k
  le : k ≤ 1074
  upper : part * 2 ^ k ≤ 2 ^ 53 * whole
  lower : k < 1074 → 2 ^ 52 * whole ≤ part * 2 ^ k

variable {part whole : Nat}

theorem isScale_shareScale (hpos : 0 < part) (hle : part ≤ whole) : IsScale part whole (shareScale part whole) := by
  have hlog : part.log2 ≤ whole.log2 := by simpa only [Nat.log2_eq_log_two] using Nat.log_mono_right hle
  obtain ⟨j, hj⟩ := Nat.exists_eq_add_of_le hlog
  have hpart := Nat.lt_log2_self (n := part)
  have hpart' := Nat.log2_self_le hpos.ne'
  have hwhole := Nat.lt_log2_self (n := whole)
  have hwhole' := Nat.log2_self_le (hpos.trans_le hle).ne'
  have hup : part * 2 ^ (52 + j) ≤ 2 ^ 53 * whole := by
    calc part * 2 ^ (52 + j) ≤ 2 ^ (part.log2 + 1) * 2 ^ (52 + j) := Nat.mul_le_mul_right _ hpart.le
      _ = 2 ^ 53 * 2 ^ whole.log2 := by rw [hj]; ring
      _ ≤ 2 ^ 53 * whole := Nat.mul_le_mul_left _ hwhole'
  have hlow : 2 ^ 52 * whole ≤ part * 2 ^ (53 + j) := by
    calc 2 ^ 52 * whole ≤ 2 ^ 52 * 2 ^ (whole.log2 + 1) := Nat.mul_le_mul_left _ hwhole.le
      _ = 2 ^ part.log2 * 2 ^ (53 + j) := by rw [hj]; ring
      _ ≤ part * 2 ^ (53 + j) := Nat.mul_le_mul_right _ hpart'
  have hscale : shareScale part whole = min 1074 (if part * 2 ^ (52 + j) < whole * 2 ^ 52 then 53 + j else 52 + j) := by
    have hk : 52 + whole.log2 - part.log2 = 52 + j := by omega
    unfold shareScale
    dsimp only
    rw [hk, Nat.add_right_comm]
    rfl
  obtain ⟨k, hk, hge, hupper, hlower⟩ : ∃ k, shareScale part whole = min 1074 k ∧ 52 ≤ k ∧
      part * 2 ^ k ≤ 2 ^ 53 * whole ∧
      2 ^ 52 * whole ≤ part * 2 ^ k := by
    refine ⟨_, hscale, ?_⟩
    split
    · rename_i hlt
      refine ⟨by omega, ?_, hlow⟩
      rw [show 53 + j = 52 + j + 1 by omega, Nat.pow_succ, ← Nat.mul_assoc]
      omega
    · rename_i hlt
      exact ⟨by omega, hup, by omega⟩
  rw [hk]
  refine ⟨le_min (by norm_num) hge, min_le_left _ _, le_trans ?_ hupper, fun hlt => ?_⟩
  · exact Nat.mul_le_mul_left _ (Nat.pow_le_pow_right (by decide) (Nat.min_le_right _ _))
  · rwa [min_eq_right ((min_lt_iff.1 hlt).resolve_left (lt_irrefl _)).le]
theorem exists_ofFloat?_ofShare (hpos : 0 < part) (hle : part ≤ whole) : ∃ b, ofFloat? (ofShare part whole) = some b ∧
    b.value = roundHalfEven (part * 2 ^ shareScale part whole) whole / 2 ^ shareScale part whole := by
  obtain ⟨hge, hmax, hupper, hlower⟩ := isScale_shareScale hpos hle
  have hwhole := hpos.trans_le hle
  have hshare : ofShare part whole = Float.ofBits (UInt64.ofNat ((1074 - shareScale part whole) * 2 ^ 52 +
      roundHalfEven (part * 2 ^ shareScale part whole) whole)) := by
    rw [ofShare, if_neg (by simpa using hpos.ne')]
    rfl
  rw [hshare]
  exact exists_ofFloat?_ofBits hge hmax (roundHalfEven_le hwhole hupper) fun hlt => le_roundHalfEven hwhole (hlower hlt)

/-- A share of a power of two is exact. -/
theorem exists_ofFloat?_ofShare_pow {j : Nat} (hj : j ≤ 52) (hle : part ≤ 2 ^ j) :
    ∃ b, ofFloat? (ofShare part (2 ^ j)) = some b ∧ b.value = part / 2 ^ j := by
  obtain rfl | hpos := Nat.eq_zero_or_pos part
  · exact ⟨_, ofFloat?_zero, by rw [value_zero]; simp⟩
  · obtain ⟨b, hb, hv⟩ := exists_ofFloat?_ofShare hpos hle
    refine ⟨b, hb, ?_⟩
    obtain ⟨i, hi⟩ := Nat.exists_eq_add_of_le (hj.trans (isScale_shareScale hpos hle).ge)
    rw [hv, hi, Nat.pow_add, Nat.mul_left_comm, Nat.mul_comm, roundHalfEven_mul _ (Nat.two_pow_pos j), pow_add]
    push_cast
    rw [mul_div_mul_right _ _ (by positivity)]

/-- The double of a share is within half a unit of its last place. -/
theorem exists_ofFloat?_ofShare_near (hwhole : 0 < whole) (hle : part ≤ whole) :
    ∃ b, ofFloat? (ofShare part whole) = some b ∧ |b.value - part / whole| ≤ 1 / 2 ^ 53 := by
  obtain rfl | hpos := Nat.eq_zero_or_pos part
  · exact ⟨_, ofFloat?_zero, by rw [value_zero]; simp⟩
  · obtain ⟨b, hb, hv⟩ := exists_ofFloat?_ofShare hpos hle
    have hge := (isScale_shareScale hpos hle).ge
    refine ⟨b, hb, ?_⟩
    generalize shareScale part whole = k at hv hge
    obtain ⟨hlo, hhi⟩ := roundHalfEven_near (part * 2 ^ k) hwhole
    rw [hv]
    generalize roundHalfEven (part * 2 ^ k) whole = m at hlo hhi
    have hw : (0 : ℚ) < whole := by exact_mod_cast hwhole
    have hk : (0 : ℚ) < 2 ^ k := by positivity
    have hlo' : 2 * ((m : ℚ) * whole) ≤ 2 * (part * 2 ^ k) + whole := by exact_mod_cast hlo
    have hhi' : 2 * ((part : ℚ) * 2 ^ k) ≤ 2 * (m * whole) + whole := by exact_mod_cast hhi
    have habs : |(m : ℚ) * whole - 2 ^ k * part| ≤ whole / 2 := abs_le.2 ⟨by linarith, by linarith⟩
    have hpow : (2 : ℚ) ^ 52 ≤ 2 ^ k := pow_le_pow_right₀ (by norm_num) hge
    rw [div_sub_div _ _ hk.ne' hw.ne', abs_div, abs_of_pos (mul_pos hk hw),
      div_le_div_iff₀ (mul_pos hk hw) (by positivity), one_mul]
    calc |(m : ℚ) * whole - 2 ^ k * part| * (2 : ℚ) ^ 53 ≤ whole / 2 * (2 : ℚ) ^ 53 := by gcongr
      _ = 2 ^ 52 * (whole : ℚ) := by ring
      _ ≤ 2 ^ k * (whole : ℚ) := by gcongr

theorem ofShare_self {n : Nat} (hn : 0 < n) : ofShare n n = 1 := by
  have hscale : shareScale n n = 52 := by simp [shareScale, twoTo]
  rw [ofShare, if_neg (by simpa using hn.ne'), hscale]
  dsimp only
  rw [Nat.mul_comm n, roundHalfEven_mul _ hn]
  decide +kernel

end CodeSurvey.Decimal
