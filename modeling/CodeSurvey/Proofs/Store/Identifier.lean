/-
Identifiers are read back from their written form (`ofRegular?_text`), so that no two of them are written alike
(`text_inj`).
-/
import CodeSurvey.Proofs.Text.Piece
import CodeSurvey.Store.Row
import Mathlib.Data.List.Basic
import Mathlib.Tactic.IntervalCases

namespace CodeSurvey

namespace Id

/-- Identifiers that are handed out or read have 128 bits. -/
def IsRegular (i : Id) : Prop := i.value < 2 ^ 128

instance (i : Id) : Decidable i.IsRegular := inferInstanceAs (Decidable (_ < _))

/-- The number that digits write in base sixteen, behind a number that is already read. -/
def valueFrom (n : Nat) (ds : List Nat) : Nat := ds.foldl (fun n d => n * 16 + d) n

/-! ## Digits -/

theorem digitValue?_digitChar {d : Nat} (h : d < 16) : digitValue? (Nat.digitChar d) = some d := by
  interval_cases d <;> decide

theorem digitChar_ne {d : Nat} (h : d < 16) :
    ∀ c ∈ ['_', '-', '+', 'x', 'X', 'u', '\x7b', '\x7d'], Nat.digitChar d ≠ c := by
  refine fun c hc => bne_iff_ne.1 ?_
  revert c
  rw [← List.all_eq_true]
  interval_cases d <;> decide

theorem isBlank_digitChar {d : Nat} (h : d < 16) : Text.isBlank (Nat.digitChar d) = false := by
  interval_cases d <;> decide

theorem exists_toDigits_eq (n : Nat) :
    ∃ ds : List Nat, Nat.toDigits 16 n = ds.map Nat.digitChar ∧ (∀ d ∈ ds, d < 16) ∧ valueFrom 0 ds = n := by
  induction n using Nat.strongRecOn with
  | ind n ih =>
    by_cases hn : n < 16
    · refine ⟨[n], Nat.toDigits_of_lt_base hn, ?_, ?_⟩
      · simpa using hn
      · simp [valueFrom]
    · obtain ⟨ds, hdigits, hsmall, hvalue⟩ := ih (n / 16) (by omega)
      refine ⟨ds ++ [n % 16], ?_, ?_, ?_⟩
      · rw [Nat.toDigits_of_base_le (by omega) (by omega), hdigits, List.map_append]
        rfl
      · intro d hd
        rcases List.mem_append.1 hd with hd | hd
        · exact hsmall d hd
        · rw [List.mem_singleton.1 hd]
          omega
      · have hlast : valueFrom 0 (ds ++ [n % 16]) = valueFrom 0 ds * 16 + n % 16 := by simp [valueFrom]
        rw [hlast, hvalue]
        omega

/-- The digits of an identifier: 32 of them, with its value. -/
theorem exists_digits_eq {i : Id} (h : i.IsRegular) :
    ∃ ds : List Nat, i.digits = ds.map Nat.digitChar ∧ (∀ d ∈ ds, d < 16) ∧ ds.length = 32 ∧
      valueFrom 0 ds = i.value := by
  obtain ⟨ds, hdigits, hsmall, hvalue⟩ := exists_toDigits_eq i.value
  have hlength : ds.length ≤ 32 := by
    have hle : (Nat.toDigits 16 i.value).length ≤ 32 := (Nat.length_toDigits_le_iff (by omega) (by omega)).2 h
    rwa [hdigits, List.length_map] at hle
  refine ⟨List.replicate (32 - ds.length) 0 ++ ds, ?_, ?_, ?_, ?_⟩
  · simp only [digits, hdigits, List.length_map, List.map_append, List.map_replicate]
    rfl
  · intro d hd
    rcases List.mem_append.1 hd with hd | hd
    · rw [(List.mem_replicate.1 hd).2]
      omega
    · exact hsmall d hd
  · rw [List.length_append, List.length_replicate]
    omega
  · have hzeros : ∀ k, valueFrom 0 (List.replicate k 0) = 0 := by
      intro k
      induction k with
      | zero => rfl
      | succ k ih => exact ih
    have happend : valueFrom 0 (List.replicate (32 - ds.length) 0 ++ ds) =
        valueFrom (valueFrom 0 (List.replicate (32 - ds.length) 0)) ds := by simp [valueFrom]
    rw [happend, hzeros, hvalue]

/-- Digits are read one after the other; there must be one if none came before. -/
theorem readDigits?_map_digitChar {ds : List Nat} (hsmall : ∀ d ∈ ds, d < 16) (n : Nat) (gap : Bool)
    (hgap : ds = [] → gap = false) :
    readDigits? n gap (ds.map Nat.digitChar) = some (valueFrom n ds) := by
  induction ds generalizing n gap with
  | nil =>
    rw [hgap rfl]
    rfl
  | cons d ds ih =>
    have hd := hsmall d List.mem_cons_self
    have hscore : Nat.digitChar d ≠ '_' := digitChar_ne hd '_' (by simp)
    have hstep : readDigits? n gap (Nat.digitChar d :: ds.map Nat.digitChar) =
        (digitValue? (Nat.digitChar d)).bind fun e => readDigits? (n * 16 + e) false (ds.map Nat.digitChar) := by
      rw [readDigits?]
      exact hscore
    rw [List.map_cons, hstep, digitValue?_digitChar hd, Option.bind_some]
    exact ih (fun e he => hsmall e (List.mem_cons_of_mem d he)) _ _ fun _ => rfl

/-! ## Reading what is written -/

/-- A number that is written with digits only is read as it stands. -/
theorem readHex?_map_digitChar {ds : List Nat} (hne : ds ≠ []) (hsmall : ∀ d ∈ ds, d < 16) :
    readHex? (ds.map Nat.digitChar) = some (valueFrom 0 ds) := by
  have hnot : ∀ c ∈ ds.map Nat.digitChar, c ≠ '+' ∧ c ≠ 'x' ∧ c ≠ 'X' := by
    intro c hc
    obtain ⟨d, hd, rfl⟩ := List.mem_map.1 hc
    have hother := digitChar_ne (hsmall d hd)
    exact ⟨hother '+' (by simp), hother 'x' (by simp), hother 'X' (by simp)⟩
  have hstrip : Text.strip (ds.map Nat.digitChar) = ds.map Nat.digitChar := by
    refine Text.stripBy_of_forall fun c hc => ?_
    obtain ⟨d, hd, rfl⟩ := List.mem_map.1 hc
    exact isBlank_digitChar (hsmall d hd)
  have hmark : dropMark (ds.map Nat.digitChar) = ds.map Nat.digitChar := by
    generalize ds.map Nat.digitChar = t at hnot
    unfold dropMark
    split <;> simp_all
  unfold readHex?
  rw [hstrip]
  dsimp only
  split
  · next r heq => exact absurd rfl (hnot '+' (by simp [heq])).1
  · rw [hmark]
    exact readDigits?_map_digitChar hsmall 0 true fun h => absurd h hne

theorem mem_chars {i : Id} {c : Char} (h : c ∈ i.chars) : c = '-' ∨ c ∈ i.digits := by
  simp only [chars, List.mem_append, List.mem_cons] at h
  rcases h with (((h | rfl | h) | rfl | h) | rfl | h) | rfl | h
  · exact .inr (List.mem_of_mem_take h)
  · exact .inl rfl
  · exact .inr (List.mem_of_mem_drop (List.mem_of_mem_take h))
  · exact .inl rfl
  · exact .inr (List.mem_of_mem_drop (List.mem_of_mem_take h))
  · exact .inl rfl
  · exact .inr (List.mem_of_mem_drop (List.mem_of_mem_take h))
  · exact .inl rfl
  · exact .inr (List.mem_of_mem_drop h)

theorem filter_chars {i : Id} (h : '-' ∉ i.digits) : i.chars.filter (· != '-') = i.digits := by
  have hkeep : ∀ t : List Char, (∀ c ∈ t, c ∈ i.digits) → t.filter (· != '-') = t := by
    refine fun t ht => List.filter_eq_self.2 fun c hc => bne_iff_ne.2 fun hdash => h ?_
    exact hdash ▸ ht c hc
  have hgroups : i.digits.take 8 ++
      ((i.digits.drop 8).take 4 ++ ((i.digits.drop 12).take 4 ++ ((i.digits.drop 16).take 4 ++
      i.digits.drop 20))) = i.digits := by
    have h20 : (i.digits.drop 16).drop 4 = i.digits.drop 20 := List.drop_drop
    have h16 : (i.digits.drop 12).drop 4 = i.digits.drop 16 := List.drop_drop
    have h12 : (i.digits.drop 8).drop 4 = i.digits.drop 12 := List.drop_drop
    rw [← h20, List.take_append_drop, ← h16, List.take_append_drop, ← h12, List.take_append_drop, List.take_append_drop]
  simp only [chars, List.filter_append, List.filter_cons, bne_self_eq_false, Bool.false_eq_true, if_false,
    List.append_assoc]
  rw [hkeep _ fun c hc => List.mem_of_mem_take hc, hkeep _ fun c hc => List.mem_of_mem_drop (List.mem_of_mem_take hc),
    hkeep _ fun c hc => List.mem_of_mem_drop (List.mem_of_mem_take hc),
    hkeep _ fun c hc => List.mem_of_mem_drop (List.mem_of_mem_take hc), hkeep _ fun c hc =>
    List.mem_of_mem_drop hc, hgroups]

theorem ofText?_chars {i : Id} (h : i.IsRegular) : ofText? i.chars = some i := by
  obtain ⟨ds, hdigits, hsmall, hlength, hvalue⟩ := exists_digits_eq h
  have hother : ∀ c ∈ i.chars, c ≠ 'u' ∧ c ≠ '\x7b' ∧ c ≠ '\x7d' := by
    intro c hc
    rcases mem_chars hc with rfl | hc
    · decide
    · rw [hdigits] at hc
      obtain ⟨d, hd, rfl⟩ := List.mem_map.1 hc
      have hne := digitChar_ne (hsmall d hd)
      exact ⟨hne 'u' (by simp), hne '\x7b' (by simp), hne '\x7d' (by simp)⟩
  have hapart : ∀ piece : List Char, 'u' ∈ piece → Text.replace piece [] i.chars = i.chars := fun piece hu =>
    Text.replace_nil_of_not_isInfix fun hin => (hother 'u' (hin.subset hu)).1 rfl
  have hbraces : Text.stripBy (fun c => c == '\x7b' || c == '\x7d') i.chars = i.chars :=
    Text.stripBy_of_forall fun c hc => by simp [hother c hc]
  have hdash : '-' ∉ i.digits := by
    rw [hdigits]
    intro hmem
    obtain ⟨d, hd, heq⟩ := List.mem_map.1 hmem
    exact digitChar_ne (hsmall d hd) '-' (by simp) heq
  have hlen : i.digits.length = 32 := by rw [hdigits, List.length_map, hlength]
  have hread : readHex? i.digits = some i.value := by
    rw [hdigits, readHex?_map_digitChar (by rintro rfl; cases hlength) hsmall, hvalue]
  simp only [ofText?]
  rw [hapart "urn:".toList (by decide), hapart "uuid:".toList (by decide), hbraces, filter_chars hdash, hlen, hread]
  rfl

theorem ofRegular?_text {i : Id} (h : i.IsRegular) : ofRegular? i.text = some i := by
  unfold ofRegular?
  rw [show i.text.toList = i.chars from String.toList_ofList, ofText?_chars h]
  simp

theorem text_inj {i j : Id} (hi : i.IsRegular) (hj : j.IsRegular) (h : i.text = j.text) : i = j := by
  have hread := ofRegular?_text hi
  rw [h, ofRegular?_text hj] at hread
  exact (Option.some.inj hread).symm

end Id

end CodeSurvey
