/-
Which pairs of windows the search for duplicated code reports. Two windows of different files are reported exactly if
they share a bucket and their characters are alike, in whichever order they come (`reports_iff`); but for the bucket,
their tokens have no part in it.
-/
import CodeSurvey.Duplicate.Scan
import Mathlib.Data.List.Nodup
import Mathlib.Data.List.Zip

namespace CodeSurvey.MinHash

/-! ## Signatures and their agreement -/

@[simp] theorem length_hashes (digest : String → Nat) (n : Nat) (token : String) :
    (hashes digest n token).length = n := by
  simp [hashes]

@[simp] theorem length_signatureBy (digest : String → Nat) (n : Nat) (tokens : List String) :
    (signatureBy digest n tokens).length = n := by
  cases tokens with
  | nil => simp [signatureBy]
  | cons t r =>
    have hfold : ∀ (ts : List String) (sig : List Nat), sig.length = n →
        (ts.foldl (fun sig t => List.zipWith min sig (hashes digest n t)) sig).length = n := by
      intro ts
      induction ts with
      | nil => exact fun _ h => h
      | cons u us ih => exact fun sig h => ih _ (by simp [h])
    exact hfold r _ (length_hashes digest n t)

@[simp] theorem length_signature (n : Nat) (tokens : List String) : (signature n tokens).length = n :=
  length_signatureBy _ n tokens

theorem agreements_comm (s t : List Nat) : agreements s t = agreements t s := by
  unfold agreements
  rw [← List.zip_swap t s, List.filter_map, List.length_map]
  congr 2
  funext p
  exact BEq.comm

theorem agreements_self (s : List Nat) : agreements s s = s.length := by
  induction s with
  | nil => rfl
  | cons x s ih => simpa [agreements] using ih

theorem agreements_lt_of_head_ne {s t : List Nat} (h : s.head? ≠ t.head?) (hs : s.length = t.length) :
    agreements s t < s.length := by
  cases s with
  | nil => cases t <;> simp_all
  | cons x s =>
    cases t with
    | nil => simp at hs
    | cons y t =>
      have hxy : (x == y) = false := by simpa using h
      have hle := List.length_filter_le (fun p : Nat × Nat => p.1 == p.2) (s.zip t)
      simp [agreements, hxy] at hle ⊢
      omega

theorem agreements_le (s t : List Nat) : agreements s t ≤ s.length :=
  Nat.le_trans (List.length_filter_le _ _) (List.length_zip ▸ Nat.min_le_left _ _)

theorem similarity_comm (s t : List Nat) : similarity s t = similarity t s := by
  unfold similarity
  by_cases h : s.length = t.length
  · have he : s.isEmpty = t.isEmpty := by cases s <;> cases t <;> simp_all
    rw [agreements_comm s t, h, he]
  · simp [h, Ne.symm h]

theorem similarity_eq {s t : List Nat} (h : s.length = t.length) (hne : s ≠ []) :
    similarity s t = .ok (Decimal.ofShare (agreements s t) s.length) := by
  simp [similarity, h, hne]

/-- The share of the places in which two signatures agree, where there are any. -/
def share (s t : List Nat) : Float :=
  match similarity s t with
  | .ok x => x
  | .error _ => 0

theorem share_comm (s t : List Nat) : share s t = share t s := by
  rw [share, similarity_comm, share]

theorem share_signature {n : Nat} (hn : n ≠ 0) (ts us : List String) :
    share (signature n ts) (signature n us) =
      Decimal.ofShare (agreements (signature n ts) (signature n us)) n := by
  have hne : signature n ts ≠ [] := by
    rw [← List.length_pos_iff, length_signature]
    exact Nat.pos_of_ne_zero hn
  rw [share, similarity_eq (by simp) hne, length_signature]

end CodeSurvey.MinHash

namespace CodeSurvey.Duplicate

/-! ## The comparison of one pair after another -/

/-- The signature of the tokens of a window, whose digest the window carries. -/
def Block.tokenSignature (b : Block) : List Nat :=
  MinHash.signature hashCount (b.tokens.eraseDups.map String.ofList)

def Block.characterSignature (b : Block) : List Nat :=
  MinHash.signature hashCount (b.content.eraseDups.map fun c => String.ofList [c])

def tokensAlike (a b : Block) : Float := MinHash.share a.tokenSignature b.tokenSignature

def charactersAlike (a b : Block) : Float := MinHash.share a.characterSignature b.characterSignature

theorem tokensAlike_of_tokens_eq {a b : Block} (h : a.tokens = b.tokens) :
    tokensAlike a b = Decimal.ofShare hashCount hashCount := by
  have hsig : a.tokenSignature = b.tokenSignature := by rw [Block.tokenSignature, Block.tokenSignature, h]
  rw [tokensAlike, hsig, Block.tokenSignature, MinHash.share_signature (by decide), MinHash.agreements_self,
    MinHash.length_signature]

/-- Windows whose characters differ in the first place of the signatures are not wholly alike. -/
theorem exists_charactersAlike_eq {a b : Block} (h : a.characterSignature.head? ≠ b.characterSignature.head?) :
    ∃ k < hashCount, charactersAlike a b = Decimal.ofShare k hashCount := by
  have hlt := MinHash.agreements_lt_of_head_ne h (by simp [Block.characterSignature])
  rw [Block.characterSignature, MinHash.length_signature] at hlt
  exact ⟨_, hlt, MinHash.share_signature (by decide) _ _⟩

theorem alike_ofBlock (a b : Block) : alike (.ofBlock a) (.ofBlock b) = charactersAlike a b := rfl

theorem charactersAlike_comm (a b : Block) : charactersAlike a b = charactersAlike b a :=
  MinHash.share_comm _ _

/-- The pairs of windows with one bucket, in the order in which they are looked at. -/
def bucketPairs (bs : List Block) : List (Block × Block) :=
  bs.flatMap fun a => (bs.filter fun b => b.bucket == a.bucket).map (Prod.mk a)

theorem mem_bucketPairs {bs : List Block} {a b : Block} :
    (a, b) ∈ bucketPairs bs ↔ a ∈ bs ∧ b ∈ bs ∧ a.bucket = b.bucket := by
  simp [bucketPairs, Eq.comm (a := a.bucket)]

def compareStep (threshold : Float) (s : Comparison) (p : Block × Block) : Comparison :=
  comparePair threshold (.ofBlock p.1) s (.ofBlock p.2)

theorem duplications_eq (threshold : Float) (bs : List Block) :
    duplications threshold bs =
      ((bucketPairs bs).foldl (compareStep threshold) ⟨∅, []⟩).found.reverse.mergeSort
        fun x y => y.similarity ≤ x.similarity := by
  simp only [duplications, bucketPairs, List.foldl_flatMap, List.foldl_map, List.filter_map]
  rfl

/-- What is known once the pairs of `done` have been looked at. -/
structure Compared (threshold : Float) (done : List (Block × Block)) (s : Comparison) : Prop where
  /-- A pair that was looked at has been compared, in the one order or the other, unless it is of one file. -/
  complete : ∀ a b, (a, b) ∈ done → a.fileId.same b.fileId = false →
    s.compared.contains (a.key, b.key) = true ∨ s.compared.contains (b.key, a.key) = true
  /-- A pair that was compared is found if it is alike. -/
  sound : ∀ p q, s.compared.contains (p, q) = true → ∃ a b, (a, b) ∈ done ∧ a.key = p ∧ b.key = q ∧
    (threshold ≤ charactersAlike a b → ⟨a, b, charactersAlike a b⟩ ∈ s.found)
  found : ∀ d ∈ s.found, (d.first, d.second) ∈ done ∧ d.similarity = charactersAlike d.first d.second ∧
    threshold ≤ d.similarity

theorem compared_nil (threshold : Float) : Compared threshold [] ⟨∅, []⟩ where
  complete := by simp
  sound := by simp
  found := by simp

section
variable {threshold : Float} {done : List (Block × Block)} {s : Comparison} {a b : Block}

/-- Passing a pair over that is of one file or has been compared. -/
theorem Compared.pass (h : Compared threshold done s) (hpassed : a.fileId.same b.fileId = true ∨
    s.compared.contains (a.key, b.key) = true ∨ s.compared.contains (b.key, a.key) = true) :
    Compared threshold (done ++ [(a, b)]) s := by
  refine ⟨fun c d hcd hfile => ?_, fun p q hpq => ?_, fun d hd => ?_⟩
  · rcases List.mem_append.1 hcd with hcd | hcd
    · exact h.complete c d hcd hfile
    · obtain ⟨rfl, rfl⟩ := Prod.mk.inj (List.mem_singleton.1 hcd)
      exact hpassed.resolve_left (by simp [hfile])
  · obtain ⟨c, d, hcd, hc, hd, hfound⟩ := h.sound p q hpq
    exact ⟨c, d, List.mem_append_left _ hcd, hc, hd, hfound⟩
  · exact (h.found d hd).imp_left (List.mem_append_left _)

/-- Comparing a pair and noting it, first among those found if it is alike. -/
theorem Compared.note (h : Compared threshold done s) :
    Compared threshold (done ++ [(a, b)]) ⟨s.compared.insert (a.key, b.key),
      if threshold ≤ charactersAlike a b then ⟨a, b, charactersAlike a b⟩ :: s.found else s.found⟩ := by
  refine ⟨fun c d hcd hfile => ?_, fun p q hpq => ?_, fun d hd => ?_⟩
  · simp only [Std.HashSet.contains_insert, Bool.or_eq_true, beq_iff_eq]
    rcases List.mem_append.1 hcd with hcd | hcd
    · exact (h.complete c d hcd hfile).imp .inr .inr
    · obtain ⟨rfl, rfl⟩ := Prod.mk.inj (List.mem_singleton.1 hcd)
      exact .inl (.inl rfl)
  · rw [Std.HashSet.contains_insert, Bool.or_eq_true, beq_iff_eq] at hpq
    rcases hpq with hpq | hpq
    · obtain ⟨rfl, rfl⟩ := Prod.mk.inj hpq
      exact ⟨a, b, by simp, rfl, rfl, fun hle => by simp [hle]⟩
    · obtain ⟨c, d, hcd, hc, hd, hfound⟩ := h.sound p q hpq
      refine ⟨c, d, List.mem_append_left _ hcd, hc, hd, fun hle => ?_⟩
      dsimp only
      split
      · exact List.mem_cons_of_mem _ (hfound hle)
      · exact hfound hle
  · dsimp only at hd
    split at hd
    · rename_i hle
      rcases List.mem_cons.1 hd with rfl | hd
      · exact ⟨by simp, rfl, hle⟩
      · exact (h.found d hd).imp_left (List.mem_append_left _)
    · exact (h.found d hd).imp_left (List.mem_append_left _)

theorem Compared.step (h : Compared threshold done s) (p : Block × Block) :
    Compared threshold (done ++ [p]) (compareStep threshold s p) := by
  unfold compareStep comparePair
  dsimp only
  split
  · rename_i hpassed
    rw [Bool.or_eq_true, Bool.or_eq_true, or_assoc] at hpassed
    exact h.pass hpassed
  · rw [alike_ofBlock]
    exact h.note

/-- What is known once all pairs have been looked at. The induction is on the pairs that are left. -/
theorem Compared.run (h : Compared threshold done s) (left : List (Block × Block)) :
    Compared threshold (done ++ left) (left.foldl (compareStep threshold) s) := by
  induction left generalizing done s with
  | nil => simpa using h
  | cons p left ih => simpa using ih (h.step p)

end

/-! ## The pairs reported -/

def Reports (found : List Duplication) (a b : Block) : Prop :=
  ∃ d ∈ found, d.first = a ∧ d.second = b ∨ d.first = b ∧ d.second = a

theorem Reports.of_found {found : List Duplication} {a b : Block} {x : Float} (h : ⟨a, b, x⟩ ∈ found) :
    Reports found a b :=
  ⟨_, h, .inl ⟨rfl, rfl⟩⟩

theorem Reports.symm {found : List Duplication} {a b : Block} (h : Reports found a b) : Reports found b a := by
  obtain ⟨d, hd, hab⟩ := h
  exact ⟨d, hd, hab.symm⟩

/-- Windows that the keys tell apart are reported exactly if they share a bucket and their characters are alike. -/
theorem reports_iff {threshold : Float} {bs : List Block} (hkeys : (bs.map Block.key).Nodup) {a b : Block} (ha : a ∈ bs)
    (hb : b ∈ bs) (hab : a.fileId.same b.fileId = false) :
    Reports (duplications threshold bs) a b ↔ a.bucket = b.bucket ∧ threshold ≤ charactersAlike a b := by
  have hrun := (compared_nil threshold).run (bucketPairs bs)
  rw [List.nil_append] at hrun
  rw [duplications_eq]
  generalize (bucketPairs bs).foldl (compareStep threshold) ⟨∅, []⟩ = s at hrun
  have hmem : ∀ d, d ∈ s.found.reverse.mergeSort (fun x y => y.similarity ≤ x.similarity) ↔ d ∈ s.found := by
    simp [List.mem_mergeSort]
  have hinj := List.inj_on_of_nodup_map hkeys
  constructor
  · rintro ⟨d, hd, hends⟩
    obtain ⟨hpair, hsim, hle⟩ := hrun.found d ((hmem d).1 hd)
    have hbucket := (mem_bucketPairs.1 hpair).2.2
    rw [hsim] at hle
    obtain ⟨rfl, rfl⟩ | ⟨rfl, rfl⟩ := hends
    · exact ⟨hbucket, hle⟩
    · exact ⟨hbucket.symm, charactersAlike_comm d.first d.second ▸ hle⟩
  · rintro ⟨hbucket, hle⟩
    have hpair : (a, b) ∈ bucketPairs bs := mem_bucketPairs.2 ⟨ha, hb, hbucket⟩
    -- the keys found in the table are those of `a` and `b` themselves
    rcases hrun.complete a b hpair hab with hseen | hseen
    · obtain ⟨c, d, hcd, hc, hd, hfound⟩ := hrun.sound _ _ hseen
      obtain ⟨hcm, hdm, -⟩ := mem_bucketPairs.1 hcd
      obtain rfl := hinj hcm ha hc
      obtain rfl := hinj hdm hb hd
      exact .of_found ((hmem _).2 (hfound hle))
    · obtain ⟨c, d, hcd, hc, hd, hfound⟩ := hrun.sound _ _ hseen
      obtain ⟨hcm, hdm, -⟩ := mem_bucketPairs.1 hcd
      obtain rfl := hinj hcm hb hc
      obtain rfl := hinj hdm ha hd
      rw [charactersAlike_comm] at hle
      exact (Reports.of_found ((hmem _).2 (hfound hle))).symm

/-- The report of two windows of different files differs from what their tokens say exactly if they are alike by their
tokens, but lie in different buckets or are not alike by their characters, or if they share a bucket and are alike by
their characters only. -/
theorem misreports_iff {threshold : Float} {bs : List Block} (hkeys : (bs.map Block.key).Nodup)
    {a b : Block} (ha : a ∈ bs) (hb : b ∈ bs) (hab : a.fileId.same b.fileId = false) :
    ¬ (Reports (duplications threshold bs) a b ↔ threshold ≤ tokensAlike a b) ↔
      threshold ≤ tokensAlike a b ∧ (a.bucket ≠ b.bucket ∨ ¬ threshold ≤ charactersAlike a b) ∨
        ¬ threshold ≤ tokensAlike a b ∧ a.bucket = b.bucket ∧ threshold ≤ charactersAlike a b := by
  rw [reports_iff hkeys ha hb hab]
  by_cases htokens : threshold ≤ tokensAlike a b
  · simp [htokens, imp_iff_not_or]
  · simp [htokens]

/-- A window of one line with the one token `ab`. -/
def abLine (id content : String) : Block :=
  ⟨.str id, none, 1, 1, content.toList, ["ab".toList], digestOf (MinHash.signature hashCount ["ab"]), 1⟩

/-- Two lines that differ in a comment have the same tokens, and are not reported as wholly alike. -/
theorem misreports_iff_comment :
    blocks ⟨1, 1, 1⟩ (.str "1") none "python".toList "ab".toList = [abLine "1" "ab"] ∧
      blocks ⟨1, 1, 1⟩ (.str "2") none "python".toList "ab #c".toList = [abLine "2" "ab #c"] ∧
      ¬ (Reports (duplications 1 [abLine "1" "ab", abLine "2" "ab #c"]) (abLine "1" "ab") (abLine "2" "ab #c") ↔
        1 ≤ tokensAlike (abLine "1" "ab") (abLine "2" "ab #c")) := by
  refine ⟨rfl, rfl, (misreports_iff (by decide +kernel) (by simp) (by simp) (by decide +kernel)).2 (.inl ⟨?_, .inr ?_⟩)⟩
  · rw [tokensAlike_of_tokens_eq (a := abLine "1" "ab") (b := abLine "2" "ab #c") rfl]
    decide +kernel
  · obtain ⟨k, hk, hx⟩ := exists_charactersAlike_eq (a := abLine "1" "ab") (b := abLine "2" "ab #c") (by decide +kernel)
    -- the kernel divides and compares for each number of agreements
    have hless : ∀ k < hashCount, ¬ (1 : Float) ≤ Decimal.ofShare k hashCount := by decide +kernel
    rw [hx]
    exact hless k hk

end CodeSurvey.Duplicate
