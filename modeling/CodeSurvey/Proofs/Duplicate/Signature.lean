/-
What a MinHash signature says about a set of tokens, under any digest. An entry is the least hash of a token
(`isLeast_signatureBy`), so the order of the tokens does not matter and the signature of a union is the lesser of both
in every place. Where the hash function has no collisions, two sets have the same entry exactly if their first token is
in both. The places where signatures differ are a distance; the similarity that is computed is one minus it, up to the
rounding of the quotient.
-/
import CodeSurvey.Proofs.Decimal.Double
import CodeSurvey.Proofs.Duplicate.Reported

namespace CodeSurvey.MinHash

open Finset

section
variable (digest : String → Nat)

/-- Is the token of the set one of least hash? -/
def IsFirst (i : Nat) (s : Finset String) (t : String) : Prop := t ∈ s ∧ ∀ u ∈ s, hash digest i t ≤ hash digest i u

instance (i : Nat) (s : Finset String) (t : String) : Decidable (IsFirst digest i s t) :=
  inferInstanceAs (Decidable (t ∈ s ∧ ∀ u ∈ s, hash digest i t ≤ hash digest i u))

end

/-! ## Entries are least hashes -/

section
variable {digest : String → Nat} {n i : Nat}

theorem getElem?_hashes (hi : i < n) (t : String) : (hashes digest n t)[i]? = some (hash digest i t) := by
  simp [hashes, hi]

/-- The walk over the tokens keeps the least hash of those it has passed. -/
theorem isLeast_foldl (us : List String) {s : List Nat} {S : Set Nat} (hs : ∃ h, s[i]? = some h ∧ IsLeast S h)
    (hi : i < n) :
    ∃ h, (us.foldl (fun sig t => List.zipWith min sig (hashes digest n t)) s)[i]? = some h ∧
      IsLeast (S ∪ Set.image (hash digest i) {t | t ∈ us}) h := by
  induction us generalizing s S with
  | nil => simpa using hs
  | cons t us ih =>
    obtain ⟨h, hget, hleast⟩ := hs
    have hstep : ∃ h, (List.zipWith min s (hashes digest n t))[i]? = some h ∧ IsLeast (S ∪ {hash digest i t}) h :=
      ⟨min h (hash digest i t), by simp [List.getElem?_zipWith, hget, getElem?_hashes hi],
        hleast.union isLeast_singleton⟩
    have hsets : S ∪ Set.image (hash digest i) {u | u ∈ t :: us} =
        S ∪ {hash digest i t} ∪ Set.image (hash digest i) {u | u ∈ us} := by
      rw [Set.union_assoc, ← Set.image_singleton, ← Set.image_union]
      congr 2
      ext u
      simp
    rw [hsets]
    exact ih hstep

theorem isLeast_signatureBy {ts : List String} {A : Finset String} (hts : ts.toFinset = A) (hne : A.Nonempty)
    (hi : i < n) :
    ∃ h, (signatureBy digest n ts)[i]? = some h ∧ IsLeast (Set.image (hash digest i) A) h := by
  cases ts with
  | nil => simp [← hts] at hne
  | cons t ts =>
    obtain ⟨h, hget, hleast⟩ := isLeast_foldl ts ⟨_, getElem?_hashes hi t, isLeast_singleton⟩ hi
    refine ⟨h, hget, ?_⟩
    rw [← Set.image_singleton, ← Set.image_union] at hleast
    convert hleast using 2
    ext u
    simp [← hts]

variable {A B : Finset String} {as bs us : List String}

theorem signatureBy_congr (hne : A.Nonempty) (has : as.toFinset = A) (hbs : bs.toFinset = A) :
    signatureBy digest n as = signatureBy digest n bs := by
  refine List.ext_getElem? fun i => ?_
  by_cases hi : i < n
  · obtain ⟨a, ha, hleast⟩ := isLeast_signatureBy has hne hi
    obtain ⟨b, hb, hleast'⟩ := isLeast_signatureBy hbs hne hi
    rw [ha, hb, hleast.unique hleast']
  · rw [List.getElem?_eq_none (by simpa using hi), List.getElem?_eq_none (by simpa using hi)]

theorem signatureBy_union (hA : A.Nonempty) (hB : B.Nonempty) (has : as.toFinset = A) (hbs : bs.toFinset = B)
    (hus : us.toFinset = A ∪ B) :
    signatureBy digest n us = List.zipWith min (signatureBy digest n as) (signatureBy digest n bs) := by
  refine List.ext_getElem? fun i => ?_
  by_cases hi : i < n
  · obtain ⟨a, ha, hleastA⟩ := isLeast_signatureBy has hA hi
    obtain ⟨b, hb, hleastB⟩ := isLeast_signatureBy hbs hB hi
    obtain ⟨u, hu, hleastU⟩ := isLeast_signatureBy hus (hA.mono subset_union_left) hi
    rw [coe_union, Set.image_union] at hleastU
    rw [hu, hleastU.unique (hleastA.union hleastB)]
    simp [List.getElem?_zipWith, ha, hb]
  · rw [List.getElem?_eq_none (by simpa using hi), List.getElem?_eq_none (by simpa using hi)]

/-- Under a hash function without collisions, one token has the least hash. -/
theorem existsUnique_isFirst (hA : A.Nonempty) (hinj : Set.InjOn (hash digest i) A) : ∃! t, IsFirst digest i A t := by
  obtain ⟨t, ht, hle⟩ := exists_min_image A (hash digest i) hA
  exact ⟨t, ⟨ht, hle⟩, fun u hu => hinj hu.1 ht ((hu.2 t ht).antisymm (hle u hu.1))⟩

theorem getElem?_signatureBy_eq_iff (hA : A.Nonempty) (hB : B.Nonempty) (has : as.toFinset = A)
    (hbs : bs.toFinset = B) (hi : i < n) (hinj : Set.InjOn (hash digest i) ↑(A ∪ B)) {t : String}
    (ht : IsFirst digest i (A ∪ B) t) :
    (signatureBy digest n as)[i]? = (signatureBy digest n bs)[i]? ↔ t ∈ A ∧ t ∈ B := by
  obtain ⟨a, ha, ⟨x, hx, hxa⟩, hleA⟩ := isLeast_signatureBy has hA hi
  obtain ⟨b, hb, ⟨y, hy, hyb⟩, hleB⟩ := isLeast_signatureBy hbs hB hi
  have hxu : x ∈ A ∪ B := mem_union_left B hx
  have hyu : y ∈ A ∪ B := mem_union_right A hy
  rw [ha, hb, Option.some.injEq]
  constructor
  · -- the least hash of both sets is that of the least token, which must be the one that gives it in either
    intro hab
    have hleast : ∀ u ∈ A ∪ B, hash digest i x ≤ hash digest i u := by
      intro u hu
      rcases mem_union.1 hu with hu | hu
      · exact hxa.trans_le (hleA ⟨u, hu, rfl⟩)
      · exact (hxa.trans hab).trans_le (hleB ⟨u, hu, rfl⟩)
    have htx : t = x := hinj ht.1 hxu ((ht.2 x hxu).antisymm (hleast t ht.1))
    have hty : t = y := htx.trans (hinj hxu hyu (by rw [hxa, hyb, hab]))
    exact ⟨htx ▸ hx, hty ▸ hy⟩
  · rintro ⟨htA, htB⟩
    have hta : a = hash digest i t := (hleA ⟨t, htA, rfl⟩).antisymm (hxa ▸ ht.2 x hxu)
    have htb : b = hash digest i t := (hleB ⟨t, htB, rfl⟩).antisymm (hyb ▸ ht.2 y hyu)
    rw [hta, htb]

end

/-! ## Places of agreement -/

theorem agreements_eq_card {s t : List Nat} (h : s.length = t.length) :
    agreements s t = #{i ∈ range s.length | s[i]? = t[i]?} := by
  induction s generalizing t with
  | nil => simp [agreements]
  | cons x s ih =>
    obtain ⟨y, t, rfl⟩ := List.exists_cons_of_length_eq_add_one h.symm
    have hcons : agreements (x :: s) (y :: t) = agreements s t + if x = y then 1 else 0 := by
      by_cases hxy : x = y <;> simp [agreements, hxy]
    rw [hcons, ih (by simpa using h), List.length_cons, card_filter, card_filter, sum_range_succ']
    simp

/-- Places that agree in two pairs of signatures agree in the third. -/
theorem agreements_add_le {s t u : List Nat} (hst : s.length = t.length) (htu : t.length = u.length) :
    agreements s t + agreements t u ≤ agreements s u + s.length := by
  rw [agreements_eq_card hst, agreements_eq_card htu, agreements_eq_card (hst.trans htu), ← hst,
    ← card_union_add_card_inter, add_comm]
  refine add_le_add (card_le_card fun i hi => ?_) ?_
  · simp only [mem_inter, mem_filter] at hi ⊢
    exact ⟨hi.1.1, hi.1.2.trans hi.2.2⟩
  · exact (card_le_card (union_subset (filter_subset _ _) (filter_subset _ _))).trans (card_range _).le

open Decimal Binary

/-- The share of the places in which two signatures of one length differ. -/
def distance (s t : List Nat) : ℚ := 1 - agreements s t / s.length

theorem distance_triangle {s t u : List Nat} (hst : s.length = t.length) (htu : t.length = u.length) (hne : s ≠ []) :
    distance s u ≤ distance s t + distance t u := by
  have hpos : (0 : ℚ) < s.length := by exact_mod_cast List.length_pos_iff.2 hne
  have hadd : (agreements s t : ℚ) + agreements t u ≤ agreements s u + s.length := by
    exact_mod_cast agreements_add_le hst htu
  have hdiv := (div_le_div_iff_of_pos_right hpos).2 hadd
  rw [add_div, add_div, div_self hpos.ne'] at hdiv
  rw [distance, distance, distance, ← hst]
  linarith

def similarity? (s t : List Nat) : Option ℚ := (similarity s t).toOption.bind fun x => (ofFloat? x).map value

theorem exists_similarity? {s t : List Nat} (h : s.length = t.length) (hne : s ≠ []) :
    ∃ x, similarity? s t = some x ∧ |1 - x - distance s t| ≤ 1 / 2 ^ 53 ∧ ∀ j ≤ 52, s.length = 2 ^ j →
      1 - x = distance s t := by
  obtain ⟨b, hb, hnear⟩ := exists_ofFloat?_ofShare_near (List.length_pos_iff.2 hne) (agreements_le s t)
  refine ⟨b.value, by rw [similarity?, similarity_eq h hne]; simp [Except.toOption, hb], ?_, fun j hj hlength => ?_⟩
  · rw [distance, sub_sub_sub_cancel_left, abs_sub_comm]
    exact hnear
  · have hle := agreements_le s t
    rw [hlength] at hb hle
    obtain ⟨c, hc, hv⟩ := exists_ofFloat?_ofShare_pow hj hle
    obtain rfl := Option.some.inj (hb.symm.trans hc)
    rw [distance, hv, hlength]
    push_cast
    rfl

/-- The least hashes of two sets of tokens and the share of the places where they are the same. -/
theorem signatureBy_laws (digest : String → Nat) {n : Nat} (hn : 0 < n) {A B : Finset String} (hA : A.Nonempty)
    (hB : B.Nonempty) {as bs us : List String} (has : as.toFinset = A) (hbs : bs.toFinset = B)
    (hus : us.toFinset = A ∪ B) :
    (∀ i < n, Set.InjOn (hash digest i) ↑(A ∪ B) → (∃! t, IsFirst digest i (A ∪ B) t) ∧ ∀ t,
      IsFirst digest i (A ∪ B) t →
      ((signatureBy digest n as)[i]? = (signatureBy digest n bs)[i]? ↔ t ∈ A ∧ t ∈ B)) ∧
    signatureBy digest n us = List.zipWith min (signatureBy digest n as) (signatureBy digest n bs) ∧
    ((∀ i < n, Set.InjOn (hash digest i) ↑(A ∪ B)) → similarity (signatureBy digest n as) (signatureBy digest n bs) =
      .ok (ofShare #{i ∈ range n | ∃ t ∈ A ∩ B, IsFirst digest i (A ∪ B) t} n)) ∧
    (A = B → similarity (signatureBy digest n as) (signatureBy digest n bs) = .ok 1) ∧
    (∀ s t : List Nat, similarity s t = similarity t s) ∧
    ∀ s t u : List Nat, s ≠ [] → s.length = t.length → t.length = u.length →
      distance s u ≤ distance s t + distance t u ∧
      ∃ x, similarity? s t = some x ∧ |1 - x - distance s t| ≤ 1 / 2 ^ 53 ∧ ∀ j ≤ 52, s.length = 2 ^ j →
        1 - x = distance s t := by
  have hne : signatureBy digest n as ≠ [] := by
    rw [← List.length_pos_iff, length_signatureBy]
    exact hn
  have hshare : similarity (signatureBy digest n as) (signatureBy digest n bs) =
      .ok (ofShare (agreements (signatureBy digest n as) (signatureBy digest n bs)) n) := by
    rw [similarity_eq (by simp) hne, length_signatureBy]
  have hunion : (A ∪ B).Nonempty := hA.mono subset_union_left
  refine ⟨fun i hi hinj => ⟨existsUnique_isFirst hunion hinj,
    fun t => getElem?_signatureBy_eq_iff hA hB has hbs hi hinj⟩, signatureBy_union hA hB has hbs hus, fun hinj => ?_,
    ?_, similarity_comm, fun s t u hs hst htu => ⟨distance_triangle hst htu hs, exists_similarity? hst hs⟩⟩
  · rw [hshare, agreements_eq_card (by simp), length_signatureBy]
    congr 3
    refine filter_congr fun i hi => ?_
    rw [mem_range] at hi
    obtain ⟨t, ht, honly⟩ := existsUnique_isFirst hunion (hinj i hi)
    rw [getElem?_signatureBy_eq_iff hA hB has hbs hi (hinj i hi) ht]
    constructor
    · exact fun hmem => ⟨t, mem_inter.2 hmem, ht⟩
    · rintro ⟨u, hu, hfirst⟩
      rw [← honly u hfirst]
      exact mem_inter.1 hu
  · rintro rfl
    rw [hshare, signatureBy_congr hA has hbs, agreements_self, length_signatureBy, ofShare_self hn]

/-- Two sets that share one token, under hash functions without collisions. -/
theorem signatureBy_laws_pair : similarity (signature 2 ["b"]) (signature 2 ["k", "b"]) =
    .ok (ofShare #{i ∈ range 2 |
      ∃ t ∈ ({"b"} ∩ {"b", "k"} : Finset String), IsFirst Digest.Md5.natOfText i ({"b"} ∪ {"b", "k"}) t} 2) := by
  have hall : ∀ i < 2, ∀ t ∈ ({"b"} ∪ {"b", "k"} : Finset String), ∀ u ∈ ({"b"} ∪ {"b", "k"} : Finset String),
      hash Digest.Md5.natOfText i t = hash Digest.Md5.natOfText i u → t = u := by decide +kernel
  have hlaws :=
    signatureBy_laws Digest.Md5.natOfText (show 0 < 2 by decide) (singleton_nonempty "b") (insert_nonempty "b" {"k"})
    (show ["b"].toFinset = {"b"} by decide) (show ["k", "b"].toFinset = {"b", "k"} by decide)
    (show ["k", "b", "k"].toFinset = {"b"} ∪ {"b", "k"} by decide)
  exact hlaws.2.2.1 fun i hi t ht u hu => hall i hi t ht u hu

/-- The rounded shares of three signatures of five places are no distance. -/
theorem similarity_triangle_fails : ∃ x y z : Float,
    similarity (signature 5 ["b"]) (signature 5 ["b", "k"]) = .ok x ∧
    similarity (signature 5 ["b", "k"]) (signature 5 ["b", "k", "e"]) = .ok y ∧
    similarity (signature 5 ["b"]) (signature 5 ["b", "k", "e"]) = .ok z ∧ ¬ 1 - z ≤ (1 - x) + (1 - y) := by
  -- at once, so that each digest is computed only once
  obtain ⟨hst, htu, hsu⟩ : agreements (signature 5 ["b"]) (signature 5 ["b", "k"]) = 4 ∧
      agreements (signature 5 ["b", "k"]) (signature 5 ["b", "k", "e"]) = 4 ∧
      agreements (signature 5 ["b"]) (signature 5 ["b", "k", "e"]) = 3 := by decide +kernel
  have hne : ∀ ts, signature 5 ts ≠ [] := fun ts h => absurd (length_signature 5 ts) (by rw [h]; decide)
  refine ⟨ofShare 4 5, ofShare 4 5, ofShare 3 5, ?_, ?_, ?_, by decide +kernel⟩
  · rw [similarity_eq (by simp) (hne _), hst, length_signature]
  · rw [similarity_eq (by simp) (hne _), htu, length_signature]
  · rw [similarity_eq (by simp) (hne _), hsu, length_signature]

end CodeSurvey.MinHash
