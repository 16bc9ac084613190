/-
The list of duplications that a search comes to. Its records are of windows of different files, unless the identifier of
a file is not a number (`scan_lists_window_twice`); no two windows are reported together twice, the records are sorted
by how alike their windows are, and the ranges of lines lie in the files and have the length of a window
(`scan_lists_windows`).

The shares by which windows are compared are multiples of one part in 128, so the order of the doubles is that of the
numbers of agreements (`share_le_iff`).
-/
import CodeSurvey.Proofs.Decimal.Double
import CodeSurvey.Proofs.Duplicate.Clone

namespace CodeSurvey

/-! ## Values equal to themselves -/

open Float.Model Float.Model.UnpackedFloat in
theorem beq_self_eq_not_isNaN (x : Float) : (x == x) = !x.isNaN := by
  show x.toModel.unpack.beq x.toModel.unpack = !x.toModel.unpack.isNaN
  rcases x.toModel.unpack with s | _ | s | ⟨s, m, e, hm⟩
  · cases s <;> rfl
  · rfl
  · rfl
  · cases s <;> simp [UnpackedFloat.beq, UnpackedFloat.compare, UnpackedFloat.isNaN]

namespace Json

mutual

/-- Only what is not a number differs from itself. -/
theorem same_self : ∀ j : Json, j.same j = !j.isNaN
  | null => rfl
  | str a => by simp [same, isNaN]
  | odd t => by simp [same, isNaN]
  | arr l => sameItems_self l
  | obj l => by
    simpa [same, isNaN] using sameFields_of_subset l l fun _ h => h
  | bool b => by simp [same, number?, isNaN]
  | int n => by simp [same, number?, isNaN]
  | float x => beq_self_eq_not_isNaN x

theorem sameItems_self : ∀ l : List Json, sameItems l l = true
  | [] => rfl
  | j :: l => by
    rw [sameItems, same_self j, sameItems_self l]
    cases j.isNaN <;> rfl

theorem sameFields_of_subset : ∀ l m : List (String × Json), (∀ x ∈ l, x ∈ m) → sameFields l m = true
  | [], _, _ => rfl
  | (k, j) :: l, m, h => by
    obtain ⟨hhead, hrest⟩ := List.forall_mem_cons.1 h
    rw [sameFields, sameFields_of_subset l m hrest, Bool.and_true, List.any_eq_true]
    refine ⟨(k, j), hhead, ?_⟩
    show (k == k && (j.isNaN && j.isNaN || j.same j)) = true
    rw [same_self j]
    cases j.isNaN <;> simp

end

end Json

namespace Duplicate

/-! ## The order of the shares -/

open Decimal Binary

/-- A share of 128 places is the exact quotient. -/
theorem exists_value_share {k : Nat} (hk : k ≤ hashCount) :
    ∃ b, ofFloat? (Decimal.ofShare k hashCount) = some b ∧ b.value = k / hashCount := by
  obtain ⟨b, hb, hv⟩ := Decimal.exists_ofFloat?_ofShare_pow (j := 7) (by decide) hk
  exact ⟨b, hb, hv.trans (by norm_num [hashCount])⟩

theorem share_le_iff {k m : Nat} (hk : k ≤ hashCount) (hm : m ≤ hashCount) :
    Decimal.ofShare k hashCount ≤ Decimal.ofShare m hashCount ↔ k ≤ m := by
  obtain ⟨b, hb, hbv⟩ := exists_value_share hk
  obtain ⟨c, hc, hcv⟩ := exists_value_share hm
  have hpos : (0 : ℚ) < hashCount := by norm_num [hashCount]
  rw [le_iff_value_le hb hc, hbv, hcv, div_le_div_iff_of_pos_right hpos, Nat.cast_le]

/-- In how many places the signatures of the characters of two windows agree. -/
def agreement (a b : Block) : Nat := MinHash.agreements a.characterSignature b.characterSignature

theorem agreement_le (a b : Block) : agreement a b ≤ hashCount :=
  (MinHash.agreements_le _ _).trans (by rw [Block.characterSignature, MinHash.length_signature])

theorem charactersAlike_eq (a b : Block) :
    charactersAlike a b = Decimal.ofShare (agreement a b) hashCount :=
  MinHash.share_signature (by decide) _ _

theorem charactersAlike_le_one (a b : Block) : charactersAlike a b ≤ 1 := by
  rw [charactersAlike_eq, ← Decimal.ofShare_self (n := hashCount) (by decide),
    share_le_iff (agreement_le a b) (Nat.le_refl _)]
  exact agreement_le a b

/-- Records whose similarity is that of their windows are sorted: the sorting is that of the numbers of agreements. -/
theorem pairwise_mergeSort_similarity {l : List Duplication}
    (h : ∀ d ∈ l, d.similarity = charactersAlike d.first d.second) :
    (l.mergeSort fun x y => y.similarity ≤ x.similarity).Pairwise fun x y => y.similarity ≤ x.similarity := by
  have hle : ∀ x ∈ l, ∀ y ∈ l, y.similarity ≤ x.similarity ↔
      agreement y.first y.second ≤ agreement x.first x.second := by
    intro x hx y hy
    rw [h x hx, h y hy, charactersAlike_eq, charactersAlike_eq, share_le_iff (agreement_le _ _) (agreement_le _ _)]
  have hsorted := @List.pairwise_mergeSort _ (fun k m : Nat => decide (m ≤ k))
    (fun a b c hab hbc => by simp only [decide_eq_true_eq] at hab hbc ⊢; omega)
    (fun a b => by simp only [Bool.or_eq_true, decide_eq_true_eq]; omega)
    (l.map fun d => agreement d.first d.second)
  rw [← List.map_mergeSort fun x hx y hy => decide_eq_decide.2 (hle x hx y hy), List.pairwise_map] at hsorted
  refine hsorted.imp_of_mem fun {x y} hx hy hxy => ?_
  rw [List.mem_mergeSort] at hx hy
  exact (hle x hx y hy).2 (of_decide_eq_true hxy)

/-! ## Each pair once -/

/-- The two windows of a record, in no order. -/
def Duplication.ends (d : Duplication) : Sym2 (String × Int) := s(d.first.key, d.second.key)

/-- What is found so far is of different files, has been noted, and is found once. -/
structure Comparison.IsTidy (s : Comparison) : Prop where
  apart : ∀ d ∈ s.found, d.first.fileId.same d.second.fileId = false
  known : ∀ d ∈ s.found, s.knows d.first.key d.second.key = true
  once : (s.found.map Duplication.ends).Nodup

namespace Comparison

variable {s : Comparison} {a b : Block}

theorem knows_congr {p q p' q' : String × Int} (h : s(p, q) = s(p', q')) : s.knows p q = s.knows p' q' := by
  rcases Sym2.eq_iff.1 h with ⟨rfl, rfl⟩ | ⟨rfl, rfl⟩
  · rfl
  · exact Bool.or_comm _ _

theorem knows_insert {p q p' q' : String × Int} (found : List Duplication) :
    (Comparison.mk (s.compared.insert (p', q')) found).knows p q = true ↔ s(p, q) = s(p', q') ∨ s.knows p q = true := by
  simp only [knows, Std.HashSet.contains_insert, Bool.or_eq_true, beq_iff_eq, Sym2.eq_iff, Prod.mk.injEq]
  tauto

theorem isTidy_nil : IsTidy ⟨∅, []⟩ where
  apart := by simp
  known := by simp
  once := List.nodup_nil

theorem IsTidy.pass (h : s.IsTidy) : IsTidy ⟨s.compared.insert (a.key, b.key), s.found⟩ where
  apart := h.apart
  known := fun d hd => (knows_insert _).2 (.inr (h.known d hd))
  once := h.once

theorem IsTidy.note (h : s.IsTidy) (hapart : a.fileId.same b.fileId = false)
    (hnew : s.knows a.key b.key = false) (x : Float) :
    IsTidy ⟨s.compared.insert (a.key, b.key), ⟨a, b, x⟩ :: s.found⟩ where
  apart := List.forall_mem_cons.2 ⟨hapart, h.apart⟩
  known := List.forall_mem_cons.2 ⟨(knows_insert _).2 (.inl rfl), fun d hd => (knows_insert _).2 (.inr (h.known d hd))⟩
  once := by
    rw [List.map_cons, List.nodup_cons]
    refine ⟨fun hmem => ?_, h.once⟩
    -- what was found before is known, and these two windows are not
    obtain ⟨d, hd, hends⟩ := List.mem_map.1 hmem
    have hknown := (knows_congr hends).symm.trans (h.known d hd)
    exact Bool.false_ne_true (hnew.symm.trans hknown)

theorem IsTidy.step (h : s.IsTidy) (threshold : Float) (x : Block × Block) : (compareStep threshold s x).IsTidy := by
  unfold compareStep comparePair
  dsimp only
  split
  · exact h
  · rename_i hnew
    simp only [Bool.or_eq_true, not_or, Bool.not_eq_true] at hnew
    obtain ⟨⟨hapart, hpq⟩, hqp⟩ := hnew
    split
    · exact h.note hapart (Bool.or_eq_false_iff.2 ⟨hpq, hqp⟩) _
    · exact h.pass

theorem IsTidy.run (h : s.IsTidy) (threshold : Float) (left : List (Block × Block)) :
    (left.foldl (compareStep threshold) s).IsTidy := by
  induction left generalizing s with
  | nil => exact h
  | cons x left ih => exact ih (h.step threshold x)

end Comparison

/-! ## Ranges of lines -/

/-- The window is a range of lines of the file, as long as the windows of its language are. -/
structure FileEntry.Holds (o : Options) (f : FileEntry) (b : Block) (language : List Char) : Prop where
  id_eq : f.id = some b.fileId
  path_eq : f.path = some b.path
  spoken_eq : f.spoken = .ok language
  one_le : 1 ≤ b.startLine
  endLine_le : b.endLine ≤ (Text.lines f.content).length
  range_eq : b.endLine - b.startLine + 1 = windowSize o language
  lineCount_eq : b.lineCount = windowSize o language

theorem length_slice {α : Type} {l : List α} {start : Nat} {size : Int} (hsize : 1 ≤ size)
    (h : start + size ≤ l.length) :
    (Text.slice start (start + size) l).length = size := by
  obtain ⟨b, rfl⟩ := Int.eq_ofNat_of_zero_le (show 0 ≤ size by omega)
  rw [slice_eq_take_drop (by omega), List.length_take, List.length_drop]
  omega

theorem FileEntry.exists_holds {o : Options} {f : FileEntry} {b : Block} (hsize : 1 ≤ o.minBlockSize)
    (hf : f.IsReadable) (hb : b ∈ f.windows o) : ∃ language, f.Holds o b language := by
  have hcontent : f.content ≠ [] := by
    rintro hnil
    simp [FileEntry.windows, FileEntry.blocks, hnil] at hb
  obtain ⟨id, path, language, hid, hpath, hlanguage⟩ := hf.resolve_left hcontent
  rw [FileEntry.windows, FileEntry.blocks_eq_ok hid hpath hlanguage hcontent, Duplicate.blocks_eq] at hb
  obtain ⟨start, hstart, rfl⟩ := List.mem_map.1 hb
  have hpos := one_le_windowSize hsize language
  have hfits := (mem_windowStarts_iff.1 (List.mem_filter.1 hstart).1).2
  have hmin : min (start + windowSize o language) ((Text.lines f.content).length : Int) =
      start + windowSize o language :=
    min_eq_left hfits
  refine ⟨language, hid, hpath, hlanguage, ?_, ?_, ?_, ?_⟩
  all_goals simp only [windowBlock, hmin]
  · omega
  · exact hfits
  · omega
  · exact length_slice hpos hfits

theorem FileEntry.isReadable_iff {o : Options} {f : FileEntry} : f.IsReadable ↔ ∃ bs, f.blocks o = .ok bs := by
  refine ⟨fun h => ⟨_, h.blocks_eq⟩, fun ⟨bs, hbs⟩ => ?_⟩
  by_cases hcontent : f.content = []
  · exact .inl hcontent
  · rw [FileEntry.blocks, if_neg (by simpa using hcontent), bind_eq_ok_iff] at hbs
    obtain ⟨language, hlanguage, hbs⟩ := hbs
    cases hid : f.id with
    | none => simp [hid, throw, throwThe, MonadExceptOf.throw] at hbs
    | some id =>
      cases hpath : f.path with
      | none => simp [hid, hpath, throw, throwThe, MonadExceptOf.throw] at hbs
      | some path => exact .inr ⟨id, path, language, hid, hpath, hlanguage⟩

theorem exists_scan_eq_ok_iff {o : Options} {files : List FileEntry} :
    (∃ found, scan o files = .ok found) ↔ ∀ f ∈ files, f.IsReadable := by
  refine ⟨fun ⟨found, hfound⟩ f hf => ?_, fun h => ⟨_, scan_eq_ok h⟩⟩
  rw [scan, bind_eq_ok_iff] at hfound
  obtain ⟨bss, hbss, -⟩ := hfound
  exact FileEntry.isReadable_iff.2 (exists_eq_ok_of_mapM_eq_ok hbss f hf)

theorem exists_getElem?_of_mem_windows {o : Options} {files : List FileEntry} {b : Block}
    (h : b ∈ (files.map (FileEntry.windows o)).flatten) : ∃ (i : Nat) (f : FileEntry), files[i]? = some f ∧
      b ∈ f.windows o := by
  obtain ⟨l, hl, hb⟩ := List.mem_flatten.1 h
  obtain ⟨f, hf, rfl⟩ := List.mem_map.1 hl
  obtain ⟨i, hi⟩ := List.mem_iff_getElem?.1 hf
  exact ⟨i, f, hi, hb⟩

/-- Windows of the same text in one language are reported, whichever files they are of, if the identifiers are different
values. -/
theorem exists_scan_reports {o : Options} {files : List FileEntry} {f g : FileEntry} {id id' : Json}
    {path path' : Option String} {language text : List Char} {m n : Nat} (hread : ∀ f ∈ files, f.IsReadable)
    (hids : files.Pairwise fun f g => ∀ i ∈ f.id, ∀ j ∈ g.id, i.display ≠ j.display) (hthreshold : o.threshold ≤ 1)
    (hf : f ∈ files) (hg : g ∈ files) (hm : f.HasWindow o id path language text m)
    (hn : g.HasWindow o id' path' language text n)
    (hcounts : counts o language text = true) (hsame : id.same id' = false) :
    ∃ found, scan o files = .ok found ∧
      Reports found (windowBlock o id path language f.content m) (windowBlock o id' path' language g.content n) := by
  have hmem {f : FileEntry} {b : Block} (hf : f ∈ files) (hb : b ∈ f.windows o) : b ∈
      (files.map (FileEntry.windows o)).flatten :=
    List.mem_flatten_of_mem (List.mem_map_of_mem hf) hb
  refine ⟨_, scan_eq_ok hread, ?_⟩
  rw [reports_iff (nodup_map_key_windows hids) (hmem hf (hm.mem_windows hcounts))
    (hmem hg (hn.mem_windows hcounts)) hsame, charactersAlike_of_content_eq (hm.text_eq.trans hn.text_eq.symm)]
  exact ⟨bucket_windowBlock_eq hm hn, hthreshold⟩

/-! ## The whole list -/

/-- A search ends with a list exactly if all files can be read. The windows of a record are of two different files,
unless they are of one whose identifier is not a number, and are ranges of lines of these files as long as windows are;
the lines in common are as many as the shorter window has. No two windows are in two records. The records are as alike
as asked for, and the most alike come first. -/
theorem scan_lists_windows (o : Options) (files : List FileEntry) (hsize : 1 ≤ o.minBlockSize) :
    ((∃ found, scan o files = .ok found) ↔ ∀ f ∈ files, f.IsReadable) ∧
    ∀ found, scan o files = .ok found →
      (∀ d ∈ found, ∃ (i j : Nat) (f g : FileEntry) (language language' : List Char),
        files[i]? = some f ∧ files[j]? = some g ∧ (i = j → d.first.fileId.isNaN = true) ∧
        f.Holds o d.first language ∧ g.Holds o d.second language' ∧
        d.duplicateLines = min (windowSize o language) (windowSize o language')) ∧
      (found.map Duplication.ends).Nodup ∧
      (∀ d ∈ found, o.threshold ≤ d.similarity ∧ d.similarity ≤ 1) ∧
      found.Pairwise fun x y => y.similarity ≤ x.similarity := by
  refine ⟨exists_scan_eq_ok_iff, fun found hfound => ?_⟩
  have hread := exists_scan_eq_ok_iff.1 ⟨found, hfound⟩
  rw [scan_eq_ok hread, duplications_eq] at hfound
  have hcompared := (compared_nil o.threshold).run (bucketPairs (files.map (FileEntry.windows o)).flatten)
  have htidy := Comparison.isTidy_nil.run o.threshold (bucketPairs (files.map (FileEntry.windows o)).flatten)
  rw [List.nil_append] at hcompared
  generalize List.foldl (compareStep o.threshold) _ _ = s at hfound hcompared htidy
  obtain rfl := Except.ok.inj hfound
  have hperm := (List.mergeSort_perm s.found.reverse fun x y => decide (y.similarity ≤ x.similarity)).trans
    (List.reverse_perm s.found)
  refine ⟨fun d hd => ?_, ?_, fun d hd => ?_, pairwise_mergeSort_similarity fun d hd => ?_⟩
  · have hd := hperm.mem_iff.1 hd
    obtain ⟨hfirst, hsecond, -⟩ := mem_bucketPairs.1 (hcompared.found d hd).1
    obtain ⟨i, f, hi, hf⟩ := exists_getElem?_of_mem_windows hfirst
    obtain ⟨j, g, hj, hg⟩ := exists_getElem?_of_mem_windows hsecond
    obtain ⟨language, hfirst⟩ := FileEntry.exists_holds hsize (hread f (List.mem_of_getElem? hi)) hf
    obtain ⟨language', hsecond⟩ := FileEntry.exists_holds hsize (hread g (List.mem_of_getElem? hj)) hg
    refine ⟨i, j, f, g, language, language', hi, hj, ?_, hfirst, hsecond, ?_⟩
    · rintro rfl
      -- the identifier of one file was found to differ from itself
      obtain rfl := Option.some.inj (hi.symm.trans hj)
      have hself := htidy.apart d hd
      rw [← Option.some.inj (hfirst.id_eq.symm.trans hsecond.id_eq), Json.same_self, Bool.not_eq_false'] at hself
      exact hself
    · rw [Duplication.duplicateLines, ← hfirst.lineCount_eq, ← hsecond.lineCount_eq]
      omega
  · exact (hperm.map Duplication.ends).nodup_iff.2 htidy.once
  · obtain ⟨-, hsim, hle⟩ := hcompared.found d (hperm.mem_iff.1 hd)
    exact ⟨hle, hsim ▸ charactersAlike_le_one d.first d.second⟩
  · exact (hcompared.found d (List.mem_reverse.1 hd)).2.1

theorem scan_lists_windows_sharedLine :
    1 ≤ (Options.mk 1 0.8 1).minBlockSize ∧
      ∃ found, scan ⟨1, 0.8, 1⟩ sharedLine = .ok found ∧ found ≠ [] ∧ (found.map Duplication.ends).Nodup ∧
        (∀ d ∈ found, 0.8 ≤ d.similarity ∧ d.similarity ≤ 1) ∧
          found.Pairwise fun x y => y.similarity ≤ x.similarity := by
  have hread : ∀ f ∈ sharedLine, f.IsReadable :=
    List.forall_mem_cons.2 ⟨.inr ⟨_, _, _, rfl, rfl, rfl⟩, List.forall_mem_singleton.2 (.inr ⟨_, _, _, rfl, rfl, rfl⟩)⟩
  have hids : sharedLine.Pairwise fun f g => ∀ i ∈ f.id, ∀ j ∈ g.id, i.display ≠ j.display := by
    simp only [sharedLine, List.pairwise_pair, Option.mem_some_iff, forall_eq']
    decide +kernel
  have hearlier : FileEntry.HasWindow ⟨1, 0.8, 1⟩ ⟨some (.str "x"), some (some "x.py"), "cd\nab".toList, []⟩ (.str "x")
      (some "x.py") "python".toList "ab".toList 1 := ⟨rfl, rfl, rfl, by decide +kernel, by decide +kernel⟩
  have hlater : FileEntry.HasWindow ⟨1, 0.8, 1⟩ ⟨some (.int 7), some none, "ab".toList, "python".toList⟩ (.int 7) none
      "python".toList "ab".toList 0 := ⟨rfl, rfl, rfl, by decide +kernel, by decide +kernel⟩
  obtain ⟨found, hfound, d, hd, -⟩ := exists_scan_reports hread hids (by decide +kernel) List.mem_cons_self
    (List.mem_cons_of_mem _ List.mem_cons_self) hearlier hlater (by decide +kernel) (by decide +kernel)
  exact ⟨by decide, found, hfound, List.ne_nil_of_mem hd,
    ((scan_lists_windows ⟨1, 0.8, 1⟩ sharedLine (by decide)).2 found hfound).2⟩

/-- A file whose identifier is not a number. -/
def unnumbered : FileEntry := ⟨some (.float (0 / 0)), some (some "a.py"), "ab".toList, []⟩

/-- The only window of such a file is reported as a duplicate of itself. -/
theorem scan_lists_window_twice :
    [unnumbered].Pairwise (fun f g => ∀ i ∈ f.id, ∀ j ∈ g.id, i.display ≠ j.display) ∧
      ∃ found, scan ⟨1, 1, 1⟩ [unnumbered] = .ok found ∧ ∃ d ∈ found, d.first = d.second := by
  have hids : [unnumbered].Pairwise fun f g => ∀ i ∈ f.id, ∀ j ∈ g.id, i.display ≠ j.display :=
    List.pairwise_singleton _ _
  have hread : ∀ f ∈ [unnumbered], f.IsReadable := List.forall_mem_singleton.2 (.inr ⟨_, _, _, rfl, rfl, rfl⟩)
  have hwindow : unnumbered.HasWindow ⟨1, 1, 1⟩ (.float (0 / 0)) (some "a.py") "python".toList "ab".toList 0 :=
    ⟨rfl, rfl, rfl, by decide +kernel, by decide +kernel⟩
  obtain ⟨found, hfound, d, hd, hends⟩ :=
    exists_scan_reports hread hids (by decide +kernel) List.mem_cons_self List.mem_cons_self
    hwindow hwindow (by decide +kernel) (by decide +kernel)
  refine ⟨hids, found, hfound, d, hd, ?_⟩
  rcases hends with ⟨hfirst, hsecond⟩ | ⟨hfirst, hsecond⟩
  · rw [hfirst, hsecond]
  · rw [hfirst, hsecond]

end Duplicate

end CodeSurvey
