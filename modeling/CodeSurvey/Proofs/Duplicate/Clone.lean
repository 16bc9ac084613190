/-
Windows of the same text in two files of one language. The search looks at such a pair at least twice, once from each
side; it is reported once, as wholly alike, with the window of the file that is listed earlier in front
(`scan_reports_clone`).

The argument is about one pair of keys. A pair of windows that does not join the two keys changes nothing for them, and
neither does any pair once the two keys are known; so all depends on the first pair that joins them.
-/
import CodeSurvey.Proofs.Duplicate.Reported
import CodeSurvey.Proofs.Duplicate.Windows
import CodeSurvey.Proofs.Fault

namespace CodeSurvey.Duplicate

/-! ## The first pair that joins two keys -/

/-- Are these the windows of the two keys, in the one order or the other? -/
def joins (p q : String × Int) (x : Block × Block) : Bool :=
  (x.1.key == p && x.2.key == q) || (x.1.key == q && x.2.key == p)

def Duplication.joins (p q : String × Int) (d : Duplication) : Bool := Duplicate.joins p q (d.first, d.second)

namespace Comparison

/-- Have the windows of the two keys been compared? -/
def knows (s : Comparison) (p q : String × Int) : Bool := s.compared.contains (p, q) || s.compared.contains (q, p)

def reportsOf (s : Comparison) (p q : String × Int) : List Duplication := s.found.filter (Duplication.joins p q)

end Comparison

section
variable {threshold : Float} {s : Comparison} {p q : String × Int} {x : Block × Block} {a b : Block}

theorem joins_eq_true_iff :
    joins p q x = true ↔ x.1.key = p ∧ x.2.key = q ∨ x.1.key = q ∧ x.2.key = p := by
  simp [joins]

/-- A pair that does not join the two keys, or comes when they are known, changes nothing for them. -/
theorem compareStep_unchanged (threshold : Float) (h : s.knows p q = true ∨ joins p q x = false) :
    (compareStep threshold s x).knows p q = s.knows p q ∧
    (compareStep threshold s x).reportsOf p q = s.reportsOf p q := by
  unfold compareStep comparePair
  dsimp only
  split
  · exact ⟨rfl, rfl⟩
  · rename_i hnew
    -- what is compared now was not known, so it does not join the two keys
    have hjoins : joins p q x = false := by
      rcases h with h | h
      · rw [← Bool.not_eq_true, joins_eq_true_iff]
        rintro (⟨rfl, rfl⟩ | ⟨rfl, rfl⟩) <;>
          simp_all [Comparison.knows, Candidate.ofBlock]
      · exact h
    constructor
    · have hpq : ((x.1.key, x.2.key) == (p, q)) = false ∧ ((x.1.key, x.2.key) == (q, p)) = false := by
        simpa [joins, beq_eq_false_iff_ne, Prod.ext_iff] using hjoins
      simp [Comparison.knows, Std.HashSet.contains_insert, Candidate.ofBlock, hpq]
    · unfold Comparison.reportsOf
      dsimp only
      split
      · exact List.filter_cons_of_neg (by simpa [Duplication.joins, Candidate.ofBlock] using hjoins)
      · rfl

/-- What holds of a step holds of a run of steps. The induction is on the pairs that are left. -/
theorem foldl_compareStep_unchanged (threshold : Float) (left : List (Block × Block))
    (h : s.knows p q = true ∨ ∀ x ∈ left, joins p q x = false) :
    (left.foldl (compareStep threshold) s).knows p q = s.knows p q ∧
      (left.foldl (compareStep threshold) s).reportsOf p q = s.reportsOf p q := by
  induction left generalizing s with
  | nil => exact ⟨rfl, rfl⟩
  | cons x left ih =>
    have hstep := compareStep_unchanged threshold (h.imp_right fun h => h x List.mem_cons_self)
    have hrun := ih (s := compareStep threshold s x)
      (h.imp (fun h => hstep.1.trans h) fun h y hy => h y (List.mem_cons_of_mem x hy))
    exact ⟨hrun.1.trans hstep.1, hrun.2.trans hstep.2⟩

theorem compareStep_reports (hfile : a.fileId.same b.fileId = false) (hnew : s.knows a.key b.key = false)
    (hle : threshold ≤ charactersAlike a b) :
    (compareStep threshold s (a, b)).knows a.key b.key = true ∧
      (compareStep threshold s (a, b)).reportsOf a.key b.key =
        ⟨a, b, charactersAlike a b⟩ :: s.reportsOf a.key b.key := by
  rw [Comparison.knows, Bool.or_eq_false_iff] at hnew
  have hstep : compareStep threshold s (a, b) =
      ⟨s.compared.insert (a.key, b.key), ⟨a, b, charactersAlike a b⟩ :: s.found⟩ := by
    unfold compareStep comparePair
    dsimp only
    rw [alike_ofBlock, if_pos hle]
    exact if_neg (by simp [Candidate.ofBlock, hfile, hnew])
  rw [hstep]
  constructor
  · simp [Comparison.knows]
  · exact List.filter_cons_of_pos (by simp [Duplication.joins, joins])

/-- Of two windows in one bucket, the pair with the earlier window in front comes before all other pairs that join their
keys. -/
theorem exists_bucketPairs_eq {l₁ l₂ : List Block} (hkeys : ((l₁ ++ a :: l₂).map Block.key).Nodup) (hb : b ∈ l₂)
    (hbucket : a.bucket = b.bucket) :
    ∃ pre post, bucketPairs (l₁ ++ a :: l₂) = pre ++ (a, b) :: post ∧ ∀ x ∈ pre, joins a.key b.key x = false := by
  have hkey : ∀ c ∈ l₁, c.key ≠ a.key ∧ c.key ≠ b.key := by
    intro c hc
    rw [List.map_append, List.map_cons, List.nodup_append] at hkeys
    have hne := hkeys.2.2 c.key (List.mem_map_of_mem hc)
    exact ⟨hne a.key List.mem_cons_self, hne b.key (List.mem_cons_of_mem _ (List.mem_map_of_mem hb))⟩
  have hab : a.key ≠ b.key := by
    rw [List.map_append, List.map_cons, List.nodup_append] at hkeys
    exact fun h => (List.nodup_cons.1 hkeys.2.1).1 (h ▸ List.mem_map_of_mem hb)
  generalize hbs : l₁ ++ a :: l₂ = bs at hkeys ⊢
  -- the windows with which `a` is compared before `b`
  have hmem : b ∈ bs.filter fun c => c.bucket == a.bucket := by
    simp [← hbs, hb, hbucket]
  obtain ⟨u, v, huv⟩ := List.append_of_mem hmem
  have hu : ∀ c ∈ u, c.key ≠ b.key := by
    intro c hc
    have hnodup := (List.filter_sublist (p := fun c => c.bucket == a.bucket) (l := bs)).map Block.key |>.nodup hkeys
    rw [huv, List.map_append, List.map_cons, List.nodup_append] at hnodup
    exact hnodup.2.2 c.key (List.mem_map_of_mem hc) b.key List.mem_cons_self
  refine ⟨(l₁.flatMap fun c => (bs.filter fun d => d.bucket == c.bucket).map (Prod.mk c)) ++ u.map (Prod.mk a),
    v.map (Prod.mk a) ++ l₂.flatMap fun c => (bs.filter fun d => d.bucket == c.bucket).map (Prod.mk c), ?_, ?_⟩
  · have hpairs : bucketPairs bs =
        (l₁ ++ a :: l₂).flatMap fun c => (bs.filter fun d => d.bucket == c.bucket).map (Prod.mk c) := by
      rw [hbs, bucketPairs]
    rw [hpairs, List.flatMap_append, List.flatMap_cons, huv]
    simp only [List.map_append, List.map_cons, List.append_assoc, List.cons_append]
  · intro x hx
    rw [← Bool.not_eq_true, joins_eq_true_iff]
    rcases List.mem_append.1 hx with hx | hx
    · obtain ⟨c, hc, hx⟩ := List.mem_flatMap.1 hx
      obtain ⟨d, -, rfl⟩ := List.mem_map.1 hx
      rintro (⟨h, -⟩ | ⟨h, -⟩)
      · exact (hkey c hc).1 h
      · exact (hkey c hc).2 h
    · obtain ⟨c, hc, rfl⟩ := List.mem_map.1 hx
      rintro (⟨-, h⟩ | ⟨h, -⟩)
      · exact hu c hc h
      · exact hab h

end

/-- Two alike windows of different files in one bucket are reported once, in the order in which they come. -/
theorem filter_duplications {threshold : Float} {l₁ l₂ : List Block} {a b : Block}
    (hkeys : ((l₁ ++ a :: l₂).map Block.key).Nodup) (hb : b ∈ l₂) (hfile : a.fileId.same b.fileId = false)
    (hbucket : a.bucket = b.bucket) (hle : threshold ≤ charactersAlike a b) :
    (duplications threshold (l₁ ++ a :: l₂)).filter (Duplication.joins a.key b.key) =
      [⟨a, b, charactersAlike a b⟩] := by
  obtain ⟨pre, post, hpairs, hpre⟩ := exists_bucketPairs_eq hkeys hb hbucket
  rw [duplications_eq, hpairs, List.foldl_append, List.foldl_cons]
  obtain ⟨hknown, hreports⟩ := foldl_compareStep_unchanged (s := ⟨∅, []⟩) threshold pre (.inr hpre)
  generalize pre.foldl (compareStep threshold) ⟨∅, []⟩ = s at hknown hreports
  have hnew : s.knows a.key b.key = false := hknown.trans (by simp [Comparison.knows])
  obtain ⟨hknown', hreports'⟩ := compareStep_reports hfile hnew hle
  have hlast := (foldl_compareStep_unchanged threshold post (.inl hknown')).2
  rw [hreports', hreports] at hlast
  generalize post.foldl (compareStep threshold) (compareStep threshold s (a, b)) = last at hlast
  -- sorting may move the reports, but there is only the one
  have hperm := (List.mergeSort_perm last.found.reverse fun x y => decide (y.similarity ≤ x.similarity)).trans
    (List.reverse_perm last.found)
  exact List.perm_singleton.1 ((hperm.filter (Duplication.joins a.key b.key)).trans (.of_eq hlast))

/-! ## Windows of listed files -/

/-- Is all there that the search needs of a listed file? Of an empty file it needs nothing. -/
def FileEntry.IsReadable (f : FileEntry) : Prop :=
  f.content = [] ∨ ∃ id path language, f.id = some id ∧ f.path = some path ∧ f.spoken = .ok language

def FileEntry.windows (o : Options) (f : FileEntry) : List Block :=
  match f.blocks o with
  | .ok bs => bs
  | .error _ => []

section
variable {o : Options} {f : FileEntry} {id : Json} {path : Option String} {language : List Char}

theorem FileEntry.blocks_eq_ok (hid : f.id = some id) (hpath : f.path = some path) (hlanguage : f.spoken = .ok language)
    (hcontent : f.content ≠ []) : f.blocks o = .ok (Duplicate.blocks o id path language f.content) := by
  have hne : f.content.isEmpty = false := by simpa using hcontent
  simp [FileEntry.blocks, hne, hid, hpath, hlanguage, bind, Except.bind, pure, Except.pure]

theorem FileEntry.IsReadable.blocks_eq (h : f.IsReadable) : f.blocks o = .ok (f.windows o) := by
  rcases h with h | ⟨id, path, language, hid, hpath, hlanguage⟩
  · simp [FileEntry.windows, FileEntry.blocks, h]
  · by_cases hcontent : f.content = []
    · simp [FileEntry.windows, FileEntry.blocks, hcontent]
    · rw [FileEntry.windows, FileEntry.blocks_eq_ok hid hpath hlanguage hcontent]

/-- A listed file has no windows, or those of its content under its identifier. -/
theorem FileEntry.windows_cases (o : Options) (f : FileEntry) :
    f.windows o = [] ∨ ∃ id path language, f.id = some id ∧
      f.windows o = Duplicate.blocks o id path language f.content := by
  unfold FileEntry.windows FileEntry.blocks
  by_cases hcontent : f.content.isEmpty = true
  · simp [hcontent]
  · cases hlanguage : f.spoken with
    | error e => simp [hcontent, bind, Except.bind]
    | ok language =>
      cases hid : f.id <;> cases hpath : f.path <;> simp [hcontent, bind, Except.bind, throw, throwThe,
        MonadExceptOf.throw]
      exact .inr ⟨_, _, rfl⟩

theorem FileEntry.id_of_mem_windows {b : Block} (hb : b ∈ f.windows o) : f.id = some b.fileId := by
  rcases f.windows_cases o with h | ⟨id, path, language, hid, h⟩
  · simp [h] at hb
  · rw [hid, fileId_of_mem_blocks (h ▸ hb)]

theorem FileEntry.nodup_map_key_windows : ((f.windows o).map Block.key).Nodup := by
  rcases f.windows_cases o with h | ⟨id, path, language, -, h⟩
  · simp [h]
  · rw [h]
    exact nodup_map_key_blocks

/-- The file is listed under the identifier and path, and the search looks at a window of the text at the offset in it.
-/
structure FileEntry.HasWindow (o : Options) (f : FileEntry) (id : Json) (path : Option String)
    (language text : List Char) (start : Nat) : Prop where
  id_eq : f.id = some id
  path_eq : f.path = some path
  spoken_eq : f.spoken = .ok language
  looked_at : start ∈ windowStarts (Text.lines f.content).length (windowSize o language)
  text_eq : windowText o language f.content start = text

theorem FileEntry.HasWindow.mem_windows {text : List Char} {start : Nat} (h : f.HasWindow o id path language text start)
    (hcounts : counts o language text = true) : windowBlock o id path language f.content start ∈ f.windows o := by
  rw [← h.text_eq] at hcounts
  have hcontent : f.content ≠ [] := by
    intro hnil
    rw [hnil, windowText_nil] at hcounts
    simp [counts, Text.isBlankText] at hcounts
  rw [FileEntry.windows, FileEntry.blocks_eq_ok h.id_eq h.path_eq h.spoken_eq hcontent, Duplicate.blocks_eq]
  exact List.mem_map_of_mem (List.mem_filter.2 ⟨h.looked_at, hcounts⟩)

end

theorem scan_eq_ok {o : Options} {files : List FileEntry} (h : ∀ f ∈ files, f.IsReadable) :
    scan o files = .ok (duplications o.threshold (files.map (FileEntry.windows o)).flatten) := by
  have hmap : files.mapM (FileEntry.blocks o) = .ok (files.map (FileEntry.windows o)) :=
    mapM_eq_ok_map fun f hf => (h f hf).blocks_eq
  rw [scan, hmap]
  rfl

theorem nodup_map_key_windows {o : Options} {files : List FileEntry}
    (hids : files.Pairwise fun f g => ∀ i ∈ f.id, ∀ j ∈ g.id, i.display ≠ j.display) :
    ((files.map (FileEntry.windows o)).flatten.map Block.key).Nodup := by
  rw [List.map_flatten, List.nodup_flatten, List.map_map]
  constructor
  · intro l hl
    obtain ⟨f, -, rfl⟩ := List.mem_map.1 hl
    exact FileEntry.nodup_map_key_windows
  · rw [List.pairwise_map]
    refine hids.imp fun {f g} hfg key hf hg => ?_
    obtain ⟨a, ha, rfl⟩ := List.mem_map.1 hf
    obtain ⟨b, hb, hkey⟩ := List.mem_map.1 hg
    exact hfg _ (FileEntry.id_of_mem_windows ha) _ (FileEntry.id_of_mem_windows hb) (congrArg Prod.fst hkey.symm)

/-! ## Windows of the same text -/

theorem charactersAlike_of_content_eq {a b : Block} (h : a.content = b.content) : charactersAlike a b = 1 := by
  have hsig : a.characterSignature = b.characterSignature := by
    rw [Block.characterSignature, Block.characterSignature, h]
  rw [charactersAlike, hsig, Block.characterSignature, MinHash.share_signature (by decide), MinHash.agreements_self,
    MinHash.length_signature]
  decide +kernel

section
variable {o : Options} {f g : FileEntry} {id id' : Json} {path path' : Option String}
  {language text : List Char} {m n : Nat}

theorem bucket_windowBlock_eq (hf : f.HasWindow o id path language text m)
    (hg : g.HasWindow o id' path' language text n) :
    (windowBlock o id path language f.content m).bucket = (windowBlock o id' path' language g.content n).bucket := by
  simp only [Block.bucket, windowBlock, hf.text_eq, hg.text_eq]

/-- Of two listed files of one language, with identifiers that are different values, two windows of the same text that
count are reported once, as wholly alike, and with the window of the file that is listed earlier in front. -/
theorem scan_reports_clone {files fs gs hs : List FileEntry} (hread : ∀ f ∈ files, f.IsReadable)
    (hids : files.Pairwise fun f g => ∀ i ∈ f.id, ∀ j ∈ g.id, i.display ≠ j.display) (hthreshold : o.threshold ≤ 1)
    (hfiles : files = fs ++ f :: gs ++ g :: hs) (hf : f.HasWindow o id path language text m)
    (hg : g.HasWindow o id' path' language text n) (hcounts : counts o language text = true)
    (hsame : id.same id' = false) :
    ∃ found, scan o files = .ok found ∧
      found.filter (Duplication.joins (id.display, (m + 1 : Int)) (id'.display, (n + 1 : Int))) =
        [⟨windowBlock o id path language f.content m, windowBlock o id' path' language g.content n, 1⟩] := by
  refine ⟨_, scan_eq_ok hread, ?_⟩
  have hkeys := nodup_map_key_windows (o := o) hids
  have hb := hg.mem_windows hcounts
  obtain ⟨u, v, huv⟩ := List.append_of_mem (hf.mem_windows hcounts)
  have hblocks : (files.map (FileEntry.windows o)).flatten = ((fs.map (FileEntry.windows o)).flatten ++ u) ++
      windowBlock o id path language f.content m :: (v ++ ((gs ++ g :: hs).map (FileEntry.windows o)).flatten) := by
    simp [hfiles, huv]
  have halike : charactersAlike (windowBlock o id path language f.content m)
      (windowBlock o id' path' language g.content n) = 1 :=
    charactersAlike_of_content_eq (hf.text_eq.trans hg.text_eq.symm)
  rw [hblocks] at hkeys ⊢
  have hle : o.threshold ≤ charactersAlike (windowBlock o id path language f.content m)
      (windowBlock o id' path' language g.content n) := by rwa [halike]
  have hfound := filter_duplications (b := windowBlock o id' path' language g.content n) hkeys (by simp [hb]) hsame
    (bucket_windowBlock_eq hf hg) hle
  rwa [halike] at hfound

end

/-- Two files with a line in common. The language of the one is told by its path, and that of the other is given. -/
def sharedLine : List FileEntry :=
  [⟨some (.str "x"), some (some "x.py"), "cd\nab".toList, []⟩, ⟨some (.int 7), some none, "ab".toList, "python".toList⟩]

theorem scan_reports_clone_sharedLine :
    ∃ found, scan ⟨1, 0.8, 1⟩ sharedLine = .ok found ∧
      found.filter (Duplication.joins ("x", 2) ("7", 1)) =
        [⟨windowBlock ⟨1, 0.8, 1⟩ (.str "x") (some "x.py") "python".toList "cd\nab".toList 1,
          windowBlock ⟨1, 0.8, 1⟩ (.int 7) none "python".toList "ab".toList 0, 1⟩] := by
  have hread : ∀ f ∈ sharedLine, f.IsReadable :=
    List.forall_mem_cons.2 ⟨.inr ⟨_, _, _, rfl, rfl, rfl⟩, List.forall_mem_singleton.2 (.inr ⟨_, _, _, rfl, rfl, rfl⟩)⟩
  have hids : sharedLine.Pairwise fun f g => ∀ i ∈ f.id, ∀ j ∈ g.id, i.display ≠ j.display := by
    simp only [sharedLine, List.pairwise_pair, Option.mem_some_iff, forall_eq']
    decide +kernel
  have hfiles : sharedLine = [] ++ ⟨some (.str "x"), some (some "x.py"), "cd\nab".toList, []⟩ :: [] ++
      ⟨some (.int 7), some none, "ab".toList, "python".toList⟩ :: [] := rfl
  have hearlier : FileEntry.HasWindow ⟨1, 0.8, 1⟩ ⟨some (.str "x"), some (some "x.py"), "cd\nab".toList, []⟩ (.str "x")
      (some "x.py") "python".toList "ab".toList 1 := ⟨rfl, rfl, rfl, by decide +kernel, by decide +kernel⟩
  have hlater : FileEntry.HasWindow ⟨1, 0.8, 1⟩ ⟨some (.int 7), some none, "ab".toList, "python".toList⟩ (.int 7) none
      "python".toList "ab".toList 0 := ⟨rfl, rfl, rfl, by decide +kernel, by decide +kernel⟩
  exact scan_reports_clone hread hids (by decide +kernel) hfiles hearlier hlater (by decide +kernel) (by decide +kernel)

/-- If all windows are of files whose identifiers are the same value, there are no duplications. -/
theorem duplications_eq_nil {threshold : Float} {bs : List Block}
    (h : ∀ a ∈ bs, ∀ b ∈ bs, a.fileId.same b.fileId = true) : duplications threshold bs = [] := by
  have hpass : ∀ x ∈ bucketPairs bs, x.1.fileId.same x.2.fileId = true := by
    rintro ⟨a, b⟩ hx
    obtain ⟨ha, hb, -⟩ := mem_bucketPairs.1 hx
    exact h a ha b hb
  have hrun : ∀ left : List (Block × Block), (∀ x ∈ left, x.1.fileId.same x.2.fileId = true) →
      left.foldl (compareStep threshold) ⟨∅, []⟩ = ⟨∅, []⟩ := by
    intro left hleft
    induction left with
    | nil => rfl
    | cons x left ih =>
      have hstep : compareStep threshold ⟨∅, []⟩ x = ⟨∅, []⟩ := by
        unfold compareStep comparePair
        exact if_pos (by simp [Candidate.ofBlock, hleft x List.mem_cons_self])
      rw [List.foldl_cons, hstep]
      exact ih fun y hy => hleft y (List.mem_cons_of_mem x hy)
  rw [duplications_eq, hrun _ hpass, List.reverse_nil, List.mergeSort_nil]

/-- Two files of the same line, under the number one as an integer and as a double. -/
def sameNumber : List FileEntry :=
  [⟨some (.int 1), some (some "a.py"), "ab".toList, []⟩, ⟨some (.float 1), some (some "b.py"), "ab".toList, []⟩]

/-- Identifiers that differ as texts and are the same value hide the same line in two files. -/
theorem scan_misses_clone_sameNumber :
    (∀ f ∈ sameNumber, f.IsReadable) ∧
      (sameNumber.Pairwise fun f g => ∀ i ∈ f.id, ∀ j ∈ g.id, i.display ≠ j.display) ∧
      (1 : Float) ≤ 1 ∧
      (∃ f g, sameNumber = [f, g] ∧
        f.HasWindow ⟨1, 1, 1⟩ (.int 1) (some "a.py") "python".toList "ab".toList 0 ∧
        g.HasWindow ⟨1, 1, 1⟩ (.float 1) (some "b.py") "python".toList "ab".toList 0) ∧
      counts ⟨1, 1, 1⟩ "python".toList "ab".toList = true ∧
      scan ⟨1, 1, 1⟩ sameNumber = .ok [] := by
  have hread : ∀ f ∈ sameNumber, f.IsReadable :=
    List.forall_mem_cons.2 ⟨.inr ⟨_, _, _, rfl, rfl, rfl⟩, List.forall_mem_singleton.2 (.inr ⟨_, _, _, rfl, rfl, rfl⟩)⟩
  refine ⟨hread, ?_, by decide +kernel, ⟨_, _, rfl, ⟨rfl, rfl, rfl, by decide +kernel, by decide +kernel⟩,
    ⟨rfl, rfl, rfl, by decide +kernel, by decide +kernel⟩⟩, by decide +kernel, ?_⟩
  · simp only [sameNumber, List.pairwise_pair, Option.mem_some_iff, forall_eq']
    decide +kernel
  · rw [scan_eq_ok hread]
    refine congrArg Except.ok (duplications_eq_nil fun a ha b hb => ?_)
    have hone : ∀ b ∈ (sameNumber.map (FileEntry.windows ⟨1, 1, 1⟩)).flatten, b.fileId = .int 1 ∨
        b.fileId = .float 1 := by
      intro b hb
      obtain ⟨l, hl, hb⟩ := List.mem_flatten.1 hb
      obtain ⟨f, hf, rfl⟩ := List.mem_map.1 hl
      have hid := FileEntry.id_of_mem_windows hb
      rcases List.mem_pair.1 hf with rfl | rfl
      · exact .inl (Option.some.inj hid).symm
      · exact .inr (Option.some.inj hid).symm
    rcases hone a ha with ha | ha <;> rcases hone b hb with hb | hb <;> rw [ha, hb] <;> decide +kernel

end CodeSurvey.Duplicate
