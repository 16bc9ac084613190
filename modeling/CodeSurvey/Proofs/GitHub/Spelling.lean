/-
The spellings of the address of a repository: in the web, with or without the ending of its storage, a branch and a
slash at the end, and for the shell. Both readers read every spelling back (`spellings_read_back`).

An address is read by its parts between slashes. No name holds a slash, so the parts of a spelling are what they were
put together from, and whatever way the pattern matches, its groups are these parts.
-/
import CodeSurvey.GitHub.Remote
import CodeSurvey.Proofs.Pattern.Reach
import CodeSurvey.Proofs.Text.Piece

namespace CodeSurvey.GitHub

open Pattern

/-- A name of an owner, a repository or a branch. -/
structure IsName (t : List Char) : Prop where
  ne_nil : t ≠ []
  all : ∀ c ∈ t, isNamePart c = true

def tree (branch : Option (List Char)) : List Char := branch.elim [] fun b => "/tree/".toList ++ b

@[simp] theorem tree_none : tree none = [] := rfl

@[simp] theorem tree_some (b : List Char) : tree (some b) = "/tree/".toList ++ b := rfl

/-- What follows the site: the owner, the name with or without the ending, the branch if there is one, and perhaps a
slash. -/
def path (owner name : List Char) (stored : Bool) (branch : Option (List Char)) (slash : Bool) : List Char :=
  owner ++ '/' :: (name ++ (if stored then ending else []) ++ tree branch ++ if slash then ['/'] else [])

def webSpelling (owner name : List Char) (stored : Bool) (branch : Option (List Char)) (slash : Bool) : List Char :=
  webStart ++ path owner name stored branch slash

def shellStart : List Char := "git@github.com:".toList

def shellSpelling (owner name : List Char) (stored : Bool) : List Char :=
  shellStart ++ path owner name stored none false

/-! ## The pattern of an address -/

/-- The text is the site, a separator and a path, with a line feed behind it or nothing. -/
def Reads (t owner name : List Char) (branch : Option (List Char)) : Prop :=
  IsName owner ∧ IsName name ∧ (∀ b ∈ branch, IsName b) ∧ ∃ sep stored slash r,
    (sep = ':' ∨ sep = '/') ∧ (r = [] ∨ r = ['\n']) ∧
      t = "github.com".toList ++ sep :: (path owner name stored branch slash ++ r)

theorem spells_sep : (one fun c => c == ':' || c == '/').Spells fun w => ∃ sep, (sep = ':' ∨ sep = '/') ∧ w = [sep] :=
  (spells_one _).congr fun w => by simp

theorem spells_optional_lit (s : String) :
    (optional (lit s)).Spells fun w => ∃ given : Bool, w = if given then s.toList else [] := by
  refine (spells_lit s).optional.congr fun w => ⟨?_, ?_⟩
  · rintro (rfl | rfl)
    · exact ⟨true, rfl⟩
    · exact ⟨false, rfl⟩
  · rintro ⟨given, rfl⟩
    cases given
    · exact .inr rfl
    · exact .inl rfl

/-- The pattern of the branch, which is the only part that captures nothing when it is missing. -/
theorem exists_of_reaches_tree {c d : Cursor} (h : (optional (lit "/tree/" ++ group 4 (plus isNamePart))).Reaches c d) :
    ∃ branch, c.after = tree branch ++ d.after ∧ (∀ b ∈ branch, IsName b) ∧
      d.groups = branch.elim c.groups fun b => (4, b) :: c.groups := by
  rcases h with ⟨e, h₁, h₂⟩ | rfl
  · obtain ⟨_, r₁, hr₁, rfl, rfl⟩ := (spells_lit _ _ _).1 h₁
    obtain ⟨b, r₂, hr₂, hb, rfl⟩ := (spells_plus _).reaches_group_iff.1 h₂
    obtain rfl : r₁ = b ++ r₂ := hr₂
    refine ⟨some b, by simp [hr₁], fun b' hb' => ?_, rfl⟩
    obtain rfl : b = b' := Option.some.inj hb'
    exact ⟨hb.1, hb.2⟩
  · exact ⟨none, rfl, by simp, rfl⟩

theorem accepts_tree {branch : Option (List Char)} (h : ∀ b ∈ branch, IsName b) (r : List Char) :
    (optional (lit "/tree/" ++ group 4 (plus isNamePart))).Accepts (tree branch) r := by
  cases branch with
  | none => exact accepts_optional_nil
  | some b =>
    have hb := h b rfl
    exact (((spells_lit _).accepts rfl).append (((spells_plus _).accepts ⟨hb.ne_nil, hb.all⟩).group 4)).optional

theorem atTextEnd_iff {c : Cursor} : c.atTextEnd = true ↔ c.after = [] ∨ c.after = ['\n'] := by
  unfold Cursor.atTextEnd
  split <;> simp_all

theorem accepts_textEnd {r : List Char} (hr : r = [] ∨ r = ['\n']) : textEnd.Accepts [] r :=
  fun c hc => ⟨c, ⟨atTextEnd_iff.2 (by rwa [hc]), rfl⟩, hc⟩

/-- Every match of the pattern reads an address, and captures its parts. -/
theorem reads_of_reaches {c d : Cursor} (h : addressPattern.Reaches c d) (hc : c.groups = []) :
    ∃ owner name branch, Reads c.after owner name branch ∧ d.group 1 = owner ∧ d.group 2 = name ∧
      d.group? 4 = branch := by
  obtain ⟨c₈, ⟨c₇, ⟨c₆, ⟨c₅, ⟨c₄, ⟨c₃, ⟨c₂, ⟨c₁, h₁, h₂⟩, h₃⟩, h₄⟩, h₅⟩, h₆⟩, h₇⟩, h₈⟩, hend, rfl⟩ := h
  obtain ⟨_, r₁, hr₁, rfl, rfl⟩ := (spells_lit _ _ _).1 h₁
  obtain ⟨_, r₂, hr₂, ⟨sep, hsep, rfl⟩, rfl⟩ := (spells_sep _ _).1 h₂
  obtain ⟨owner, r₃, hr₃, howner, rfl⟩ := (spells_plus _).reaches_group_iff.1 h₃
  obtain ⟨_, r₄, hr₄, rfl, rfl⟩ := (spells_lit _ _ _).1 h₄
  obtain ⟨name, r₅, hr₅, hname, rfl⟩ := (spells_lazyPlus _).reaches_group_iff.1 h₅
  obtain ⟨_, r₆, hr₆, ⟨stored, rfl⟩, rfl⟩ := (spells_optional_lit _ _ _).1 h₆
  obtain ⟨branch, hr₇, hbranch, hgroups⟩ := exists_of_reaches_tree h₇
  obtain ⟨_, r₈, hr₈, ⟨slash, rfl⟩, rfl⟩ := (spells_optional_lit _ _ _).1 h₈
  obtain rfl : r₁ = sep :: r₂ := hr₂
  obtain rfl : r₂ = owner ++ r₃ := hr₃
  obtain rfl : r₃ = '/' :: r₄ := hr₄
  obtain rfl : r₄ = name ++ r₅ := hr₅
  obtain rfl : r₅ = (if stored then ending else []) ++ r₆ := hr₆
  obtain rfl : r₆ = tree branch ++ c₇.after := hr₇
  rw [Cursor.groups_past] at hgroups
  refine ⟨owner, name, branch, ⟨⟨howner.1, howner.2⟩, ⟨hname.1, hname.2⟩, hbranch, sep, stored, slash, r₈, hsep,
    atTextEnd_iff.1 hend, ?_⟩, ?_, ?_, ?_⟩
  · rw [hr₁, hr₈]
    simp [path]
  all_goals cases branch <;> simp [Cursor.group, Cursor.group?, hgroups, hc]

theorem Reads.accepts {t owner name : List Char} {branch : Option (List Char)} (h : Reads t owner name branch) :
    ∃ w r, t = w ++ r ∧ addressPattern.Accepts w r := by
  obtain ⟨howner, hname, hbranch, sep, stored, slash, r, hsep, hr, rfl⟩ := h
  have hsite : ∀ r, (lit "github.com").Accepts "github.com".toList r := fun r => (spells_lit _).accepts rfl
  have hsep : ∀ r, (one fun c => c == ':' || c == '/').Accepts [sep] r := fun r => spells_sep.accepts ⟨sep, hsep, rfl⟩
  have howner : ∀ r, (group 1 (plus isNamePart)).Accepts owner r :=
    fun r => ((spells_plus _).accepts ⟨howner.ne_nil, howner.all⟩).group 1
  have hslash : ∀ r, (lit "/").Accepts ['/'] r := fun r => (spells_lit _).accepts rfl
  have hname : ∀ r, (group 2 (lazyPlus isNamePart)).Accepts name r :=
    fun r => ((spells_lazyPlus _).accepts ⟨hname.ne_nil, hname.all⟩).group 2
  have hgit : ∀ r, (optional (lit ".git")).Accepts (if stored then ending else []) r :=
    fun r => (spells_optional_lit _).accepts ⟨stored, rfl⟩
  have hlast : ∀ r, (optional (lit "/")).Accepts (if slash then ['/'] else []) r :=
    fun r => (spells_optional_lit _).accepts ⟨slash, rfl⟩
  refine ⟨_, r, ?_, ((((((((hsite _).append (hsep _)).append (howner _)).append (hslash _)).append (hname _)).append
    (hgit _)).append (accepts_tree hbranch _)).append (hlast _)).append (accepts_textEnd hr)⟩
  simp [path]

/-! ## Parts of a path -/

theorem isNamePart_slash : isNamePart '/' = false := by decide

theorem not_mem_of_isNamePart {c : Char} (hc : isNamePart c = false) {t : List Char} (ht : IsName t) : c ∉ t :=
  fun hmem => by simp [ht.all c hmem] at hc

/-- The parts of a path between its slashes. -/
def segments (owner name : List Char) (stored : Bool) (branch : Option (List Char)) (slash : Bool) : List (List Char) :=
  owner :: (name ++ (if stored then ending else [])) :: ((branch.elim [] fun b => ["tree".toList, b]) ++
    if slash then [[]] else [])

section
variable {owner name : List Char} {branch : Option (List Char)}

theorem not_mem_name_ending {c : Char} (hc : isNamePart c = false) (hname : IsName name) (stored : Bool) :
    c ∉ name ++ (if stored then ending else []) := by
  have hending : c ∉ ending := fun hmem => by
    have hall : ∀ a ∈ ending, isNamePart a = true := List.all_eq_true.1 (by decide)
    simp [hall c hmem] at hc
  cases stored
  · simpa using not_mem_of_isNamePart hc hname
  · simpa using ⟨not_mem_of_isNamePart hc hname, hending⟩

theorem splitOnChar_path (howner : IsName owner) (hname : IsName name) (hbranch : ∀ b ∈ branch, IsName b)
    (stored slash : Bool) : Text.splitOnChar '/' (path owner name stored branch slash) =
      segments owner name stored branch slash := by
  have howner : '/' ∉ owner := not_mem_of_isNamePart isNamePart_slash howner
  have hname := not_mem_name_ending isNamePart_slash hname stored
  have hlast : ∀ {t : List Char}, '/' ∉ t → Text.splitOnChar '/' (t ++ if slash then ['/'] else []) =
      t :: if slash then [[]] else [] := by
    intro t ht
    cases slash
    · simpa using Text.splitOnChar_of_not_mem ht
    · exact Text.splitOnChar_append ht
  rw [path, Text.splitOnChar_append howner, segments]
  cases branch with
  | none =>
    rw [tree_none, List.append_nil, hlast hname]
    rfl
  | some b =>
    have hb : '/' ∉ b := not_mem_of_isNamePart isNamePart_slash (hbranch b rfl)
    have htree : '/' ∉ "tree".toList := by decide
    have hsplit : (name ++ if stored then ending else []) ++ ("/tree/".toList ++ b) ++ (if slash then ['/'] else []) =
        (name ++ if stored then ending else []) ++
          '/' :: ("tree".toList ++ '/' :: (b ++ if slash then ['/'] else [])) := by
      simp
    rw [tree_some, hsplit, Text.splitOnChar_append hname, Text.splitOnChar_append htree, hlast hb]
    rfl

theorem not_mem_path {c : Char} (hc : isNamePart c = false) (hne : c ≠ '/') (howner : IsName owner)
    (hname : IsName name) (hbranch : ∀ b ∈ branch, IsName b)
    (stored slash : Bool) : c ∉ path owner name stored branch slash := by
  have hlast : c ∉ (if slash then ['/'] else []) := by cases slash <;> simp [hne]
  have htree : c ∉ tree branch := by
    cases branch with
    | none => exact List.not_mem_nil
    | some b =>
      have hall : ∀ a ∈ "/tree/".toList, (a == '/' || isNamePart a) = true := List.all_eq_true.1 (by decide)
      rw [tree_some, List.mem_append, not_or]
      refine ⟨fun hmem => ?_, not_mem_of_isNamePart hc (hbranch b rfl)⟩
      simpa [hne, hc] using hall c hmem
  rw [path, List.mem_append, List.mem_cons, List.mem_append, List.mem_append, not_or, not_or, not_or, not_or]
  exact ⟨not_mem_of_isNamePart hc howner, hne, ⟨not_mem_name_ending hc hname stored, htree⟩, hlast⟩

end

/-! ## The ending -/

theorem dropEnding_append_ending (t : List Char) : dropEnding (t ++ ending) = t := by
  have hends : Text.endsWith ending (t ++ ending) = true := List.isSuffixOf_iff_suffix.2 (List.suffix_append _ _)
  rw [dropEnding, if_pos hends]
  simp [ending]

theorem dropEnding_of_not {t : List Char} (h : ¬ ending <:+ t) : dropEnding t = t := by
  have hends : ¬ Text.endsWith ending t = true := mt List.isSuffixOf_iff_suffix.1 h
  rw [dropEnding, if_neg hends]

theorem ending_suffix_iff {u v : List Char} : ending <:+ u ++ '/' :: v ↔ ending <:+ v := by
  constructor
  · intro h
    have hnot : '/' ∉ ending := by decide
    rcases List.suffix_or_suffix_of_suffix h (List.suffix_append u ('/' :: v)) with h | h
    · rcases List.suffix_cons_iff.1 h with h | h
      · exact absurd (h ▸ List.mem_cons_self) hnot
      · exact h
    · exact absurd (h.mem List.mem_cons_self) hnot
  · exact fun h => h.trans ((List.suffix_cons _ _).trans (List.suffix_append _ _))

theorem dropEnding_append_slash (u v : List Char) : dropEnding (u ++ '/' :: v) = u ++ '/' :: dropEnding v := by
  by_cases h : ending <:+ v
  · obtain ⟨w, rfl⟩ := h
    rw [dropEnding_append_ending, ← dropEnding_append_ending (u ++ '/' :: w)]
    simp
  · rw [dropEnding_of_not h, dropEnding_of_not (mt ending_suffix_iff.1 h)]

/-- A name without the ending is read off with or without it. -/
theorem dropEnding_name {name : List Char} (h : ¬ ending <:+ name) (stored : Bool) :
    dropEnding (name ++ if stored then ending else []) = name := by
  cases stored
  · simpa using dropEnding_of_not h
  · exact dropEnding_append_ending name

/-! ## Reading back -/

section
variable {owner name : List Char} {branch : Option (List Char)} {stored slash : Bool}

/-- A path is read in one way only, up to the ending of the name. -/
theorem Reads.unique {sep : Char} {owner' name' : List Char} {branch' : Option (List Char)} (howner : IsName owner)
    (hname : IsName name) (hending : ¬ ending <:+ name) (hbranch : ∀ b ∈ branch, IsName b)
    (h : Reads ("github.com".toList ++ sep :: path owner name stored branch slash) owner' name' branch') :
    owner' = owner ∧ dropEnding name' = name ∧ branch' = branch := by
  obtain ⟨howner', hname', hbranch', sep', stored', slash', r, -, hr, heq⟩ := h
  have hpath : path owner name stored branch slash = path owner' name' stored' branch' slash' ++ r :=
    (List.cons.inj (List.append_cancel_left heq)).2
  -- a line feed is no part of a path
  obtain rfl : r = [] := by
    rcases hr with rfl | rfl
    · rfl
    · refine absurd ?_ (not_mem_path (c := '\n') (by decide) (by decide) howner hname hbranch stored slash)
      rw [hpath]
      simp
  have hsegments : segments owner name stored branch slash = segments owner' name' stored' branch' slash' := by
    rw [← splitOnChar_path howner hname hbranch, hpath, List.append_nil, splitOnChar_path howner' hname' hbranch']
  obtain ⟨rfl, hnames, hbranches⟩ : owner = owner' ∧
      (name ++ if stored then ending else []) = (name' ++ if stored' then ending else []) ∧ branch = branch' := by
    unfold segments at hsegments
    simp only [List.cons.injEq] at hsegments
    refine ⟨hsegments.1, hsegments.2.1, ?_⟩
    have hrest := hsegments.2.2
    cases branch <;> cases branch' <;> cases slash <;> cases slash' <;> simp_all
  refine ⟨rfl, ?_, hbranches.symm⟩
  cases stored' with
  | false =>
    rw [← dropEnding_name hending stored, hnames]
    simp
  | true =>
    cases stored with
    | true =>
      obtain rfl : name = name' := List.append_cancel_right hnames
      exact dropEnding_of_not hending
    | false =>
      refine absurd ⟨name', ?_⟩ hending
      simpa using hnames.symm

/-- An address at the end of a text is found, unless one starts before it. -/
theorem find?_append_of_not_reads {pre : List Char} {sep : Char}
    (hpre : ∀ u₁ u₂ owner' name' branch', pre = u₁ ++ u₂ → u₂ ≠ [] →
      ¬ Reads (u₂ ++ ("github.com".toList ++ sep :: path owner name stored branch slash)) owner' name' branch')
    (hsep : sep = ':' ∨ sep = '/') (howner : IsName owner) (hname : IsName name) (hending : ¬ ending <:+ name)
    (hbranch : ∀ b ∈ branch, IsName b) :
    Address.find? (pre ++ ("github.com".toList ++ sep :: path owner name stored branch slash)) =
      some ⟨owner, name, branch.getD mainBranch⟩ := by
  have hreads : Reads ("github.com".toList ++ sep :: path owner name stored branch slash) owner name branch :=
    ⟨howner, hname, hbranch, sep, stored, slash, [], hsep, .inl rfl, by rw [List.append_nil]⟩
  generalize ht : "github.com".toList ++ sep :: path owner name stored branch slash = t at hreads hpre
  have hskip : addressPattern.searchFrom [] 0 (pre ++ t) =
      addressPattern.searchFrom (pre.reverse ++ []) (0 + pre.length) t := by
    refine searchFrom_append fun u₁ u₂ d hu hne hd => ?_
    obtain ⟨_, _, _, h, -⟩ := reads_of_reaches hd rfl
    exact hpre u₁ u₂ _ _ _ hu hne h
  obtain ⟨w, r, hw, haccepts⟩ := hreads.accepts
  obtain ⟨e, he, -⟩ := haccepts ⟨pre.reverse ++ [], t, 0 + pre.length, []⟩ hw
  obtain ⟨d, hd⟩ := Option.isSome_iff_exists.1 (isSome_matchAt?_iff.2 ⟨e, he⟩)
  obtain ⟨owner', name', branch', hreads', h₁, h₂, h₄⟩ := reads_of_reaches (reaches_of_matchAt? hd) rfl
  rw [← ht] at hreads'
  obtain ⟨rfl, hname', rfl⟩ := Reads.unique howner hname hending hbranch hreads'
  rw [Address.find?, search?, hskip, searchFrom_eq_matchAt? he, hd, Option.map_some, h₁, h₂, h₄, hname']

theorem find?_append {pre : List Char} {sep : Char}
    (hpre : ∀ u ∈ pre.tails, u ≠ [] → ¬ u <+: "github.com".toList ∧ ¬ "github.com".toList <+: u)
    (hsep : sep = ':' ∨ sep = '/') (howner : IsName owner) (hname : IsName name) (hending : ¬ ending <:+ name)
    (hbranch : ∀ b ∈ branch, IsName b) :
    Address.find? (pre ++ ("github.com".toList ++ sep :: path owner name stored branch slash)) =
      some ⟨owner, name, branch.getD mainBranch⟩ := by
  refine find?_append_of_not_reads (fun u₁ u₂ _ _ _ hu hne => ?_) hsep howner hname hending hbranch
  -- the site does not start before it does
  rintro ⟨-, -, -, _, _, _, _, -, -, heq⟩
  obtain ⟨h₁, h₂⟩ := hpre u₂ ((List.mem_tails _ _).2 ⟨u₁, hu.symm⟩) hne
  rcases List.prefix_or_prefix_of_prefix (List.prefix_append u₂ _) ⟨_, heq.symm⟩ with h | h
  · exact h₁ h
  · exact h₂ h

theorem stripRightBy_path (hname : IsName name) (hbranch : ∀ b ∈ branch, IsName b) :
    Text.stripRightBy (· == '/') (path owner name stored branch slash) = path owner name stored branch false := by
  obtain ⟨u, v, hpath, hne, hv⟩ : ∃ u v, path owner name stored branch false = u ++ v ∧ v ≠ [] ∧ '/' ∉ v := by
    cases branch with
    | none =>
      refine ⟨owner ++ ['/'], name ++ (if stored then ending else []), by simp [path], ?_,
        not_mem_name_ending isNamePart_slash hname stored⟩
      exact List.append_ne_nil_of_left_ne_nil hname.ne_nil _
    | some b =>
      refine ⟨owner ++ '/' :: (name ++ (if stored then ending else []) ++ "/tree/".toList), b, by simp [path],
        (hbranch b rfl).ne_nil, not_mem_of_isNamePart isNamePart_slash (hbranch b rfl)⟩
  have hlast : path owner name stored branch slash = path owner name stored branch false ++ if slash then
      ['/'] else [] := by
    simp [path]
  rw [hlast, hpath]
  refine Text.stripRightBy_append (fun c hc => ?_) (by cases slash <;> simp)
  rw [List.getLast?_append_of_ne_nil _ hne] at hc
  exact beq_false_of_ne fun h => hv (h ▸ List.mem_of_getLast? hc)

/-- The first two parts of a path that lost its ending. -/
theorem splitOnChar_dropEnding_path (howner : IsName owner) (hname : IsName name) (hending : ¬ ending <:+ name)
    (stored : Bool) (branch : Option (List Char)) :
    ∃ part parts, Text.splitOnChar '/' (dropEnding (path owner name stored branch false)) = owner :: part :: parts ∧
      dropEnding part = name := by
  cases branch with
  | none =>
    have hpath : path owner name stored none false = owner ++ '/' :: (name ++ if stored then ending else []) := by
      simp [path]
    refine ⟨name, [], ?_, dropEnding_of_not hending⟩
    rw [hpath, dropEnding_append_slash, dropEnding_name hending,
      Text.splitOnChar_append (not_mem_of_isNamePart isNamePart_slash howner),
      Text.splitOnChar_of_not_mem (not_mem_of_isNamePart isNamePart_slash hname)]
  | some b =>
    have hpath : path owner name stored (some b) false =
        (owner ++ '/' :: ((name ++ if stored then ending else []) ++ '/' :: "tree".toList)) ++ '/' :: b := by
      simp [path]
    refine ⟨name ++ (if stored then ending else []), Text.splitOnChar '/' ("tree".toList ++ '/' :: dropEnding b), ?_,
      dropEnding_name hending stored⟩
    rw [hpath, dropEnding_append_slash]
    simp only [List.append_assoc, List.cons_append]
    rw [Text.splitOnChar_append (not_mem_of_isNamePart isNamePart_slash howner), ← List.append_assoc,
      Text.splitOnChar_append (not_mem_name_ending isNamePart_slash hname stored)]

theorem readWeb_webSpelling (howner : IsName owner) (hname : IsName name) (hending : ¬ ending <:+ name)
    (hbranch : ∀ b ∈ branch, IsName b) : readWeb (webSpelling owner name stored branch slash) = .ok (owner, name) := by
  have hstart : Text.startsWith webStart (webSpelling owner name stored branch slash) = true :=
    List.isPrefixOf_iff_prefix.2 (List.prefix_append _ _)
  have hcolon : ':' ∉ path owner name stored branch slash :=
    not_mem_path (by decide) (by decide) howner hname hbranch stored slash
  have hrest : Text.replace webStart [] (webSpelling owner name stored branch slash) =
      path owner name stored branch slash := by
    refine Text.replace_nil_append (by decide) fun h => hcolon (h.mem ?_)
    decide
  obtain ⟨part, parts, hparts, hpart⟩ := splitOnChar_dropEnding_path howner hname hending stored branch
  have hempty : (owner.isEmpty || name.isEmpty) = false := by simp [howner.ne_nil, hname.ne_nil]
  rw [readWeb, hstart, hrest, stripRightBy_path hname hbranch]
  simp [hparts, hpart, hempty]

end

/-- Every spelling of an address is read back by both readers: with the ending of its storage or without it, with a
branch or without one, with a slash behind it or without one. A name may hold the ending inside, or be a word that the
spelling uses itself. -/
theorem spellings_read_back {owner name : List Char} (howner : IsName owner) (hname : IsName name)
    (hending : ¬ ending <:+ name) (stored : Bool) {branch : Option (List Char)} (hbranch : ∀ b ∈ branch, IsName b)
    (slash : Bool) :
    Address.find? (webSpelling owner name stored branch slash) = some ⟨owner, name, branch.getD mainBranch⟩ ∧
      readWeb (webSpelling owner name stored branch slash) = .ok (owner, name) ∧
        Address.find? (shellSpelling owner name stored) = some ⟨owner, name, mainBranch⟩ := by
  have hweb : webSpelling owner name stored branch slash =
      "https://".toList ++ ("github.com".toList ++ '/' :: path owner name stored branch slash) := by
    have hstart : webStart = "https://".toList ++ ("github.com".toList ++ ['/']) := by decide
    rw [webSpelling, hstart, List.append_assoc, List.append_assoc]
    rfl
  have hshell : shellSpelling owner name stored =
      "git@".toList ++ ("github.com".toList ++ ':' :: path owner name stored none false) := by
    have hstart : shellStart = "git@".toList ++ ("github.com".toList ++ [':']) := by decide
    rw [shellSpelling, hstart, List.append_assoc, List.append_assoc]
    rfl
  refine ⟨?_, readWeb_webSpelling howner hname hending hbranch, ?_⟩
  · rw [hweb]
    exact find?_append (by decide) (.inr rfl) howner hname hending hbranch
  · rw [hshell]
    exact find?_append (by decide) (.inl rfl) howner hname hending (by simp)

/-- Names that look like parts of the spelling. -/
theorem spellings_read_back_tree :
    Address.find? "https://github.com/tree/github.com.git/tree/v1.git/".toList =
        some ⟨"tree".toList, "github.com".toList, "v1.git".toList⟩ ∧
      readWeb "https://github.com/tree/github.com.git/tree/v1.git/".toList = .ok ("tree".toList, "github.com".toList) ∧
        Address.find? "git@github.com:tree/github.com.git".toList =
          some ⟨"tree".toList, "github.com".toList, "main".toList⟩ := by
  have howner : IsName "tree".toList := ⟨by decide, List.all_eq_true.1 (by decide)⟩
  have hname : IsName "github.com".toList := ⟨by decide, List.all_eq_true.1 (by decide)⟩
  have hbranch : ∀ b ∈ some "v1.git".toList, IsName b :=
    fun b hb => Option.some.inj hb ▸ ⟨by decide, List.all_eq_true.1 (by decide)⟩
  exact spellings_read_back howner hname (by decide) true hbranch true

end CodeSurvey.GitHub
