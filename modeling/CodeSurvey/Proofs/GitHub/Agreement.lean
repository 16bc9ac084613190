/-
The two readers of addresses side by side. They look at opposite ends of a text: whatever stands before the last
address, the finder finds that one (`find?_append_webSpelling`), and whatever follows the first address, the reader of
web addresses reads that one (`readWeb_webSpelling_append`). Where a text has one address only, they differ by the
ending of the name and by a line feed (`readers_agree_iff`).
-/
import CodeSurvey.Proofs.GitHub.Spelling
import CodeSurvey.Proofs.Pattern.Shortest

namespace CodeSurvey.GitHub

open Pattern

/-- A line feed or nothing. -/
def feed (fed : Bool) : List Char := if fed then ['\n'] else []

/-- The text is a site, a separator and a path, with a line feed behind it or nothing. The name may have the ending. -/
structure Spelled (t : List Char) (sep : Char) (owner name : List Char) (branch : Option (List Char))
    (slash fed : Bool) : Prop where
  isSep : sep = ':' ∨ sep = '/'
  isOwner : IsName owner
  isName : IsName name
  isBranch : ∀ b ∈ branch, IsName b
  text : t = "github.com".toList ++ sep :: (path owner name false branch slash ++ feed fed)

/-! ## The ending, twice -/

theorem IsName.append_ending {t : List Char} (ht : IsName t) (stored : Bool) :
    IsName (t ++ if stored then ending else []) := by
  have hall : ∀ a ∈ ending, isNamePart a = true := List.all_eq_true.1 (by decide)
  refine ⟨List.append_ne_nil_of_left_ne_nil ht.ne_nil _, fun c hc => ?_⟩
  rcases List.mem_append.1 hc with hc | hc
  · exact ht.all c hc
  · cases stored
    · cases hc
    · exact hall c hc

theorem dropEnding_isPrefix (t : List Char) : dropEnding t <+: t := by
  by_cases h : ending <:+ t
  · obtain ⟨u, rfl⟩ := h
    rw [dropEnding_append_ending]
    exact List.prefix_append u ending
  · rw [dropEnding_of_not h]

theorem dropEnding_eq_self_iff {t : List Char} : dropEnding t = t ↔ ¬ ending <:+ t := by
  constructor
  · rintro h ⟨u, rfl⟩
    rw [dropEnding_append_ending] at h
    have hlength := congrArg List.length h
    have hpos : 0 < ending.length := by decide
    rw [List.length_append] at hlength
    omega
  · exact dropEnding_of_not

theorem dropEnding_twice_eq_iff {t : List Char} :
    dropEnding (dropEnding t) = dropEnding t ↔ ¬ ending ++ ending <:+ t := by
  rw [dropEnding_eq_self_iff, not_iff_not]
  constructor
  · intro h
    by_cases ht : ending <:+ t
    · obtain ⟨u, rfl⟩ := ht
      rw [dropEnding_append_ending] at h
      obtain ⟨v, rfl⟩ := h
      exact ⟨v, (List.append_assoc ..).symm⟩
    · rw [dropEnding_of_not ht] at h
      exact absurd h ht
  · rintro ⟨u, rfl⟩
    rw [← List.append_assoc, dropEnding_append_ending]
    exact List.suffix_append u ending

theorem not_ending_suffix_feed (t : List Char) : ¬ ending <:+ t ++ ['\n'] := by
  rintro ⟨u, hu⟩
  have hlast := congrArg List.getLast? hu
  rw [List.getLast?_append_of_ne_nil _ (by decide), List.getLast?_concat] at hlast
  exact absurd hlast (by decide)

/-! ## What the finder finds -/

def beforeName : Pattern :=
  lit "github.com" ++ one (fun c => c == ':' || c == '/') ++ group 1 (plus isNamePart) ++ lit "/"

def behindName : Pattern :=
  optional (lit ".git") ++ (optional (lit "/tree/" ++ group 4 (plus isNamePart)) ++ (optional (lit "/") ++ textEnd))

theorem matchAt?_addressPattern (c : Cursor) :
    addressPattern.matchAt? c = beforeName.run (fun d => (group 2 (lazyPlus isNamePart)).run behindName.matchAt? d) c :=
  rfl

theorem exists_of_reaches_beforeName {c d : Cursor} (h : beforeName.Reaches c d) :
    ∃ sep owner, (sep = ':' ∨ sep = '/') ∧ IsName owner ∧
      c.after = "github.com".toList ++ sep :: (owner ++ '/' :: d.after) ∧ d.groups = (1, owner) :: c.groups := by
  obtain ⟨c₃, ⟨c₂, ⟨c₁, h₁, h₂⟩, h₃⟩, h₄⟩ := h
  obtain ⟨_, r₁, hr₁, rfl, rfl⟩ := (spells_lit _ _ _).1 h₁
  obtain ⟨_, r₂, hr₂, ⟨sep, hsep, rfl⟩, rfl⟩ := (spells_sep _ _).1 h₂
  obtain ⟨owner, r₃, hr₃, howner, rfl⟩ := (spells_plus _).reaches_group_iff.1 h₃
  obtain ⟨_, r₄, hr₄, rfl, rfl⟩ := (spells_lit _ _ _).1 h₄
  obtain rfl : r₁ = sep :: r₂ := hr₂
  obtain rfl : r₂ = owner ++ r₃ := hr₃
  obtain rfl : r₃ = '/' :: r₄ := hr₄
  exact ⟨sep, owner, hsep, ⟨howner.1, howner.2⟩, hr₁, rfl⟩

theorem exists_of_reaches_behindName {c d : Cursor} (h : behindName.Reaches c d) :
    ∃ (stored : Bool) (branch : Option (List Char)) (slash fed : Bool), (∀ b ∈ branch, IsName b) ∧
      c.after = (if stored then ending else []) ++ (tree branch ++ ((if slash then ['/'] else []) ++ feed fed)) ∧
      d.groups = branch.elim c.groups fun b => (4, b) :: c.groups := by
  obtain ⟨c₁, h₁, c₂, h₂, c₃, h₃, hend, rfl⟩ := h
  obtain ⟨_, r₁, hr₁, ⟨stored, rfl⟩, rfl⟩ := (spells_optional_lit _ _ _).1 h₁
  obtain ⟨branch, hr₂, hbranch, hgroups⟩ := exists_of_reaches_tree h₂
  obtain ⟨_, r₃, hr₃, ⟨slash, rfl⟩, rfl⟩ := (spells_optional_lit _ _ _).1 h₃
  obtain rfl : r₁ = tree branch ++ c₂.after := hr₂
  obtain ⟨fed, rfl⟩ : ∃ fed, r₃ = feed fed := by
    rcases atTextEnd_iff.1 hend with h | h
    · exact ⟨false, h⟩
    · exact ⟨true, h⟩
  refine ⟨stored, branch, slash, fed, hbranch, ?_, hgroups⟩
  rw [hr₁, hr₃]
  rfl

theorem accepts_behindName {branch : Option (List Char)} (hbranch : ∀ b ∈ branch, IsName b)
    (stored slash fed : Bool) {c : Cursor}
    (hc : c.after = (if stored then ending else []) ++ (tree branch ++ ((if slash then ['/'] else []) ++ feed fed))) :
    ∃ d, behindName.Reaches c d := by
  have hgit : ∀ r, (optional (lit ".git")).Accepts (if stored then ending else []) r :=
    fun r => (spells_optional_lit _).accepts ⟨stored, rfl⟩
  have hlast : ∀ r, (optional (lit "/")).Accepts (if slash then ['/'] else []) r :=
    fun r => (spells_optional_lit _).accepts ⟨slash, rfl⟩
  have hend : textEnd.Accepts [] (feed fed) := accepts_textEnd (by cases fed <;> simp [feed])
  obtain ⟨d, hd, -⟩ := (hgit _).append ((accepts_tree hbranch _).append ((hlast _).append hend)) c (by simpa using hc)
  exact ⟨d, hd⟩

/-- A match at a place reads an address there. The name is taken without the ending, and then loses the ending once
more. -/
theorem exists_spelled_of_matchAt? {c d : Cursor} (h : addressPattern.matchAt? c = some d) :
    ∃ sep owner name branch slash fed, Spelled c.after sep owner name branch slash fed ∧ d.group 1 = owner ∧
      dropEnding (d.group 2) = dropEnding (dropEnding name) := by
  rw [matchAt?_addressPattern] at h
  obtain ⟨e, he, h⟩ := beforeName.run_spec.1 _ _ _ h
  obtain ⟨sep, owner, hsep, howner, hafter, hgroups⟩ := exists_of_reaches_beforeName he
  obtain ⟨w, r, hw, hne, hp, hd, hshort⟩ := exists_shortest_of_run h
  obtain ⟨stored, branch, slash, fed, hbranch, hr, hd⟩ := exists_of_reaches_behindName (reaches_of_matchAt? hd)
  have hname : IsName w := ⟨hne, hp⟩
  obtain rfl : r = (if stored then ending else []) ++ (tree branch ++ ((if slash then ['/'] else []) ++ feed fed)) := hr
  refine ⟨sep, owner, w ++ (if stored then ending else []), branch, slash, fed,
    ⟨hsep, howner, hname.append_ending stored, hbranch, ?_⟩, ?_, ?_⟩
  · rw [hafter, hw]
    simp [path]
  · cases branch <;> simp [Cursor.group, Cursor.group?, hd, hgroups]
  · have hgroup : d.group 2 = w := by cases branch <;> simp [Cursor.group, Cursor.group?, hd]
    rw [hgroup]
    cases stored with
    | true => exact congrArg dropEnding (dropEnding_append_ending w).symm
    | false =>
      -- had the name the ending and something before it, the run would have stopped before the ending
      by_cases hends : ending <:+ w
      · obtain ⟨u, rfl⟩ := hends
        cases u with
        | nil => decide
        | cons a u =>
          have hnone := matchAt?_eq_none_iff.1 (hshort (a :: u) ending rfl (by simp) (by decide))
          refine absurd ?_ (not_exists.2 hnone)
          exact accepts_behindName hbranch true slash fed rfl
      · rw [if_neg Bool.false_ne_true, List.append_nil, dropEnding_of_not hends, dropEnding_of_not hends]

/-- What is found ends the text, and its name has lost the ending twice. -/
theorem exists_spelled_of_find? {t : List Char} {a : Address} (h : Address.find? t = some a) :
    ∃ front rest sep name branch slash fed, t = front ++ rest ∧ Spelled rest sep a.owner name branch slash fed ∧
      a.name = dropEnding (dropEnding name) := by
  obtain ⟨d, hd, rfl⟩ := Option.map_eq_some_iff.1 h
  obtain ⟨front, rest, rfl, hmatch⟩ := matchAt?_of_searchFrom hd
  obtain ⟨sep, owner, name, branch, slash, fed, hspelled, rfl, hname⟩ := exists_spelled_of_matchAt? hmatch
  exact ⟨front, rest, sep, name, branch, slash, fed, rfl, hspelled, hname⟩

/-! ## What the reader of web addresses reads -/

/-- The name that is read in a path: only at its very end it loses the ending twice, and a line feed behind it becomes
part of it. -/
def webName (name : List Char) : Option (List Char) → Bool → Bool → List Char
  | none, _, false => dropEnding (dropEnding name)
  | none, false, true => name ++ ['\n']
  | _, _, _ => dropEnding name

theorem webStart_isPrefix_of_readWeb {t : List Char} {r : List Char × List Char} (h : readWeb t = .ok r) :
    webStart <+: t := by
  refine List.isPrefixOf_iff_prefix.1 (Classical.by_contradiction fun hnot => ?_)
  have hstarts : Text.startsWith webStart t = false := Bool.eq_false_iff.2 hnot
  rw [readWeb, hstarts] at h
  cases h

theorem readWeb_of_splitOnChar {t owner part : List Char} {parts : List (List Char)} (howner : owner ≠ [])
    (hstart : webStart <+: t)
    (hparts : Text.splitOnChar '/' (dropEnding (Text.stripRightBy (· == '/') (Text.replace webStart [] t))) =
      owner :: part :: parts) :
    readWeb t = if (dropEnding part).isEmpty then .error .emptyName else .ok (owner, dropEnding part) := by
  have hstarts : Text.startsWith webStart t = true := List.isPrefixOf_iff_prefix.2 hstart
  have hempty : owner.isEmpty = false := List.isEmpty_eq_false_iff.2 howner
  rw [readWeb, hstarts]
  simp [hparts, hempty]

section
variable {owner name : List Char} {branch : Option (List Char)}

theorem exists_part_behind (owner name more : List Char) (stored : Bool) (branch : Option (List Char)) :
    ∃ rest, path owner name stored branch false ++ '/' :: more =
      owner ++ '/' :: ((name ++ if stored then ending else []) ++ '/' :: rest) := by
  cases branch with
  | none => exact ⟨more, by simp [path]⟩
  | some b => exact ⟨"tree".toList ++ '/' :: (b ++ '/' :: more), by simp [path]⟩

theorem splitOnChar_part (howner : IsName owner) (hname : IsName name) (stored : Bool) (rest : List Char) :
    Text.splitOnChar '/' (owner ++ '/' :: ((name ++ if stored then ending else []) ++ '/' :: rest)) =
      owner :: (name ++ if stored then ending else []) :: Text.splitOnChar '/' rest := by
  rw [Text.splitOnChar_append (not_mem_of_isNamePart isNamePart_slash howner),
    Text.splitOnChar_append (not_mem_name_ending isNamePart_slash hname stored)]

theorem replace_path_feed (howner : IsName owner) (hname : IsName name) (hbranch : ∀ b ∈ branch, IsName b)
    (slash fed : Bool) :
    Text.replace webStart [] (webStart ++ (path owner name false branch slash ++ feed fed)) =
      path owner name false branch slash ++ feed fed := by
  have hcolon : ':' ∉ path owner name false branch slash ++ feed fed := by
    rw [List.mem_append, not_or]
    exact ⟨not_mem_path (by decide) (by decide) howner hname hbranch false slash, by cases fed <;> decide⟩
  refine Text.replace_nil_append (by decide) fun h => hcolon (h.mem ?_)
  decide

theorem splitOnChar_path_end (howner : IsName owner) (hname : IsName name) (hbranch : ∀ b ∈ branch, IsName b)
    (slash : Bool) :
    ∃ part parts,
      Text.splitOnChar '/' (dropEnding (Text.stripRightBy (· == '/') (path owner name false branch slash))) =
      owner :: part :: parts ∧ dropEnding part = webName name branch slash false := by
  rw [stripRightBy_path hname hbranch]
  cases branch with
  | none =>
    have hpath : path owner name false none false = owner ++ '/' :: name := by simp [path]
    have hpart : '/' ∉ dropEnding name := fun h =>
      not_mem_of_isNamePart isNamePart_slash hname ((dropEnding_isPrefix name).mem h)
    refine ⟨dropEnding name, [], ?_, rfl⟩
    rw [hpath, dropEnding_append_slash, Text.splitOnChar_append (not_mem_of_isNamePart isNamePart_slash howner),
      Text.splitOnChar_of_not_mem hpart]
  | some b =>
    have hpath : path owner name false (some b) false = (owner ++ '/' :: (name ++ '/' :: "tree".toList)) ++
        '/' :: b := by
      simp [path]
    refine ⟨name, Text.splitOnChar '/' ("tree".toList ++ '/' :: dropEnding b), ?_, rfl⟩
    rw [hpath, dropEnding_append_slash]
    simpa using splitOnChar_part howner hname false ("tree".toList ++ '/' :: dropEnding b)

/-- The first parts of a path before a line feed. -/
theorem splitOnChar_path_feed (howner : IsName owner) (hname : IsName name) (branch : Option (List Char))
    (slash : Bool) :
    ∃ part parts, Text.splitOnChar '/' (path owner name false branch slash ++ ['\n']) = owner :: part :: parts ∧
      dropEnding part = webName name branch slash true := by
  cases slash with
  | true =>
    obtain ⟨rest, hrest⟩ := exists_part_behind owner name ['\n'] false branch
    have hpath : path owner name false branch true ++ ['\n'] = path owner name false branch false ++ '/' :: ['\n'] := by
      simp [path]
    refine ⟨name, Text.splitOnChar '/' rest, ?_, by cases branch <;> rfl⟩
    rw [hpath, hrest]
    simpa using splitOnChar_part howner hname false rest
  | false =>
    cases branch with
    | none =>
      have hpath : path owner name false none false ++ ['\n'] = owner ++ '/' :: (name ++ ['\n']) := by simp [path]
      have hpart : '/' ∉ name ++ ['\n'] := by
        simpa using not_mem_of_isNamePart isNamePart_slash hname
      refine ⟨name ++ ['\n'], [], ?_, dropEnding_of_not (not_ending_suffix_feed name)⟩
      rw [hpath, Text.splitOnChar_append (not_mem_of_isNamePart isNamePart_slash howner),
        Text.splitOnChar_of_not_mem hpart]
    | some b =>
      have hpath : path owner name false (some b) false ++ ['\n'] =
          owner ++ '/' :: (name ++ '/' :: ("tree".toList ++ '/' :: (b ++ ['\n']))) := by
        simp [path]
      refine ⟨name, Text.splitOnChar '/' ("tree".toList ++ '/' :: (b ++ ['\n'])), ?_, rfl⟩
      rw [hpath]
      simpa using splitOnChar_part howner hname false ("tree".toList ++ '/' :: (b ++ ['\n']))

theorem readWeb_of_path (howner : IsName owner) (hname : IsName name) (hbranch : ∀ b ∈ branch, IsName b)
    (slash fed : Bool) :
    readWeb (webStart ++ (path owner name false branch slash ++ feed fed)) =
      if (webName name branch slash fed).isEmpty then .error .emptyName else
        .ok (owner, webName name branch slash fed) := by
  obtain ⟨part, parts, hparts, hpart⟩ : ∃ part parts, Text.splitOnChar '/' (dropEnding (Text.stripRightBy (· == '/')
      (path owner name false branch slash ++ feed fed))) = owner :: part :: parts ∧
      dropEnding part = webName name branch slash fed := by
    cases fed with
    | false =>
      rw [feed, if_neg Bool.false_ne_true, List.append_nil]
      exact splitOnChar_path_end howner hname hbranch slash
    | true =>
      -- the line feed keeps slashes and the ending before it
      have hstrip : Text.stripRightBy (· == '/') (path owner name false branch slash ++ ['\n']) =
          path owner name false branch slash ++ ['\n'] := Text.stripRightBy_append_cons (by decide) _ []
      rw [feed, if_pos rfl, hstrip, dropEnding_of_not (not_ending_suffix_feed _)]
      exact splitOnChar_path_feed howner hname branch slash
  rw [← replace_path_feed howner hname hbranch] at hparts
  rw [← hpart, readWeb_of_splitOnChar howner.ne_nil (List.prefix_append _ _) hparts]

theorem webName_eq_iff (hname : IsName name) (branch : Option (List Char)) (slash fed : Bool) :
    webName name branch slash fed = dropEnding (dropEnding name) ↔
      (branch = none ∧ fed = false) ∨ ((branch ≠ none ∨ slash = true) ∧ ¬ ending ++ ending <:+ name) := by
  have hfeed : name ++ ['\n'] ≠ dropEnding (dropEnding name) := by
    intro h
    have hmem : '\n' ∈ name := by
      refine ((dropEnding_isPrefix _).trans (dropEnding_isPrefix name)).mem ?_
      rw [← h]
      simp
    exact not_mem_of_isNamePart (by decide) hname hmem
  have hsame : dropEnding name = dropEnding (dropEnding name) ↔ ¬ ending ++ ending <:+ name :=
    eq_comm.trans dropEnding_twice_eq_iff
  cases branch <;> cases slash <;> cases fed <;> simp [webName, hfeed, hsame]

end

/-- The site that is found starts where every web address has it, or behind that. -/
theorem front_cases {rest front z : List Char} {sep : Char}
    (h : webStart ++ rest = front ++ ("github.com".toList ++ sep :: z)) :
    rest = z ∨ webStart <+: front := by
  rcases List.append_eq_append_iff.1 h with ⟨u, rfl, -⟩ | ⟨u, hu, hrest⟩
  · exact .inr (List.prefix_append _ _)
  · -- what is left of the start is itself a start of the site, or the other way round
    have hsite : u <+: "github.com".toList ∨ "github.com".toList <+: u :=
      List.prefix_or_prefix_of_prefix ⟨rest, hrest.symm⟩ (List.prefix_append _ _)
    have hcases : ∀ u ∈ webStart.tails, u <+: "github.com".toList ∨ "github.com".toList <+: u →
        u = [] ∨ u = "github.com/".toList := by decide
    rcases hcases u ((List.mem_tails _ _).2 ⟨front, hu.symm⟩) hsite with rfl | rfl
    · rw [List.append_nil] at hu
      exact .inr (hu ▸ List.prefix_refl _)
    · have heq : "github.com".toList ++ '/' :: rest = "github.com".toList ++ sep :: z := hrest.symm
      exact .inl (List.cons.inj (List.append_cancel_left heq)).2

/-! ## Opposite ends -/

section
variable {owner name : List Char} {branch : Option (List Char)} {stored slash : Bool}

theorem webSpelling_eq (owner name : List Char) (stored : Bool) (branch : Option (List Char)) (slash : Bool) :
    webSpelling owner name stored branch slash =
      "https".toList ++
        ':' :: ("//".toList ++ ("github.com".toList ++ '/' :: path owner name stored branch slash)) := by
  have hstart : webStart = "https".toList ++ ':' :: ("//".toList ++ ("github.com".toList ++ ['/'])) := by decide
  rw [webSpelling, hstart]
  simp only [List.append_assoc, List.cons_append, List.nil_append]

/-- No address starts before a colon, unless the colon follows its site. -/
theorem Reads.site_of_colon {u v owner name : List Char} {branch : Option (List Char)}
    (h : Reads (u ++ ':' :: v) owner name branch) : u = "github.com".toList := by
  obtain ⟨howner, hname, hbranch, sep, stored, slash, r, -, hr, heq⟩ := h
  have hcolon : ':' ∉ path owner name stored branch slash ++ r := by
    rw [List.mem_append, not_or]
    refine ⟨not_mem_path (by decide) (by decide) howner hname hbranch stored slash, ?_⟩
    rcases hr with rfl | rfl <;> decide
  rcases List.append_eq_append_iff.1 heq with ⟨x, hx, hrest⟩ | ⟨x, hx, hrest⟩
  · cases x with
    | nil => rw [hx, List.append_nil]
    | cons c x =>
      -- the colon would stand in the site
      obtain ⟨rfl, -⟩ := List.cons.inj hrest
      have hmem : ':' ∈ "github.com".toList := by
        rw [hx]
        simp
      exact absurd hmem (by decide)
  · cases x with
    | nil => rw [hx, List.append_nil]
    | cons c x =>
      -- the colon would stand in the path
      refine absurd ?_ hcolon
      rw [(List.cons.inj hrest).2]
      simp

/-- Whatever stands before the last web address of a text, that address is found. -/
theorem find?_append_webSpelling (pre : List Char) (howner : IsName owner) (hname : IsName name)
    (hending : ¬ ending <:+ name) (hbranch : ∀ b ∈ branch, IsName b) :
    Address.find? (pre ++ webSpelling owner name stored branch slash) = some ⟨owner, name, branch.getD mainBranch⟩ := by
  have hweb : pre ++ webSpelling owner name stored branch slash =
      (pre ++ ("https".toList ++ ':' :: "//".toList)) ++
        ("github.com".toList ++ '/' :: path owner name stored branch slash) := by
    rw [webSpelling_eq]
    simp only [List.append_assoc, List.cons_append]
  rw [hweb]
  refine find?_append_of_not_reads (fun u₁ u₂ _ _ _ hu hne hreads => ?_) (.inr rfl) howner hname hending hbranch
  rcases List.append_eq_append_iff.1 hu with ⟨x, -, hx⟩ | ⟨x, -, rfl⟩
  · -- it would start inside of the scheme
    obtain ⟨-, -, -, _, _, _, _, -, -, heq⟩ := hreads
    have hsite : u₂ <+: "github.com".toList ∨ "github.com".toList <+: u₂ :=
      List.prefix_or_prefix_of_prefix (List.prefix_append u₂ _) ⟨_, heq.symm⟩
    have hcases : ∀ u ∈ ("https".toList ++ ':' :: "//".toList).tails,
        u <+: "github.com".toList ∨ "github.com".toList <+: u → u = [] := by decide
    exact hne (hcases u₂ ((List.mem_tails _ _).2 ⟨x, hx.symm⟩) hsite)
  · -- it would start before the scheme, and reach over its colon
    have hscheme : ∀ v, x ++ ("https".toList ++ ':' :: "//".toList) ++ v =
        (x ++ "https".toList) ++ ':' :: ("//".toList ++ v) := by
      intro v
      simp only [List.append_assoc, List.cons_append]
    rw [hscheme] at hreads
    have hsuffix : "https".toList <:+ "github.com".toList := ⟨x, hreads.site_of_colon⟩
    exact absurd hsuffix (by decide)

/-- No further web address starts inside of a path that ends with a slash. -/
theorem replace_path_append (howner : IsName owner) (hname : IsName name) (hbranch : ∀ b ∈ branch, IsName b)
    (post : List Char) :
    Text.replace webStart [] (webStart ++ (path owner name stored branch true ++ post)) =
      path owner name stored branch false ++ '/' :: Text.replace webStart [] post := by
  have hpath : path owner name stored branch true = path owner name stored branch false ++ ['/'] := by simp [path]
  have hcolon : ':' ∉ path owner name stored branch true :=
    not_mem_path (by decide) (by decide) howner hname hbranch stored true
  have hapart : ∀ u₁ u₂, path owner name stored branch true = u₁ ++ u₂ → u₂ ≠ [] → ¬ webStart <+: u₂ ++ post := by
    rintro u₁ u₂ hu hne ⟨z, hz⟩
    have hcolon : ':' ∉ u₂ := fun h => hcolon (hu ▸ List.mem_append_right u₁ h)
    have hlast : u₂.getLast? = some '/' := by
      rw [← List.getLast?_append_of_ne_nil u₁ hne, ← hu, hpath, List.getLast?_concat]
    rcases List.append_eq_append_iff.1 hz with ⟨x, hx, -⟩ | ⟨x, hx, -⟩
    · exact hcolon (hx ▸ List.mem_append_left x (by decide))
    · have hcases : ∀ u ∈ webStart.inits, u.getLast? = some '/' → ':' ∈ u := by decide
      exact hcolon (hcases u₂ ((List.mem_inits _ _).2 ⟨x, hx.symm⟩) hlast)
  rw [Text.replace_nil_append_self (by decide), Text.replace_nil_append_of_apart hapart, hpath, List.append_assoc]
  rfl

/-- The first parts of a path with anything behind it. -/
theorem splitOnChar_path_append (howner : IsName owner) (hname : IsName name) (hending : ¬ ending <:+ name)
    (hbranch : ∀ b ∈ branch, IsName b) (stored : Bool) (z : List Char) :
    ∃ part parts, Text.splitOnChar '/'
      (dropEnding (Text.stripRightBy (· == '/') (path owner name stored branch false ++ '/' :: z))) =
      owner :: part :: parts ∧ dropEnding part = name := by
  by_cases hz : ∀ c ∈ z, (c == '/') = true
  · have hslashes : ∀ c ∈ '/' :: z, (c == '/') = true := List.forall_mem_cons.2 ⟨rfl, hz⟩
    rw [Text.stripRightBy_append_of_all hslashes, stripRightBy_path hname hbranch]
    exact splitOnChar_dropEnding_path howner hname hending stored branch
  · -- what follows the last slash is not empty, so only there the ending is looked for
    simp only [not_forall] at hz
    obtain ⟨c, hmem, hc⟩ := hz
    obtain ⟨z₁, z₂, rfl⟩ := List.append_of_mem hmem
    have hstrip : Text.stripRightBy (· == '/') (path owner name stored branch false ++ '/' :: (z₁ ++ c :: z₂)) =
        path owner name stored branch false ++ '/' :: (z₁ ++ c :: Text.stripRightBy (· == '/') z₂) := by
      have happend := Text.stripRightBy_append_cons (p := (· == '/')) (Bool.eq_false_iff.2 hc)
        (path owner name stored branch false ++ '/' :: z₁) z₂
      simpa only [List.append_assoc, List.cons_append] using happend
    obtain ⟨rest, hrest⟩ :=
      exists_part_behind owner name (dropEnding (z₁ ++ c :: Text.stripRightBy (· == '/') z₂)) stored branch
    refine ⟨name ++ (if stored then ending else []), Text.splitOnChar '/' rest, ?_, dropEnding_name hending stored⟩
    rw [hstrip, dropEnding_append_slash, hrest, splitOnChar_part howner hname]

/-- Whatever follows the first web address of a text, that address is read. -/
theorem readWeb_webSpelling_append (post : List Char) (howner : IsName owner) (hname : IsName name)
    (hending : ¬ ending <:+ name) (hbranch : ∀ b ∈ branch, IsName b) :
    readWeb (webSpelling owner name stored branch true ++ post) = .ok (owner, name) := by
  obtain ⟨part, parts, hparts, hpart⟩ :=
    splitOnChar_path_append howner hname hending hbranch stored (Text.replace webStart [] post)
  rw [← replace_path_append howner hname hbranch] at hparts
  rw [webSpelling, List.append_assoc, readWeb_of_splitOnChar howner.ne_nil (List.prefix_append _ _) hparts, hpart,
    if_neg (by simpa using hname.ne_nil)]

end

/-- Both readers name the same repository, and no name is empty. -/
def Agree (a : Address) (owner name : List Char) : Prop := a.owner = owner ∧ a.name = name ∧ owner ≠ [] ∧ name ≠ []

/-- The address that is found follows a site that stands behind the start of the web address. -/
def NamesSiteAgain (t : List Char) (a : Address) : Prop :=
  ∃ mid rest sep written branch slash fed, t = webStart ++ (mid ++ rest) ∧
    Spelled rest sep a.owner written branch slash fed

/-- The two readers of addresses look at opposite ends of a text: the finder finds the last web address, whatever stands
before it, and the reader reads the first one, whatever follows it. Of a text that both accept, either the site is named
again behind the start, or there is one path; then the readers agree exactly if the name ends the path, or else another
part follows the name and the name does not have the ending twice. -/
theorem readers_agree_iff (t : List Char) :
    (∀ (owner name : List Char) (stored : Bool) (branch : Option (List Char)), IsName owner → IsName name →
      ¬ ending <:+ name →
      (∀ b ∈ branch, IsName b) →
        (∀ slash, webSpelling owner name stored branch slash <:+ t →
          Address.find? t = some ⟨owner, name, branch.getD mainBranch⟩) ∧
        (webSpelling owner name stored branch true <+: t → readWeb t = .ok (owner, name))) ∧
    ∀ (a : Address) (owner name : List Char), Address.find? t = some a → readWeb t = .ok (owner, name) →
      NamesSiteAgain t a ∨
      ∃ written branch slash fed, t = webStart ++ (path a.owner written false branch slash ++ feed fed) ∧
        (Agree a owner name ↔
          (branch = none ∧ fed = false) ∨ ((branch ≠ none ∨ slash = true) ∧ ¬ ending ++ ending <:+ written)) := by
  constructor
  · intro owner name stored branch howner hname hending hbranch
    constructor
    · rintro slash ⟨pre, rfl⟩
      exact find?_append_webSpelling pre howner hname hending hbranch
    · rintro ⟨post, rfl⟩
      exact readWeb_webSpelling_append post howner hname hending hbranch
  intro a owner name hfind hread
  obtain ⟨front, rest, sep, written, branch, slash, fed, rfl, hspelled, hname⟩ := exists_spelled_of_find? hfind
  obtain ⟨tail, htail⟩ := webStart_isPrefix_of_readWeb hread
  rcases front_cases (htail.trans (congrArg (front ++ ·) hspelled.text)) with rfl | ⟨mid, rfl⟩
  · refine .inr ⟨written, branch, slash, fed, htail.symm, ?_⟩
    rw [← htail, readWeb_of_path hspelled.isOwner hspelled.isName hspelled.isBranch] at hread
    split at hread
    · cases hread
    · rename_i hne
      obtain ⟨rfl, rfl⟩ := Prod.mk.inj (Except.ok.inj hread)
      have hwritten : webName written branch slash fed ≠ [] := by simpa using hne
      rw [← webName_eq_iff hspelled.isName, ← hname]
      exact ⟨fun h => h.2.1.symm, fun h => ⟨rfl, h.symm, hspelled.isOwner.ne_nil, hwritten⟩⟩
  · exact .inl ⟨mid, rest, sep, written, branch, slash, fed, List.append_assoc .., hspelled⟩

/-- Two addresses one after the other, of which each reader reads another one, and a name with the ending twice before a
branch, of which the finder leaves nothing. -/
theorem readers_agree_iff_twoAddresses :
    (Address.find? "https://github.com/a/b/https://github.com/c/d".toList =
      some ⟨"c".toList, "d".toList, "main".toList⟩ ∧
      readWeb "https://github.com/a/b/https://github.com/c/d".toList = .ok ("a".toList, "b".toList)) ∧
    Address.find? "https://github.com/a/.git.git/tree/x".toList = some ⟨"a".toList, [], "x".toList⟩ ∧
      readWeb "https://github.com/a/.git.git/tree/x".toList = .ok ("a".toList, ".git".toList) ∧
      (NamesSiteAgain "https://github.com/a/.git.git/tree/x".toList ⟨"a".toList, [], "x".toList⟩ ∨
        ∃ written branch slash fed,
          "https://github.com/a/.git.git/tree/x".toList =
            webStart ++ (path "a".toList written false branch slash ++ feed fed) ∧
          (Agree ⟨"a".toList, [], "x".toList⟩ "a".toList ".git".toList ↔
            (branch = none ∧ fed = false) ∨ ((branch ≠ none ∨ slash = true) ∧ ¬ ending ++ ending <:+ written))) := by
  have hname : ∀ c ∈ ['a', 'b', 'c', 'd'], IsName [c] := fun c hc => ⟨by simp, fun d hd => by
    have hall : ∀ a ∈ ['a', 'b', 'c', 'd'], isNamePart a = true := List.all_eq_true.1 (by decide)
    exact List.mem_singleton.1 hd ▸ hall c hc⟩
  have hfirst :=
    ((readers_agree_iff (webSpelling ['a'] ['b'] false none true ++ webSpelling ['c'] ['d'] false none false)).1
    ['a'] ['b'] false none (hname 'a' (by simp)) (hname 'b' (by simp)) (by decide) (by simp)).2 (List.prefix_append _ _)
  have hlast :=
    ((readers_agree_iff (webSpelling ['a'] ['b'] false none true ++ webSpelling ['c'] ['d'] false none false)).1
    ['c'] ['d'] false none (hname 'c' (by simp)) (hname 'd' (by simp)) (by decide) (by simp)).1 false
    (List.suffix_append _ _)
  have hfind : Address.find? "https://github.com/a/.git.git/tree/x".toList = some ⟨"a".toList, [], "x".toList⟩ := by
    decide +kernel
  have hread : readWeb "https://github.com/a/.git.git/tree/x".toList = .ok ("a".toList, ".git".toList) := by
    decide +kernel
  exact ⟨⟨hlast, hfirst⟩, hfind, hread, (readers_agree_iff _).2 _ _ _ hfind hread⟩

end CodeSurvey.GitHub
