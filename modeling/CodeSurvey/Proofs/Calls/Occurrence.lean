/-
Calls in C source. What is called on a line are the names before a bracket in its code, and as no such name stands
within another one with its bracket, the search finds all of them (`mem_findAll_iff_namedAt`). So the records of a file
belong one by one to the places where a function, on one of its lines, has another name before a bracket
(`fileCalls_once_for_each_place`).
-/
import CodeSurvey.Proofs.Calls.Listed
import CodeSurvey.Proofs.Pattern.Reach
import CodeSurvey.Proofs.Text.Piece
import Mathlib.Data.List.Forall2
import Mathlib.Data.List.Nodup

namespace CodeSurvey.C

open Pattern Text

variable {ι : Type}

/-! ## Names before a bracket -/

/-- A letter or an underscore, with letters, digits and underscores behind it. -/
def IsName (w : List Char) : Prop := ∃ c cs, w = c :: cs ∧ isNameStart c = true ∧ ∀ d ∈ cs, isNameChar d = true

/-- A name begins at the place `i`, at the border of a word, and a bracket follows it, with nothing but white space
between. -/
structure NamedAt (code : List Char) (i : Nat) (w : List Char) : Prop where
  name : IsName w
  bracket : ∃ gap rest, code.drop i = w ++ (gap ++ '(' :: rest) ∧ ∀ c ∈ gap, isBlank c = true
  edge : ∀ c ∈ (code.take i).getLast?, isWord c = false

theorem IsName.isNameChar {w : List Char} (h : IsName w) : ∀ c ∈ w, isNameChar c = true := by
  obtain ⟨c, cs, rfl, hc, hcs⟩ := h
  exact List.forall_mem_cons.2 ⟨by simp [Text.isNameChar, hc], hcs⟩

theorem isWord_of_isNameChar {c : Char} (h : isNameChar c = true) : isWord c = true ∧ isBlank c = false := by
  have hval : c.val.toNat = c.toNat := rfl
  have hcodes : isNameChar c =
      (c == '_' || (decide (65 ≤ c.val ∧ c.val ≤ 90) || (decide (97 ≤ c.val) && decide (c.val ≤ 122))) ||
      (decide (48 ≤ c.val) && decide (c.val ≤ 57))) := rfl
  have hascii : c.toNat < 128 := by
    rw [hcodes] at h
    simp only [Bool.or_eq_true, Bool.and_eq_true, decide_eq_true_eq, beq_iff_eq, UInt32.le_iff_toNat_le, hval,
      UInt32.reduceToNat] at h
    rcases h with (rfl | h | h) | h
    · decide
    all_goals omega
  have hall : ∀ n : Fin 128, isNameChar (Char.ofNat n) = true → isWord (Char.ofNat n) = true ∧
      isBlank (Char.ofNat n) = false := by
    decide +kernel
  have hc := hall ⟨c.toNat, hascii⟩
  rw [Char.ofNat_toNat] at hc
  exact hc h

theorem isNameChar_of_mem_gap {gap : List Char} (hgap : ∀ c ∈ gap, isBlank c = true) {c : Char}
    (hc : c ∈ gap ++ ['(']) :
    isNameChar c = false := by
  rw [Bool.eq_false_iff]
  intro hname
  rcases List.mem_append.1 hc with hc | hc
  · have hblank := hgap c hc
    rw [(isWord_of_isNameChar hname).2] at hblank
    cases hblank
  · rw [List.mem_singleton.1 hc] at hname
    cases hname

theorem reaches_callPattern_iff {c d : Cursor} : callPattern.Reaches c d ↔ c.atWordEdge = true ∧
    ∃ w gap rest, c.after = w ++ (gap ++ '(' :: rest) ∧ IsName w ∧ (∀ a ∈ gap, isBlank a = true) ∧
      d = ⟨'(' :: (gap.reverse ++ (w.reverse ++ c.before)), rest, c.index + w.length + gap.length + 1,
        (1, w) :: c.groups⟩ := by
  have hname := spells_one_star isNameStart isNameChar
  constructor
  · rintro ⟨e, ⟨f, ⟨g, ⟨hedge, rfl⟩, hgroup⟩, hblanks⟩, hbracket⟩
    obtain ⟨w, r, hw, hIs, rfl⟩ := hname.reaches_group_iff.1 hgroup
    obtain ⟨gap, r', hgap, hblank, rfl⟩ := (spells_star isBlank _ _).1 hblanks
    obtain ⟨_, rest, hrest, rfl, rfl⟩ := (spells_lit "(" _ _).1 hbracket
    obtain rfl : r = gap ++ r' := hgap
    obtain rfl : r' = '(' :: rest := hrest
    exact ⟨hedge, w, gap, rest, hw, hIs, hblank, rfl⟩
  · rintro ⟨hedge, w, gap, rest, hw, hIs, hblank, rfl⟩
    exact ⟨_, ⟨_, ⟨c, ⟨hedge, rfl⟩, hname.reaches_group_iff.2 ⟨w, _, hw, hIs, rfl⟩⟩,
      (spells_star isBlank _ _).2 ⟨gap, _, rfl, hblank, rfl⟩⟩, (spells_lit "(" _ _).2 ⟨['('], rest, rfl, rfl, rfl⟩⟩

variable {code : List Char} {i : Nat} {w : List Char}

/-- A match at a place is a name that stands there, which is captured. -/
theorem namedAt_of_matchAt? {d : Cursor} (h : callPattern.matchAt? (.inText code i) = some d) :
    ∃ w gap rest, NamedAt code i w ∧ code.drop i = w ++ (gap ++ '(' :: rest) ∧ (∀ c ∈ gap, isBlank c = true) ∧
      d.index = i + w.length + gap.length + 1 ∧ d.groups = [(1, w)] := by
  obtain ⟨hedge, w, gap, rest, hw, hname, hgap, rfl⟩ := reaches_callPattern_iff.1 (reaches_of_matchAt? h)
  refine ⟨w, gap, rest, ⟨hname, ⟨gap, rest, hw, hgap⟩, ?_⟩, hw, hgap, rfl, rfl⟩
  obtain ⟨c, cs, rfl, -⟩ := id hname
  have hword := (isWord_of_isNameChar (hname.isNameChar c List.mem_cons_self)).1
  simpa [Cursor.inText] using (Cursor.atWordEdge_iff hw hword).1 hedge

theorem NamedAt.eq_takeWhile (h : NamedAt code i w) : w = (code.drop i).takeWhile isNameChar := by
  obtain ⟨gap, rest, hdrop, hgap⟩ := h.bracket
  have hnone : (gap ++ '(' :: rest).takeWhile isNameChar = [] := by
    cases gap with
    | nil => rfl
    | cons c gap => exact List.takeWhile_cons_of_neg (by simp [isNameChar_of_mem_gap hgap (c := c) (by simp)])
  rw [hdrop, List.takeWhile_append_of_pos h.name.isNameChar, hnone, List.append_nil]

theorem NamedAt.exists_matchAt? (h : NamedAt code i w) :
    ∃ d, callPattern.matchAt? (.inText code i) = some d ∧ i < d.index ∧ d.groups = [(1, w)] := by
  obtain ⟨gap, rest, hdrop, hgap⟩ := h.bracket
  have hsome : (callPattern.matchAt? (.inText code i)).isSome = true := by
    refine isSome_matchAt?_iff.2 ⟨_, reaches_callPattern_iff.2 ⟨?_, w, gap, rest, hdrop, h.name, hgap, rfl⟩⟩
    obtain ⟨c, cs, rfl, -⟩ := id h.name
    have hword := (isWord_of_isNameChar (h.name.isNameChar c List.mem_cons_self)).1
    refine (Cursor.atWordEdge_iff hdrop hword).2 ?_
    simpa [Cursor.inText] using h.edge
  obtain ⟨d, hd⟩ := Option.isSome_iff_exists.1 hsome
  obtain ⟨w', gap', rest', h', -, -, hindex, hgroups⟩ := namedAt_of_matchAt? hd
  obtain rfl : w = w' := h.eq_takeWhile.trans h'.eq_takeWhile.symm
  exact ⟨d, hd, by omega, hgroups⟩

/-- No name with its bracket begins within another one: within the name there is no border of a word, and behind it no
name begins. -/
theorem noOverlap_callPattern (code : List Char) : callPattern.NoOverlap code := by
  intro i d hd j hij hjd
  rw [Option.eq_none_iff_forall_ne_some]
  intro e he
  obtain ⟨w, gap, rest, h, hdrop, hgap, hindex, -⟩ := namedAt_of_matchAt? hd
  obtain ⟨w', _, _, h', hdrop', -⟩ := namedAt_of_matchAt? he
  obtain ⟨c, cs, rfl, hc, -⟩ := h'.name
  have hat : ∀ k, code[i + k]? = (w ++ (gap ++ '(' :: rest))[k]? := fun k => by rw [← hdrop, List.getElem?_drop]
  have hfirst : code[j]? = some c := by
    have hhead : (code.drop j)[0]? = code[j + 0]? := List.getElem?_drop
    rw [hdrop'] at hhead
    exact hhead.symm
  obtain ⟨k, rfl⟩ := Nat.exists_eq_add_of_lt hij
  rw [Nat.add_assoc, hat] at hfirst
  by_cases hk : k + 1 < w.length
  · -- the character before is one of the name, too
    have hbefore : code[i + k]? = some w[k] := by
      rw [hat, List.getElem?_append_left (by omega), List.getElem?_eq_getElem]
    have hlast : w[k] ∈ (code.take (i + k + 1)).getLast? := by
      rw [List.getLast?_take, if_neg (by omega), Nat.add_sub_cancel, hbefore]
      rfl
    have hword := (isWord_of_isNameChar (h.name.isNameChar _ (List.getElem_mem (show k < w.length by omega)))).1
    rw [h'.edge _ hlast] at hword
    cases hword
  · have hmem : c ∈ gap ++ ['('] := by
      rw [List.getElem?_append_right (by omega), ← List.singleton_append, ← List.append_assoc,
        List.getElem?_append_left (by simp; omega)] at hfirst
      exact List.mem_of_getElem? hfirst
    have hnot := isNameChar_of_mem_gap hgap hmem
    rw [Text.isNameChar, hc] at hnot
    cases hnot

theorem mem_findAll_iff_namedAt : (∃ m ∈ callPattern.findAll code, m.index = i ∧ m.group 1 = w) ↔ NamedAt code i w := by
  constructor
  · rintro ⟨m, hm, rfl, rfl⟩
    obtain ⟨i, -, hm⟩ := (mem_findAll_iff (noOverlap_callPattern code)).1 hm
    obtain ⟨d, hd, -, rfl⟩ := foundAt?_eq_some_iff.1 hm
    obtain ⟨w, _, _, h, -, -, -, hgroups⟩ := namedAt_of_matchAt? hd
    simpa [Found.group, Found.group?, hgroups] using h
  · intro h
    obtain ⟨d, hd, hindex, hgroups⟩ := h.exists_matchAt?
    obtain ⟨_, _, hdrop, -⟩ := h.bracket
    have hlt : i < code.length := by
      by_contra hge
      rw [List.drop_eq_nil_of_le (by omega)] at hdrop
      simp at hdrop
    refine ⟨_, (mem_findAll_iff (noOverlap_callPattern code)).2 ⟨i, hlt, foundAt?_eq_some_iff.2 ⟨d, hd, hindex, rfl⟩⟩,
      rfl, ?_⟩
    simp [Found.group, Found.group?, hgroups]

/-! ## Calls on lines -/

/-- The names that a function calls on a line, with their places. -/
def calleesOn (caller : String) (line : List Char) : List (Nat × String) :=
  let code := upToFirst ['/', '/'] line
  (if contains ['*', '/'] code then [] else (callPattern.findAll code).map fun m => (m.index,
    String.ofList (m.group 1))).filter
    fun x => !keywords.contains x.2 && x.2 != caller

theorem lineCalls_eq (known : List (KnownSymbol ι)) (file : Option String) (y : KnownSymbol ι) (n : Int)
    (line : List Char) :
    lineCalls known file y n line = (calleesOn y.name line).map fun x => .ofName known file y.name y.id x.2 n := by
  unfold lineCalls lineCallees calleesOn
  dsimp only
  split
  · rfl
  · simp only [List.filter_map, List.map_map]
    rfl

/-- A line of code calls a name at the place `i`, in a function of another name. -/
structure CalledOn (line : List Char) (i : Nat) (caller callee : String) : Prop where
  code : ¬ ['*', '/'] <:+: upToFirst ['/', '/'] line
  named : NamedAt (upToFirst ['/', '/'] line) i callee.toList
  called : callee ∉ keywords
  another : callee ≠ caller

theorem mem_calleesOn_iff {caller callee : String} {line : List Char} {i : Nat} :
    (i, callee) ∈ calleesOn caller line ↔ CalledOn line i caller callee := by
  have hname : (∃ m ∈ callPattern.findAll (upToFirst ['/', '/'] line), m.index = i ∧
      String.ofList (m.group 1) = callee) ↔
      NamedAt (upToFirst ['/', '/'] line) i callee.toList := by
    have hspelled : ∀ u : List Char, String.ofList u = callee ↔ u = callee.toList := by
      refine fun u => ⟨?_, ?_⟩
      · rintro rfl
        exact String.toList_ofList.symm
      · rintro rfl
        exact String.ofList_toList
    simp only [← mem_findAll_iff_namedAt, hspelled]
  unfold calleesOn
  dsimp only
  rw [List.mem_filter]
  split
  · rename_i hends
    refine ⟨fun h => absurd h.1 List.not_mem_nil, fun h => absurd (contains_iff_isInfix.1 hends) h.code⟩
  · rename_i hends
    rw [contains_iff_isInfix] at hends
    simp only [List.mem_map, Prod.mk.injEq, hname, Bool.and_eq_true, Bool.not_eq_true', bne_iff_ne,
      List.contains_eq_mem, decide_eq_false_iff_not]
    exact ⟨fun h => ⟨hends, h.1, h.2.1, h.2.2⟩, fun h => ⟨h.named, h.called, h.another⟩⟩

theorem nodup_calleesOn (caller : String) (line : List Char) : ((calleesOn caller line).map Prod.fst).Nodup := by
  unfold calleesOn
  dsimp only
  refine List.Nodup.sublist (List.filter_sublist.map Prod.fst) ?_
  split
  · simp
  · rw [List.map_map]
    exact nodup_index_findAll (noOverlap_callPattern _)

/-! ## Calls of functions -/

/-- The lines of a function are counted from the first one on. -/
structure HasRange (y : KnownSymbol ι) : Prop where
  start : 1 ≤ y.lineStart
  last : ∀ last ∈ y.lineEnd, 0 ≤ last

theorem mem_functionLines_iff {y : KnownSymbol ι} (h : HasRange y) {ls : List (List Char)}
    {line : List Char} {j : Nat} :
    (line, j) ∈ functionLines ls y ↔
      ls[y.lineStart.toNat + j - 1]? = some line ∧ y.lineStart + j ≤ y.lineEnd.getD ls.length := by
  have hstart := h.start
  have hlast : 0 ≤ y.lineEnd.getD ls.length := by
    cases hend : y.lineEnd with
    | none => exact Int.natCast_nonneg _
    | some last => exact h.last last hend
  have hindex : (y.lineStart - 1).toNat + j = y.lineStart.toNat + j - 1 := by omega
  have hiff : y.lineStart - 1 + j < y.lineEnd.getD ls.length ↔ y.lineStart + j ≤ y.lineEnd.getD ls.length := by omega
  rw [functionLines, List.mk_mem_zipIdx_iff_getElem?, getElem?_slice (by omega) hlast, hindex,
    Option.ite_none_right_eq_some, hiff, and_comm]

/-- The function with the number `k` among some symbols calls a name at the place `i` of the line `n`, which is one of
its own. -/
structure CallsAt (symbols : List (KnownSymbol ι)) (t : List Char) (k n i : Nat) (caller callee : String) : Prop where
  function : ∃ y, symbols[k]? = some y ∧ y.isFunction = true ∧ y.name = caller ∧ y.lineStart ≤ n ∧
    (n : Int) ≤ min (y.lineEnd.getD (lines t).length) (lines t).length
  called : ∃ line, (lines t)[n - 1]? = some line ∧ CalledOn line i caller callee

/-- The record tells of the call that a function makes at a place. -/
def IsRecordAt (symbols : List (KnownSymbol ι)) (t : List Char) (x : Nat × Nat × Nat) (r : CallRecord ι) : Prop :=
  ∃ caller, r.caller = some caller ∧ r.line = x.2.1 ∧ CallsAt symbols t x.1 x.2.1 x.2.2 caller r.callee

/-- The places at which a function calls something: the line and the place on the line. -/
def placesIn (ls : List (List Char)) (y : KnownSymbol ι) : List (Nat × Nat) :=
  (functionLines ls y).flatMap fun l => (calleesOn y.name l.1).map fun x => (y.lineStart.toNat + l.2, x.1)

/-- The places at which the functions among some symbols call something, with the numbers of the symbols. -/
def places (symbols : List (KnownSymbol ι)) (t : List Char) : List (Nat × Nat × Nat) :=
  (symbols.zipIdx.filter (·.1.isFunction)).flatMap fun y => (placesIn (lines t) y.1).map fun x => (y.2, x)

theorem nodup_flatMap_pair {α β κ : Type} {key : α → κ} {f : α → List β} {l : List α} (hl : (l.map key).Nodup)
    (hf : ∀ a ∈ l, (f a).Nodup) : (l.flatMap fun a => (f a).map fun b => (key a, b)).Nodup := by
  refine List.nodup_flatMap.2 ⟨fun a ha => (hf a ha).map fun b b' h => congrArg Prod.snd h, ?_⟩
  refine (List.pairwise_map.1 hl).imp fun {a a'} hne x hx hx' => hne ?_
  obtain ⟨b, -, rfl⟩ := List.mem_map.1 hx
  obtain ⟨b', -, hsame⟩ := List.mem_map.1 hx'
  exact (congrArg Prod.fst hsame).symm

theorem nodup_numbers {α : Type} (l : List α) : (l.zipIdx.map Prod.snd).Nodup := by
  rw [List.zipIdx_map_snd]
  exact List.nodup_range' 1

theorem forall₂_flatMap {α β γ : Type} {R : α → β → Prop} {f : γ → List α} {g : γ → List β} {l : List γ}
    (h : ∀ c ∈ l, List.Forall₂ R (f c) (g c)) : List.Forall₂ R (l.flatMap f) (l.flatMap g) := by
  induction l with
  | nil => exact .nil
  | cons c l ih =>
    rw [List.forall_mem_cons] at h
    exact List.rel_append h.1 (ih h.2)

theorem nodup_places (symbols : List (KnownSymbol ι)) (t : List Char) : (places symbols t).Nodup := by
  refine nodup_flatMap_pair ?_ fun y _ => ?_
  · exact (nodup_numbers symbols).sublist (List.filter_sublist.map Prod.snd)
  · have hlines : ((functionLines (lines t) y.1).map fun l => y.1.lineStart.toNat + l.2).Nodup := by
      have hnumbers : ((functionLines (lines t) y.1).map Prod.snd).Nodup := nodup_numbers _
      have hmap := hnumbers.map (f := fun j => y.1.lineStart.toNat + j) fun i j hij => by simpa using hij
      rwa [List.map_map] at hmap
    have hpairs := nodup_flatMap_pair hlines fun l _ => nodup_calleesOn y.1.name l.1
    simpa [placesIn, Function.comp_def] using hpairs

section Ranges

variable {symbols : List (KnownSymbol ι)} {t : List Char} (h : ∀ y ∈ symbols, y.isFunction = true → HasRange y)

include h

theorem callsAt_of_mem {y : KnownSymbol ι} {k j i : Nat} {line : List Char} {callee : String}
    (hy : symbols[k]? = some y) (hfunction : y.isFunction = true) (hline : (line, j) ∈ functionLines (lines t) y)
    (hcallee : (i, callee) ∈ calleesOn y.name line) :
    CallsAt symbols t k (y.lineStart.toNat + j) i y.name callee := by
  have hrange := h y (List.mem_of_getElem? hy) hfunction
  have hstart := hrange.start
  obtain ⟨hget, hlast⟩ := (mem_functionLines_iff hrange).1 hline
  have hlt := (List.getElem?_eq_some_iff.1 hget).1
  exact ⟨⟨y, hy, hfunction, rfl, by omega, by omega⟩, line, hget, mem_calleesOn_iff.1 hcallee⟩

theorem mem_places_iff {k n i : Nat} :
    (k, n, i) ∈ places symbols t ↔ ∃ caller callee, CallsAt symbols t k n i caller callee := by
  simp only [places, placesIn, List.mem_flatMap, List.mem_map, List.mem_filter, Prod.exists, Prod.mk.injEq]
  constructor
  · rintro ⟨y, k, ⟨hy, hfunction⟩, n, i, ⟨line, j, hline, i, callee, hcallee, rfl, rfl⟩, rfl, rfl, rfl⟩
    exact ⟨y.name, callee, callsAt_of_mem h (List.mk_mem_zipIdx_iff_getElem?.1 hy) hfunction hline hcallee⟩
  · rintro ⟨caller, callee, ⟨y, hy, hfunction, rfl, hstart, hlast⟩, line, hline, hcalled⟩
    have hrange := h y (List.mem_of_getElem? hy) hfunction
    have hpos := hrange.start
    -- the line is counted from the first one of the function
    obtain ⟨j, rfl⟩ : ∃ j, n = y.lineStart.toNat + j := ⟨n - y.lineStart.toNat, by omega⟩
    refine ⟨y, k, ⟨List.mk_mem_zipIdx_iff_getElem?.2 hy, hfunction⟩, _, i, ⟨line, j, ?_, i, callee, ?_, rfl, rfl⟩,
      rfl, rfl, rfl⟩
    · exact (mem_functionLines_iff hrange).2 ⟨hline, by omega⟩
    · exact mem_calleesOn_iff.2 hcalled

theorem forall₂_places (file : Option String) :
    List.Forall₂ (IsRecordAt symbols t) (places symbols t) (calls symbols file t) := by
  have hknown : KnownSymbol.functions symbols = (symbols.zipIdx.filter (·.1.isFunction)).map Prod.fst := by
    have hfst := List.filter_map (f := Prod.fst) (p := fun y : KnownSymbol ι => y.isFunction) (l := symbols.zipIdx)
    rwa [List.zipIdx_map_fst] at hfst
  have hcalls : calls symbols file t = (symbols.zipIdx.filter (·.1.isFunction)).flatMap fun y =>
      functionCalls (KnownSymbol.functions symbols) file (lines t) y.1 := by
    rw [calls]
    conv_lhs => arg 2; rw [hknown]
    rw [List.flatMap_map]
  rw [hcalls, places]
  apply forall₂_flatMap
  rintro ⟨y, k⟩ hy
  obtain ⟨hy, hfunction⟩ := List.mem_filter.1 hy
  have hget := List.mk_mem_zipIdx_iff_getElem?.1 hy
  rw [List.forall₂_map_left_iff, placesIn, functionCalls]
  apply forall₂_flatMap
  rintro ⟨line, j⟩ hline
  dsimp only
  rw [lineCalls_eq, List.forall₂_map_left_iff, List.forall₂_map_right_iff, List.forall₂_same]
  rintro ⟨i, callee⟩ hcallee
  have hstart := (h y (List.mem_of_getElem? hget) hfunction).start
  refine ⟨y.name, CallRecord.ofName_caller .., ?_, ?_⟩
  · rw [CallRecord.ofName_line]
    dsimp only
    omega
  · rw [CallRecord.ofName_callee]
    exact callsAt_of_mem h hget hfunction hline hcallee

end Ranges

/-- The calls of C source are found if nothing is missing and the lines of the functions are counted from the first one
on. Their records belong one by one to the places where a function, on one of its lines that is in the text, has a name
before a bracket at the border of a word, outside of a line comment and not on a line where a block comment ends, other
than the keywords and its own name. Each such place has one record for every function that has it on its lines, and the
record tells both names and the line. -/
theorem fileCalls_once_for_each_place (path : Option String) (t : List Char) (entries : List (SymbolEntry ι))
    (hcomplete : ∀ e ∈ entries, e.IsComplete) (hrange : ∀ e ∈ entries, e.isFunction = true → HasRange e.known) :
    ∃ records places, fileCalls .c path (some t) (some entries) = .ok records ∧ places.Nodup ∧
      (∀ k n i, (k, n, i) ∈ places ↔ ∃ caller callee, CallsAt (entries.map SymbolEntry.known) t k n i caller callee) ∧
      List.Forall₂ (IsRecordAt (entries.map SymbolEntry.known) t) places records := by
  have hcalls : fileCalls .c path (some t) (some entries) = .ok (calls (entries.map SymbolEntry.known) path t) :=
    fileCalls_eq_ok (fun e he => (hcomplete e he).toIsNamed) (fun _ e he _ => (hcomplete e he).lines) fun hlang => by
      cases hlang
  have hknown : ∀ y ∈ entries.map SymbolEntry.known, y.isFunction = true → HasRange y := by
    intro y hy hfunction
    obtain ⟨e, he, rfl⟩ := List.mem_map.1 hy
    exact hrange e he hfunction
  exact ⟨_, _, hcalls, nodup_places _ t, fun k n i => mem_places_iff hknown, forall₂_places hknown path⟩

/-- A function whose lines go on beyond the text, and another one on its second line. -/
def overlong : List (SymbolEntry Nat) :=
  [⟨some (some "f"), some "function", none, .line 1, .line 9⟩,
    ⟨some (some "g"), some "function", none, .line 2, .line 2⟩]

def overlongText : List Char := "int f()\nif (g(h (1))) // k()\n*/ k()".toList

/-- The call of `h` is recorded for both functions; that of `g` in `g`, a keyword and what stands in comments are not.
-/
theorem fileCalls_once_for_each_place_overlong :
    ∃ records places, fileCalls .c none (some overlongText) (some overlong) = .ok records ∧
      records.map (fun r => (r.caller, r.callee, r.line)) =
        [(some "f", "g", 2), (some "f", "h", 2), (some "g", "h", 2)] ∧
      places.Nodup ∧ places.length = 3 ∧
      List.Forall₂ (IsRecordAt (overlong.map SymbolEntry.known) overlongText) places records := by
  have hcomplete : ∀ e ∈ overlong, e.IsComplete := by
    simp only [overlong, List.forall_mem_cons, List.not_mem_nil, false_implies, implies_true, and_true]
    exact ⟨⟨⟨⟨"f", rfl⟩, rfl⟩, rfl⟩, ⟨⟨⟨"g", rfl⟩, rfl⟩, rfl⟩⟩
  have hrange : ∀ e ∈ overlong, e.isFunction = true → HasRange e.known := by
    simp only [overlong, List.forall_mem_cons, List.not_mem_nil, false_implies, implies_true, and_true]
    exact ⟨fun _ => ⟨by decide, by decide⟩, fun _ => ⟨by decide, by decide⟩⟩
  obtain ⟨records, places, hrecords, hnodup, -, hall⟩ :=
    fileCalls_once_for_each_place none overlongText overlong hcomplete hrange
  have hthree : (fileCalls .c none (some overlongText) (some overlong)).toOption.map
      (·.map fun r => (r.caller, r.callee, r.line)) =
        some [(some "f", "g", 2), (some "f", "h", 2), (some "g", "h", 2)] := by
    decide +kernel
  rw [hrecords] at hthree
  have hmap := Option.some.inj hthree
  have hlength := congrArg List.length hmap
  rw [List.length_map, ← hall.length_eq] at hlength
  exact ⟨records, places, hrecords, hmap, hnodup, hlength, hall⟩

end CodeSurvey.C
