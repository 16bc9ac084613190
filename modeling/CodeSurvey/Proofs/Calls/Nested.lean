/-
Calls in nested functions. As equal nodes may stand at several places of a syntax tree, its nodes are told apart by
their addresses, and a walk through the tree comes to each address once (`mem_located_iff`, `nodup_located`). So a call
is recorded once for every function that it stands in, however deep, and nothing else is recorded
(`calls_once_for_each_function`).
-/
import CodeSurvey.Proofs.Calls.Inside
import CodeSurvey.Proofs.Python.Statement
import Mathlib.Data.List.Forall2
import Mathlib.Data.List.Infix
import Mathlib.Data.List.Nodup
import Mathlib.Data.List.Perm.Lattice

namespace CodeSurvey.Python

variable {ι : Type}

namespace Node

/-! ## Addresses -/

/-- The node at an address: the numbers of the parts to go on to, one after the other. -/
def at? (n : Node) : List Nat → Option Node
  | [] => some n
  | i :: p => n.children[i]?.bind fun m => m.at? p

theorem at?_append (n : Node) (p q : List Nat) : n.at? (p ++ q) = (n.at? p).bind (·.at? q) := by
  induction p generalizing n with
  | nil => rfl
  | cons i p ih =>
    rw [List.cons_append, at?, at?]
    cases n.children[i]? with
    | none => rfl
    | some m => exact ih m

/-- The parts of a node at an address, with their own addresses. -/
def parts (x : List Nat × Node) : List (List Nat × Node) := x.2.children.zipIdx.map fun m => (x.1 ++ [m.2], m.1)

/-- The levels of trees at some addresses, with the addresses of all nodes. -/
def locatedLevels : (fuel : Nat) → List (List Nat × Node) → List (List Nat × Node)
  | 0, _ => []
  | fuel + 1, xs => if xs.isEmpty then [] else xs ++ locatedLevels fuel (xs.flatMap parts)

/-- All nodes of a tree with their addresses, level by level. -/
def located (n : Node) : List (List Nat × Node) := locatedLevels n.depth [([], n)]

theorem mem_parts_iff {x y : List Nat × Node} : y ∈ parts x ↔ ∃ i, y.1 = x.1 ++ [i] ∧ x.2.children[i]? = some y.2 := by
  simp only [parts, List.mem_map, Prod.exists, List.mk_mem_zipIdx_iff_getElem?]
  constructor
  · rintro ⟨m, i, hm, rfl⟩
    exact ⟨i, rfl, hm⟩
  · rintro ⟨i, hp, hm⟩
    exact ⟨y.2, i, hm, Prod.ext hp.symm rfl⟩

theorem map_snd_parts (x : List Nat × Node) : (parts x).map Prod.snd = x.2.children := by
  simp [parts, Function.comp_def]

theorem map_snd_locatedLevels (fuel : Nat) (xs : List (List Nat × Node)) :
    (locatedLevels fuel xs).map Prod.snd = levels fuel (xs.map Prod.snd) := by
  induction fuel generalizing xs with
  | zero => rfl
  | succ fuel ih =>
    unfold locatedLevels levels
    rw [List.isEmpty_map]
    split
    · rfl
    · rw [List.map_append, ih, List.map_flatMap, List.flatMap_map]
      simp only [map_snd_parts]

theorem map_snd_located (n : Node) : n.located.map Prod.snd = n.walk := map_snd_locatedLevels n.depth [([], n)]

/-- With enough levels, the nodes are those below the given ones. The induction is on the levels that are left. -/
theorem mem_locatedLevels_iff {fuel : Nat} {xs : List (List Nat × Node)} (h : ∀ x ∈ xs, x.2.depth ≤ fuel)
    {y : List Nat × Node} :
    y ∈ locatedLevels fuel xs ↔ ∃ x ∈ xs, ∃ q, y.1 = x.1 ++ q ∧ x.2.at? q = some y.2 := by
  induction fuel generalizing xs with
  | zero =>
    have hempty : xs = [] := List.eq_nil_iff_forall_not_mem.2 fun x hx => by
      have hdepth := depths_children_lt x.2
      have hzero := h x hx
      omega
    simp [locatedLevels, hempty]
  | succ fuel ih =>
    have hbelow : ∀ m ∈ xs.flatMap parts, m.2.depth ≤ fuel := by
      intro m hm
      obtain ⟨x, hx, hm⟩ := List.mem_flatMap.1 hm
      obtain ⟨i, -, hi⟩ := mem_parts_iff.1 hm
      have hchildren := Nat.lt_of_lt_of_le (depths_children_lt x.2) (h x hx)
      exact depths_le_iff.1 (Nat.le_of_lt_succ hchildren) m.2 (List.mem_of_getElem? hi)
    have hlevels : y ∈ locatedLevels (fuel + 1) xs ↔ y ∈ xs ∨ y ∈ locatedLevels fuel (xs.flatMap parts) := by
      rw [locatedLevels]
      split
      · next hempty => cases fuel <;> simp [List.isEmpty_iff.1 hempty, locatedLevels]
      · exact List.mem_append
    rw [hlevels, ih hbelow]
    constructor
    · rintro (hy | ⟨m, hm, q, hp, hq⟩)
      · exact ⟨y, hy, [], by simp, rfl⟩
      · obtain ⟨x, hx, hm⟩ := List.mem_flatMap.1 hm
        obtain ⟨i, hi, hchild⟩ := mem_parts_iff.1 hm
        exact ⟨x, hx, i :: q, by simp [hp, hi], by simp [at?, hchild, hq]⟩
    · rintro ⟨x, hx, _ | ⟨i, q⟩, hp, hq⟩
      · have hsame : y = x := Prod.ext (by simpa using hp) (Option.some.inj hq).symm
        exact .inl (hsame ▸ hx)
      · obtain ⟨m, hm, hq⟩ := Option.bind_eq_some_iff.1 hq
        refine .inr ⟨(x.1 ++ [i], m), List.mem_flatMap.2 ⟨x, hx, mem_parts_iff.2 ⟨i, rfl, hm⟩⟩, q, ?_, hq⟩
        simpa using hp

theorem mem_located_iff {n m : Node} {p : List Nat} : (p, m) ∈ n.located ↔ n.at? p = some m := by
  rw [located, mem_locatedLevels_iff (by simp)]
  simp

/-- From nodes of one level at different addresses on, no address comes twice. -/
theorem nodup_locatedLevels {fuel k : Nat} {xs : List (List Nat × Node)} (hlevel : ∀ x ∈ xs, x.1.length = k)
    (h : (xs.map Prod.fst).Nodup) :
    ((locatedLevels fuel xs).map Prod.fst).Nodup ∧ ∀ y ∈ locatedLevels fuel xs, k ≤ y.1.length := by
  induction fuel generalizing k xs with
  | zero => simp [locatedLevels]
  | succ fuel ih =>
    have hbelow : ∀ y ∈ xs.flatMap parts, y.1.length = k + 1 := by
      intro y hy
      obtain ⟨x, hx, hy⟩ := List.mem_flatMap.1 hy
      obtain ⟨i, hi, -⟩ := mem_parts_iff.1 hy
      simp [hi, hlevel x hx]
    have hparts : ((xs.flatMap parts).map Prod.fst).Nodup := by
      rw [List.map_flatMap, List.nodup_flatMap]
      constructor
      · intro x hx
        have hinj : Function.Injective fun i : Nat => x.1 ++ [i] := fun i j hij => by simpa using hij
        have hnumbers : (parts x).map Prod.fst = (x.2.children.zipIdx.map Prod.snd).map fun i => x.1 ++ [i] := by
          rw [parts, List.map_map, List.map_map]
          rfl
        rw [hnumbers, List.zipIdx_map_snd]
        exact (List.nodup_range' 1).map hinj
      · -- an address below two nodes of the level would make their addresses equal
        refine (List.pairwise_map.1 h).imp_of_mem fun {x y} hx hy hne => ?_
        intro p hp hq
        obtain ⟨u, hu, rfl⟩ := List.mem_map.1 hp
        obtain ⟨v, hv, hsame⟩ := List.mem_map.1 hq
        obtain ⟨i, hi, -⟩ := mem_parts_iff.1 hu
        obtain ⟨j, hj, -⟩ := mem_parts_iff.1 hv
        rw [hi, hj] at hsame
        exact hne (List.append_inj_left hsame (by rw [hlevel x hx, hlevel y hy])).symm
    obtain ⟨hnodup, hlength⟩ := ih hbelow hparts
    unfold locatedLevels
    split
    · simp
    · constructor
      · rw [List.map_append]
        refine List.nodup_append.2 ⟨h, hnodup, ?_⟩
        rintro p hp q hq rfl
        obtain ⟨x, hx, rfl⟩ := List.mem_map.1 hp
        obtain ⟨y, hy, hsame⟩ := List.mem_map.1 hq
        have hdeeper := hlength y hy
        rw [hsame, hlevel x hx] at hdeeper
        omega
      · intro y hy
        rcases List.mem_append.1 hy with hy | hy
        · exact (hlevel y hy).ge
        · exact Nat.le_of_succ_le (hlength y hy)

theorem nodup_located (n : Node) : (n.located.map Prod.fst).Nodup :=
  (nodup_locatedLevels (k := 0) (by simp) (by simp)).1

/-! ## Nodes within nodes -/

def nested (tree : Node) : List ((List Nat × List Nat) × (Node × Node)) :=
  tree.located.flatMap fun x => x.2.located.map fun y => ((x.1, x.1 ++ y.1), (x.2, y.2))

theorem mem_nested_iff {tree f m : Node} {p q : List Nat} :
    ((p, q), (f, m)) ∈ nested tree ↔ tree.at? p = some f ∧ p <+: q ∧ tree.at? q = some m := by
  simp only [nested, List.mem_flatMap, List.mem_map, Prod.exists, Prod.mk.injEq]
  constructor
  · rintro ⟨p, f, hf, q, m, hm, ⟨rfl, rfl⟩, rfl, rfl⟩
    rw [mem_located_iff] at hf hm
    exact ⟨hf, List.prefix_append p q, by rw [at?_append, hf]; exact hm⟩
  · rintro ⟨hf, ⟨q, rfl⟩, hm⟩
    rw [at?_append, hf] at hm
    exact ⟨p, f, mem_located_iff.2 hf, q, m, mem_located_iff.2 hm, ⟨rfl, rfl⟩, rfl, rfl⟩

theorem nodup_nested (tree : Node) : ((nested tree).map Prod.fst).Nodup := by
  unfold nested
  rw [List.map_flatMap, List.nodup_flatMap]
  constructor
  · intro x hx
    have hinj : Function.Injective fun q => (x.1, x.1 ++ q) := fun q r hqr => by simpa using hqr
    have hbelow : (x.2.located.map fun y => ((x.1, x.1 ++ y.1), (x.2, y.2))).map Prod.fst =
        (x.2.located.map Prod.fst).map fun q => (x.1, x.1 ++ q) := by
      simp [Function.comp_def]
    rw [hbelow]
    exact x.2.nodup_located.map hinj
  · refine (List.pairwise_map.1 tree.nodup_located).imp fun {x y} hne z hz hz' => hne ?_
    simp only [List.map_map, List.mem_map, Function.comp_apply] at hz hz'
    obtain ⟨u, -, rfl⟩ := hz
    obtain ⟨v, -, hsame⟩ := hz'
    exact (congrArg Prod.fst hsame).symm

end Node

/-! ## Records -/

/-- A function at the address `p` makes a call at the address `q`, below it. -/
structure CallsAt (symbols : List (KnownSymbol ι)) (tree : Node) (p q : List Nat) (caller callee : String) : Prop where
  function : ∃ f, tree.at? p = some f ∧ f.functionName? = some caller
  known : ∃ y ∈ symbols, y.isFunction = true ∧ y.name = caller
  inside : p <+: q
  call : ∃ m, tree.at? q = some m ∧ m.callee? = some callee
  named : callee ≠ ""
  another : callee ≠ caller

/-- The record of a node within another one, if this is a known function and the other a call that it makes. -/
def Node.recordOf? (known : List (KnownSymbol ι)) (file : Option String) (f m : Node) : Option (CallRecord ι) :=
  f.functionName?.bind fun caller => (KnownSymbol.named? known caller).bind fun s =>
    m.callRecord? known file caller s.id

theorem Node.recordOf?_eq_some_iff {known : List (KnownSymbol ι)} {file : Option String} {f m : Node}
    {r : CallRecord ι} :
    f.recordOf? known file m = some r ↔ ∃ caller y callee, f.functionName? = some caller ∧
      KnownSymbol.named? known caller = some y ∧ m.callee? = some callee ∧ callee ≠ "" ∧ callee ≠ caller ∧
      r = .ofName known file caller y.id callee m.line := by
  unfold recordOf? callRecord?
  constructor
  · intro h
    obtain ⟨caller, hcaller, h⟩ := Option.bind_eq_some_iff.1 h
    obtain ⟨y, hy, h⟩ := Option.bind_eq_some_iff.1 h
    split at h
    · rename_i callee hcallee
      split at h
      · cases h
      · rename_i hother
        simp only [Bool.or_eq_true, beq_iff_eq, not_or, String.isEmpty_iff] at hother
        exact ⟨caller, y, callee, hcaller, hy, hcallee, hother.1, hother.2, (Option.some.inj h).symm⟩
    · cases h
  · rintro ⟨caller, y, callee, hcaller, hy, hcallee, hnamed, hanother, rfl⟩
    simp [hcaller, hy, hcallee, hnamed, hanother]

theorem Node.functionCalls_eq (known : List (KnownSymbol ι)) (file : Option String) (f : Node) :
    f.functionCalls known file = f.walk.filterMap (f.recordOf? known file) := by
  unfold functionCalls recordOf?
  cases f.functionName? with
  | none => simp
  | some caller => cases hy : KnownSymbol.named? known caller <;> simp [hy]

theorem Node.calls_eq (symbols : List (KnownSymbol ι)) (file : Option String) (tree : Node) :
    tree.calls symbols file =
      (nested tree).filterMap fun z => z.2.1.recordOf? (KnownSymbol.functions symbols) file z.2.2 := by
  unfold Node.calls nested
  simp only [functionCalls_eq, ← map_snd_located, List.flatMap_map, List.filterMap_flatMap, List.filterMap_map]
  rfl

/-- The record tells of the call that a function at one address makes at another one. -/
def IsRecordAt (symbols : List (KnownSymbol ι)) (tree : Node) (x : List Nat × List Nat) (r : CallRecord ι) : Prop :=
  ∃ caller, r.caller = some caller ∧ CallsAt symbols tree x.1 x.2 caller r.callee ∧ ∀ m ∈ tree.at? x.2, r.line = m.line

theorem isSome_named?_functions_iff {symbols : List (KnownSymbol ι)} {name : String} :
    (KnownSymbol.named? (KnownSymbol.functions symbols) name).isSome = true ↔
      ∃ y ∈ symbols, y.isFunction = true ∧ y.name = name := by
  simp only [KnownSymbol.isSome_named?_iff, KnownSymbol.functions, List.mem_filter, and_assoc]

/-- The addresses of the functions and calls that are recorded, in the order of the records. -/
def Node.places (symbols : List (KnownSymbol ι)) (file : Option String) (tree : Node) : List (List Nat × List Nat) :=
  (tree.nested.filter fun z => (z.2.1.recordOf? (KnownSymbol.functions symbols) file z.2.2).isSome).map Prod.fst

section Places

variable {symbols : List (KnownSymbol ι)} {file : Option String} {tree : Node}

theorem isRecordAt_of_recordOf? {p q : List Nat} {f m : Node} {r : CallRecord ι} (h : ((p, q), (f, m)) ∈ tree.nested)
    (hr : f.recordOf? (KnownSymbol.functions symbols) file m = some r) : IsRecordAt symbols tree (p, q) r := by
  obtain ⟨hf, houter, hm⟩ := Node.mem_nested_iff.1 h
  obtain ⟨caller, y, callee, hcaller, hy, hcallee, hnamed, hanother, rfl⟩ := Node.recordOf?_eq_some_iff.1 hr
  have hknown := isSome_named?_functions_iff.1 (Option.isSome_iff_exists.2 ⟨y, hy⟩)
  refine ⟨caller, CallRecord.ofName_caller .., ?_, fun m' hm' => ?_⟩
  · rw [CallRecord.ofName_callee]
    exact ⟨⟨f, hf, hcaller⟩, hknown, houter, ⟨m, hm, hcallee⟩, hnamed, hanother⟩
  · obtain rfl : m = m' := Option.some.inj (hm.symm.trans hm')
    exact CallRecord.ofName_line ..

theorem CallsAt.exists_nested {p q : List Nat} {caller callee : String} (h : CallsAt symbols tree p q caller callee)
    (file : Option String) :
    ∃ f m r, ((p, q), (f, m)) ∈ tree.nested ∧ f.recordOf? (KnownSymbol.functions symbols) file m = some r := by
  obtain ⟨f, hf, hcaller⟩ := h.function
  obtain ⟨m, hm, hcallee⟩ := h.call
  obtain ⟨y, hy⟩ := Option.isSome_iff_exists.1 (isSome_named?_functions_iff.2 h.known)
  refine ⟨f, m, .ofName (KnownSymbol.functions symbols) file caller y.id callee m.line,
    Node.mem_nested_iff.2 ⟨hf, h.inside, hm⟩, Node.recordOf?_eq_some_iff.2 ?_⟩
  exact ⟨caller, y, callee, hcaller, hy, hcallee, h.named, h.another, rfl⟩

theorem nodup_places : (tree.places symbols file).Nodup := tree.nodup_nested.sublist (List.filter_sublist.map Prod.fst)

theorem mem_places_iff {p q : List Nat} :
    (p, q) ∈ tree.places symbols file ↔ ∃ caller callee, CallsAt symbols tree p q caller callee := by
  constructor
  · intro h
    obtain ⟨⟨_, f, m⟩, hz, rfl⟩ := List.mem_map.1 h
    obtain ⟨hz, hr⟩ := List.mem_filter.1 hz
    obtain ⟨r, hr⟩ := Option.isSome_iff_exists.1 hr
    obtain ⟨caller, -, hcalls, -⟩ := isRecordAt_of_recordOf? hz hr
    exact ⟨caller, r.callee, hcalls⟩
  · rintro ⟨caller, callee, h⟩
    obtain ⟨f, m, r, hz, hr⟩ := h.exists_nested file
    exact List.mem_map.2 ⟨((p, q), (f, m)), List.mem_filter.2 ⟨hz, Option.isSome_iff_exists.2 ⟨r, hr⟩⟩, rfl⟩

theorem forall₂_filterMap {α β : Type} (g : α → Option β) (l : List α) :
    List.Forall₂ (fun x y => g x = some y) (l.filter fun x => (g x).isSome) (l.filterMap g) := by
  induction l with
  | nil => exact .nil
  | cons a l ih => cases hg : g a <;> simpa [hg] using ih

theorem forall₂_places :
    List.Forall₂ (IsRecordAt symbols tree) (tree.places symbols file) (tree.calls symbols file) := by
  rw [Node.places, List.forall₂_map_left_iff, Node.calls_eq]
  refine ((List.forall₂_and_left _ _).2 ⟨fun z hz => (List.mem_filter.1 hz).1, forall₂_filterMap _ _⟩).imp ?_
  rintro ⟨_, f, m⟩ r ⟨hz, hr⟩
  exact isRecordAt_of_recordOf? hz hr

/-! ## The functions around a call -/

/-- The names of the functions on the way to an address, from the outermost on. -/
def Node.functionsAbove (tree : Node) (q : List Nat) : List String :=
  q.inits.filterMap fun p => (tree.at? p).bind Node.functionName?

theorem nodup_inits {α : Type} (l : List α) : l.inits.Nodup := by
  induction l with
  | nil => simp
  | cons a l ih =>
    rw [List.inits_cons, List.nodup_cons]
    exact ⟨by simp, ih.map List.cons_injective⟩

/-- A call in listed functions of other names is made in each of them. -/
theorem length_filter_places (file : Option String) {q : List Nat} {m : Node} {callee : String}
    (hm : tree.at? q = some m) (hcallee : m.callee? = some callee) (hnamed : callee ≠ "")
    (habove : ∀ name ∈ tree.functionsAbove q, name ≠ callee ∧ ∃ y ∈ symbols, y.isFunction = true ∧ y.name = name) :
    ((tree.places symbols file).filter (·.2 == q)).length = (tree.functionsAbove q).length := by
  have hperm : ((tree.places symbols file).filter (·.2 == q)).Perm
      ((q.inits.filter fun p => ((tree.at? p).bind Node.functionName?).isSome).map (·, q)) := by
    refine (List.perm_ext_iff_of_nodup (nodup_places.filter _) (((nodup_inits q).filter _).map ?_)).2 ?_
    · exact fun p p' h => congrArg Prod.fst h
    · rintro ⟨p, q'⟩
      simp only [List.mem_filter, List.mem_map, List.mem_inits, Option.isSome_iff_exists,
        Option.bind_eq_some_iff, beq_iff_eq, mem_places_iff, Prod.mk.injEq]
      constructor
      · rintro ⟨⟨caller, _, h⟩, rfl⟩
        exact ⟨p, ⟨h.inside, caller, h.function⟩, rfl, rfl⟩
      · rintro ⟨p, ⟨houter, caller, f, hf, hcaller⟩, rfl, rfl⟩
        have hname : caller ∈ tree.functionsAbove q :=
          List.mem_filterMap.2 ⟨p, (List.mem_inits p q).2 houter, by rw [hf]; exact hcaller⟩
        obtain ⟨hother, hknown⟩ := habove caller hname
        exact ⟨⟨caller, callee, ⟨f, hf, hcaller⟩, hknown, houter, ⟨m, hm, hcallee⟩, hnamed, hother.symm⟩, rfl⟩
  rw [hperm.length_eq, List.length_map, Node.functionsAbove, List.length_filterMap_eq_countP,
    List.countP_eq_length_filter]

end Places

/-- Each call with a name is recorded once for each function that it stands in, at any depth, of which the name is that
of a listed function and not the called one, and nothing else is recorded: the records belong one by one to the pairs of
such addresses, and tell the names and the line of the call. So a call in functions of other names, all of them listed,
has as many records as there are functions around it. -/
theorem calls_once_for_each_function (symbols : List (KnownSymbol ι)) (file : Option String) (tree : Node) :
    ∃ places : List (List Nat × List Nat), places.Nodup ∧
      (∀ p q, (p, q) ∈ places ↔ ∃ caller callee, CallsAt symbols tree p q caller callee) ∧
      List.Forall₂ (IsRecordAt symbols tree) places (tree.calls symbols file) ∧
      ∀ q m callee, tree.at? q = some m → m.callee? = some callee → callee ≠ "" →
        (∀ name ∈ tree.functionsAbove q, name ≠ callee ∧ ∃ y ∈ symbols, y.isFunction = true ∧ y.name = name) →
        ((places.zip (tree.calls symbols file)).filter (·.1.2 == q)).length = (tree.functionsAbove q).length := by
  have hrecords : List.Forall₂ (IsRecordAt symbols tree) (tree.places symbols file) (tree.calls symbols file) :=
    forall₂_places
  refine ⟨tree.places symbols file, nodup_places, fun p q => mem_places_iff, hrecords, ?_⟩
  intro q m callee hm hcallee hnamed habove
  have hzip : ((tree.places symbols file).zip (tree.calls symbols file)).map Prod.fst = tree.places symbols file :=
    List.map_fst_zip hrecords.length_eq.le
  rw [← length_filter_places file hm hcallee hnamed habove, ← hzip, List.filter_map, List.length_map, hzip]
  rfl

/-- A function in another one, and a call in both. -/
def twoDeep : Node :=
  let function (name : String) (line : Nat) (body : Node) : Node :=
    .mk (.definition ⟨.function, name, ⟨[], none, none⟩, none, 3⟩) line [body]
  .mk .part 0 [function "f" 1 (function "g" 2 (.mk .expressionStatement 3 [.mk .call 3 [.mk (.name "h") 3 []]]))]

def bothDeep : List (KnownSymbol Nat) := ["f", "g"].map fun name => ⟨name, true, none, 1, none⟩

theorem calls_once_for_each_function_twoDeep :
    ∃ places, List.Forall₂ (IsRecordAt bothDeep twoDeep) places (twoDeep.calls bothDeep none) ∧
      ((places.zip (twoDeep.calls bothDeep none)).filter (·.1.2 == [0, 0, 0, 0])).length = 2 := by
  obtain ⟨places, -, -, hrecords, hlength⟩ := calls_once_for_each_function bothDeep none twoDeep
  refine ⟨places, hrecords, hlength [0, 0, 0, 0] (.mk .call 3 [.mk (.name "h") 3 []]) "h" rfl rfl (by decide) ?_⟩
  have habove : twoDeep.functionsAbove [0, 0, 0, 0] = ["f", "g"] := rfl
  rw [habove]
  simp [bothDeep]

end CodeSurvey.Python
