/-
Symbols of Python source. A walk through the syntax tree comes to every definition once, at whatever depth it stands,
and gives a symbol for each class and each plain function (`lists_symbols`). Asynchronous functions have none: all
definitions of a program have their symbols exactly if none of them is asynchronous (`symbols_list_all_iff`).
-/
import CodeSurvey.Proofs.Calls.Nested
import CodeSurvey.Symbol.Source

namespace CodeSurvey.Python

def DefinitionSort.symbolKind : DefinitionSort → SymbolKind
  | .classDef => .classType
  | .function | .asyncFunction => .function

def DefinesAt (tree : Node) (wanted : DefinitionSort → Prop) (p : List Nat) : Prop :=
  ∃ n d, tree.at? p = some n ∧ n.definition? = some d ∧ wanted d.sort

/-- The symbol tells the name, the kind and the first and last line of the definition at an address. -/
def IsSymbolAt (tree : Node) (p : List Nat) (y : Symbol) : Prop :=
  ∃ n d, tree.at? p = some n ∧ n.definition? = some d ∧ y.name = d.name ∧ y.kind = d.sort.symbolKind ∧
    y.lineStart = n.line ∧
    y.lineEnd = d.endLine

/-- The symbols belong one by one to the definitions of a wanted sort, wherever these stand in the tree. -/
def Lists (tree : Node) (wanted : DefinitionSort → Prop) (ys : List Symbol) : Prop :=
  ∃ places : List (List Nat), places.Nodup ∧ (∀ p, p ∈ places ↔ DefinesAt tree wanted p) ∧
    List.Forall₂ (IsSymbolAt tree) places ys

theorem Node.isSome_symbol?_iff {n : Node} :
    n.symbol?.isSome = true ↔ ∃ d, n.definition? = some d ∧ d.sort ≠ .asyncFunction := by
  unfold symbol?
  cases n.definition? with
  | none => simp
  | some d => cases hsort : d.sort <;> simp [hsort]

theorem isSymbolAt_of_symbol? {tree n : Node} {p : List Nat} {y : Symbol} (hn : tree.at? p = some n)
    (hy : n.symbol? = some y) :
    IsSymbolAt tree p y := by
  unfold Node.symbol? at hy
  cases hd : n.definition? with
  | none => simp [hd] at hy
  | some d =>
    cases hsort : d.sort with
    | asyncFunction => simp [hd, hsort] at hy
    | function =>
      simp only [hd, hsort, Option.some.injEq] at hy
      subst hy
      exact ⟨n, d, hn, hd, rfl, by rw [hsort]; rfl, rfl, rfl⟩
    | classDef =>
      simp only [hd, hsort, Option.some.injEq] at hy
      subst hy
      exact ⟨n, d, hn, hd, rfl, by rw [hsort]; rfl, rfl, rfl⟩

/-- The symbols of a tree are those of its classes and plain functions, each of them once. -/
theorem lists_symbols (tree : Node) : Lists tree (· ≠ .asyncFunction) tree.symbols := by
  refine ⟨(tree.located.filter fun x => x.2.symbol?.isSome).map Prod.fst, ?_, fun p => ?_, ?_⟩
  · exact tree.nodup_located.sublist (List.filter_sublist.map Prod.fst)
  · constructor
    · intro hp
      obtain ⟨⟨p, n⟩, hx, rfl⟩ := List.mem_map.1 hp
      obtain ⟨hx, hsome⟩ := List.mem_filter.1 hx
      obtain ⟨d, hd, hsort⟩ := Node.isSome_symbol?_iff.1 hsome
      exact ⟨n, d, Node.mem_located_iff.1 hx, hd, hsort⟩
    · rintro ⟨n, d, hn, hd, hsort⟩
      refine List.mem_map.2 ⟨(p, n), List.mem_filter.2 ⟨Node.mem_located_iff.2 hn, ?_⟩, rfl⟩
      exact Node.isSome_symbol?_iff.2 ⟨d, hd, hsort⟩
  · have hsymbols : tree.symbols = tree.located.filterMap fun x => x.2.symbol? := by
      rw [Node.symbols, ← Node.map_snd_located, List.filterMap_map]
      rfl
    rw [hsymbols, List.forall₂_map_left_iff]
    refine ((List.forall₂_and_left _ _).2 ⟨fun x hx => (List.mem_filter.1 hx).1, forall₂_filterMap _ _⟩).imp ?_
    rintro ⟨p, n⟩ y ⟨hx, hy⟩
    exact isSymbolAt_of_symbol? (Node.mem_located_iff.1 hx) hy

theorem Lists.length_lt {tree : Node} {wanted more : DefinitionSort → Prop} {ys zs : List Symbol}
    (h : Lists tree wanted ys) (hmore : Lists tree more zs) (hsub : ∀ s, wanted s → more s) {p : List Nat}
    (hp : DefinesAt tree more p)
    (hnot : ¬ DefinesAt tree wanted p) : ys.length < zs.length := by
  obtain ⟨places, hnodup, hmem, hys⟩ := h
  obtain ⟨places', -, hmem', hzs⟩ := hmore
  have hsubset : p :: places ⊆ places' := by
    refine List.cons_subset.2 ⟨(hmem' p).2 hp, fun q hq => ?_⟩
    obtain ⟨n, d, hn, hd, hsort⟩ := (hmem q).1 hq
    exact (hmem' q).2 ⟨n, d, hn, hd, hsub _ hsort⟩
  have hnodup' : (p :: places).Nodup := List.nodup_cons.2 ⟨fun hq => hnot ((hmem p).1 hq), hnodup⟩
  have hle := (List.subperm_of_subset hnodup' hsubset).length_le
  rw [List.length_cons, hys.length_eq, hzs.length_eq] at hle
  exact hle

/-- The symbols of a program are those of its classes and plain functions, wherever they stand, each with the name, the
kind and the lines of its definition, and nothing else. They are those of all its definitions exactly if none is an
asynchronous function. -/
theorem symbols_list_all_iff {t : List Char} {tree : Node} (h : parse t = .ok tree) :
    Lists tree (· ≠ .asyncFunction) (symbols t) ∧
      (Lists tree (fun _ => True) (symbols t) ↔ ∀ p, ¬ DefinesAt tree (· = .asyncFunction) p) := by
  have hsymbols : symbols t = tree.symbols := by rw [symbols, h]
  rw [hsymbols]
  refine ⟨lists_symbols tree, fun hall p hasync => ?_, fun hnone => ?_⟩
  · obtain ⟨n, d, hn, hd, hsort⟩ := hasync
    refine Nat.lt_irrefl _ ((lists_symbols tree).length_lt hall (fun _ _ => trivial) ⟨n, d, hn, hd, trivial⟩ ?_)
    rintro ⟨n', d', hn', hd', hsort'⟩
    obtain rfl : n = n' := Option.some.inj (hn.symm.trans hn')
    obtain rfl : d = d' := Option.some.inj (hd.symm.trans hd')
    exact hsort' hsort
  · obtain ⟨places, hnodup, hmem, hys⟩ := lists_symbols tree
    refine ⟨places, hnodup, fun p => (hmem p).trans ⟨?_, ?_⟩, hys⟩
    · rintro ⟨n, d, hn, hd, -⟩
      exact ⟨n, d, hn, hd, trivial⟩
    · rintro ⟨n, d, hn, hd, -⟩
      exact ⟨n, d, hn, hd, fun hsort => hnone p ⟨n, d, hn, hd, hsort⟩⟩

def loader : List Char := "class Loader:\n    async def load(self):\n        def read():\n            pass\n".toList

theorem symbols_list_all_iff_loader :
    ∃ tree, parse loader = .ok tree ∧ Lists tree (· ≠ .asyncFunction) (symbols loader) ∧
      ¬ Lists tree (fun _ => True) (symbols loader) := by
  have hsorts : (parse loader).toOption.map (fun tree => tree.walk.filterMap fun n => n.definition?.map (·.sort)) =
      some [.classDef, .asyncFunction, .function] := by decide +kernel
  obtain ⟨tree, hparse, hwalk⟩ := Option.map_eq_some_iff.1 hsorts
  have htree : parse loader = .ok tree := by
    cases hp : parse loader with
    | error e => simp [hp, Except.toOption] at hparse
    | ok tree' =>
      rw [hp] at hparse
      cases hparse
      rfl
  obtain ⟨hplain, hall⟩ := symbols_list_all_iff htree
  have hasync : DefinitionSort.asyncFunction ∈ tree.walk.filterMap fun n => n.definition?.map (·.sort) := by
    simp [hwalk]
  obtain ⟨n, hn, hmap⟩ := List.mem_filterMap.1 hasync
  obtain ⟨d, hd, hsort⟩ := Option.map_eq_some_iff.1 hmap
  rw [← Node.map_snd_located] at hn
  obtain ⟨⟨p, m⟩, hx, rfl⟩ := List.mem_map.1 hn
  exact ⟨tree, htree, hplain, fun h => hall.1 h p ⟨m, d, Node.mem_located_iff.1 hx, hd, hsort⟩⟩

end CodeSurvey.Python
