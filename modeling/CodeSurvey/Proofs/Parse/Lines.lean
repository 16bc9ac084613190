/-
The lines of symbols. Assembly and COBOL are read line by line, so that the symbols of two texts, one above the other,
are those of both (`symbols_line_by_line`).

The readers of Python, assembly and COBOL number the lines that line feeds end, but the lines of a symbol are measured,
and comments are looked for, under all line boundaries. So both agree on a symbol as long as no other boundary stands in
the lines up to its last one, and what is measured is never the symbol's own text if such a boundary stands in it
(`keepSource_cuts_lines`). The documentation of a Python definition is looked for by the line of the reader.
-/
import CodeSurvey.Proofs.Docs.Comments
import CodeSurvey.Proofs.Parse.Documented

namespace CodeSurvey

open Text

/-! ## Symbols on lines -/

def Language.lineSymbols (lang : Language) (n : Nat) (line : List Char) : List Symbol :=
  match lang with
  | .assembly => Assembly.lineSymbols n line
  | .cobol => (Cobol.lineSymbol? n line).toList
  | .python | .c => []

/-- The symbol of a text that begins `k` lines further below. -/
def Symbol.below (k : Nat) (y : Symbol) : Symbol := { y with lineStart := y.lineStart + k, lineEnd := y.lineEnd + k }

def Language.comment? (lang : Language) (line : List Char) : Option (List Char) :=
  match lang with
  | .assembly => Docstring.assemblyComment? line
  | .cobol => Docstring.cobolComment? line
  | .python | .c => none

namespace Assembly

theorem exists_onLine_of_mem_lineSymbols {n : Nat} {line : List Char} {y : Symbol} (h : y ∈ lineSymbols n line) :
    ∃ name kind signature, y = .onLine n name kind signature := by
  simp only [lineSymbols, List.mem_append, Option.mem_toList] at h
  rcases h with (h | h) | h
  · obtain ⟨m, -, h⟩ := Option.bind_eq_some_iff.1 h
    dsimp only at h
    split at h
    · cases h
    · cases h
      exact ⟨_, _, _, rfl⟩
  · obtain ⟨m, -, h⟩ := Option.bind_eq_some_iff.1 h
    cases h
    exact ⟨_, _, _, rfl⟩
  · obtain ⟨m, -, h⟩ := Option.bind_eq_some_iff.1 h
    cases h
    exact ⟨_, _, _, rfl⟩

theorem lineSymbols_nil (n : Nat) : lineSymbols n [] = [] := by
  have hstrip : strip [] = [] := rfl
  have hlabel : labelPattern.matchStart? [] = none := by decide +kernel
  have hsection : sectionPattern.matchStart? [] = none := by decide +kernel
  have hglobal : globalPattern.matchStart? [] = none := by decide +kernel
  simp [lineSymbols, labelSymbol?, sectionSymbol?, globalSymbol?, hstrip, hlabel, hsection, hglobal]

theorem lineSymbols_add (n k : Nat) (line : List Char) :
    lineSymbols (n + k) line = (lineSymbols n line).map (Symbol.below k) := by
  have hlabel : ∀ t, labelSymbol? (n + k) t = (labelSymbol? n t).map (Symbol.below k) := by
    intro t
    unfold labelSymbol?
    cases labelPattern.matchStart? t with
    | none => rfl
    | some m => cases hlocal : startsWith ['L'] (m.group 1) <;> simp [hlocal, Symbol.below, Symbol.onLine]
  have hsection : ∀ t, sectionSymbol? (n + k) t = (sectionSymbol? n t).map (Symbol.below k) := by
    intro t
    unfold sectionSymbol?
    cases sectionPattern.matchStart? t <;> rfl
  have hglobal : ∀ t, globalSymbol? (n + k) t = (globalSymbol? n t).map (Symbol.below k) := by
    intro t
    unfold globalSymbol?
    cases globalPattern.matchStart? t <;> rfl
  simp only [lineSymbols, hlabel, hsection, hglobal, List.map_append, Option.toList_map]

end Assembly

namespace Cobol

theorem lineSymbol?_add (n k : Nat) (line : List Char) :
    lineSymbol? (n + k) line = (lineSymbol? n line).map (Symbol.below k) := by
  unfold lineSymbol?
  dsimp only
  split
  · rfl
  · split
    · rfl
    · split
      · rfl
      · split
        · rfl
        · rw [Option.map_map]
          rfl

theorem exists_onLine_of_lineSymbol? {n : Nat} {line : List Char} {y : Symbol} (h : lineSymbol? n line = some y) :
    ∃ name kind signature, y = .onLine n name kind signature := by
  unfold lineSymbol? at h
  dsimp only at h
  split at h
  · cases h
  · split at h
    · cases h
      exact ⟨_, _, _, rfl⟩
    · split at h
      · cases h
        exact ⟨_, _, _, rfl⟩
      · split at h
        · cases h
          exact ⟨_, _, _, rfl⟩
        · obtain ⟨name, -, rfl⟩ := Option.map_eq_some_iff.1 h
          exact ⟨_, _, _, rfl⟩

end Cobol

namespace Language

/-- A symbol takes the one line that it is read from, in which there is something. -/
theorem line_of_mem_lineSymbols {lang : Language} {n : Nat} {line : List Char} {y : Symbol}
    (h : y ∈ lang.lineSymbols n line) :
    y.lineStart = n ∧ y.lineEnd = n ∧ line ≠ [] := by
  cases lang with
  | python => cases h
  | c => cases h
  | assembly =>
    obtain ⟨name, kind, signature, rfl⟩ := Assembly.exists_onLine_of_mem_lineSymbols h
    refine ⟨rfl, rfl, ?_⟩
    rintro rfl
    rw [lineSymbols, Assembly.lineSymbols_nil] at h
    cases h
  | cobol =>
    rw [lineSymbols, Option.mem_toList] at h
    obtain ⟨name, kind, signature, rfl⟩ := Cobol.exists_onLine_of_lineSymbol? h
    refine ⟨rfl, rfl, ?_⟩
    rintro rfl
    cases h

/-- Where a line stands only moves its symbols. -/
theorem lineSymbols_add (lang : Language) (n k : Nat) (line : List Char) :
    lang.lineSymbols (n + k) line = (lang.lineSymbols n line).map (Symbol.below k) := by
  cases lang with
  | python => rfl
  | c => rfl
  | assembly => exact Assembly.lineSymbols_add n k line
  | cobol =>
    rw [lineSymbols, lineSymbols, Cobol.lineSymbol?_add]
    cases Cobol.lineSymbol? n line <;> rfl

/-- The symbols of lines from the `n`-th on. -/
def symbolsFrom (lang : Language) (n : Nat) (ls : List (List Char)) : List Symbol :=
  (ls.zipIdx n).flatMap fun l => lang.lineSymbols l.2 l.1

theorem symbolsFrom_add (lang : Language) (n k : Nat) (ls : List (List Char)) :
    lang.symbolsFrom (n + k) ls = (lang.symbolsFrom n ls).map (Symbol.below k) := by
  induction ls generalizing n with
  | nil => rfl
  | cons line ls ih =>
    simp only [symbolsFrom] at ih
    simp only [symbolsFrom, List.zipIdx_cons, List.flatMap_cons, List.map_append, lineSymbols_add,
      Nat.add_right_comm n k 1, ih]

theorem symbolsFrom_append (lang : Language) (n : Nat) (ls ms : List (List Char)) :
    lang.symbolsFrom n (ls ++ ms) = lang.symbolsFrom n ls ++ (lang.symbolsFrom n ms).map (Symbol.below ls.length) := by
  rw [← symbolsFrom_add, symbolsFrom, List.zipIdx_append, List.flatMap_append]
  rfl

/-- What holds of the symbols of one line, and of symbols of which one stands on an earlier line, holds along all lines.
-/
theorem pairwise_symbolsFrom {lang : Language} {R : Symbol → Symbol → Prop}
    (hline : ∀ n line, (lang.lineSymbols n line).Pairwise R) (hlt : ∀ y z : Symbol, y.lineStart < z.lineStart →
      R y z) (n : Nat)
    (ls : List (List Char)) : (lang.symbolsFrom n ls).Pairwise R := by
  have hnumbers : (ls.zipIdx n).Pairwise fun l m => l.2 < m.2 := by
    have h := List.pairwise_lt_range' (s := n) (n := ls.length) 1
    rwa [← List.zipIdx_map_snd, List.pairwise_map] at h
  refine List.pairwise_flatMap.2 ⟨fun l _ => hline l.2 l.1, hnumbers.imp fun {l m} hlm y hy z hz => hlt y z ?_⟩
  rwa [(line_of_mem_lineSymbols hy).1, (line_of_mem_lineSymbols hz).1]

theorem ofSource?_eq {lang : Language} (hlang : lang = .assembly ∨ lang = .cobol) {t : List Char} (ht : '\r' ∉ t)
    (given : Option SyntaxTree) : Symbol.ofSource? lang t given = some (lang.symbolsFrom 1 (lines t)) := by
  rcases hlang with rfl | rfl
  · rw [Symbol.ofSource?, Assembly.symbols, unifyNewlines_of_not_mem ht]
    rfl
  · rw [Symbol.ofSource?, Cobol.symbols, unifyNewlines_of_not_mem ht, List.filterMap_eq_flatMap_toList]
    rfl

/-- The symbols of a text that is read line by line are numbered by the lines that line feeds end. -/
theorem exists_line_of_mem_symbols {lang : Language} (hlang : lang = .assembly ∨ lang = .cobol) {t : List Char}
    (ht : '\r' ∉ t) {given : Option SyntaxTree} {ys : List Symbol} (hys : Symbol.ofSource? lang t given = some ys)
    {y : Symbol} (hy : y ∈ ys) :
    y.lineEnd = y.lineStart ∧ 0 < y.lineStart ∧
      ∃ line, (feedLines t)[y.lineStart - 1]? = some line ∧ y ∈ lang.lineSymbols y.lineStart line := by
  rw [ofSource?_eq hlang ht] at hys
  cases hys
  obtain ⟨⟨line, n⟩, hline, hy⟩ := List.mem_flatMap.1 hy
  obtain ⟨rfl, hend, hne⟩ := line_of_mem_lineSymbols hy
  obtain ⟨hle, hget⟩ := List.mk_mem_zipIdx_iff_le_and_getElem?_sub.1 hline
  exact ⟨hend, hle, line, getElem?_withoutOpen hget hne, hy⟩

end Language

/-- Symbols in the order of their lines, each of which is one of the first `n`. -/
structure Symbol.AreOnLines (n : Nat) (ys : List Symbol) : Prop where
  sorted : ys.Pairwise fun y z => y.lineStart ≤ z.lineStart
  within : ∀ y ∈ ys, y.lineEnd = y.lineStart ∧ 1 ≤ y.lineStart ∧ y.lineStart ≤ n

theorem Language.areOnLines_symbolsFrom (lang : Language) (ls : List (List Char)) :
    Symbol.AreOnLines ls.length (lang.symbolsFrom 1 ls) := by
  refine ⟨pairwise_symbolsFrom (fun n line => ?_) (fun y z => Nat.le_of_lt) 1 ls, fun y hy => ?_⟩
  · refine List.pairwise_of_forall_mem_list fun y hy z hz => ?_
    rw [(line_of_mem_lineSymbols hy).1, (line_of_mem_lineSymbols hz).1]
  · obtain ⟨⟨line, n⟩, hline, hy⟩ := List.mem_flatMap.1 hy
    obtain ⟨rfl, hend, -⟩ := line_of_mem_lineSymbols hy
    have hle := List.le_snd_of_mem_zipIdx hline
    have hlt := List.snd_lt_add_of_mem_zipIdx hline
    exact ⟨hend, hle, by omega⟩

/-- Assembly and COBOL without carriage returns are read line by line: the symbols of a text with another one below it
are those of both, where the lines of the second go on from those of the first. The symbols of a text come in the order
of their lines, each on one line of it, and COBOL has at most one symbol on a line. -/
theorem symbols_line_by_line (a b : List Char) (ha : '\r' ∉ a) (hb : '\r' ∉ b) :
    Assembly.symbols (a ++ '\n' :: b) = Assembly.symbols a ++ (Assembly.symbols b).map (Symbol.below (lines a).length) ∧
      Cobol.symbols (a ++ '\n' :: b) = Cobol.symbols a ++ (Cobol.symbols b).map (Symbol.below (lines a).length) ∧
      Symbol.AreOnLines (lines a).length (Assembly.symbols a) ∧ Symbol.AreOnLines (lines a).length (Cobol.symbols a) ∧
      (Cobol.symbols a).Pairwise fun y z => y.lineStart < z.lineStart := by
  have hassembly : ∀ t, '\r' ∉ t → Assembly.symbols t = Language.assembly.symbolsFrom 1 (lines t) :=
    fun t ht => Option.some.inj (Language.ofSource?_eq (.inl rfl) ht none)
  have hcobol : ∀ t, '\r' ∉ t → Cobol.symbols t = Language.cobol.symbolsFrom 1 (lines t) :=
    fun t ht => Option.some.inj (Language.ofSource?_eq (.inr rfl) ht none)
  have hab : '\r' ∉ a ++ '\n' :: b := by simp [ha, hb]
  rw [hassembly _ hab, hcobol _ hab, hassembly a ha, hcobol a ha, hassembly b hb, hcobol b hb, lines_append_feed]
  refine ⟨Language.symbolsFrom_append .., Language.symbolsFrom_append .., Language.areOnLines_symbolsFrom ..,
    Language.areOnLines_symbolsFrom .., Language.pairwise_symbolsFrom (fun n line => ?_) (fun _ _ => id) 1 _⟩
  -- a line of COBOL has at most one symbol
  rw [Language.lineSymbols]
  cases Cobol.lineSymbol? n line <;> simp

/-- A section, a label and, where capitals take more characters, a data item. -/
def upperPart : List Char := ".text\nmain:\n01 maß-x".toList

theorem symbols_line_by_line_upperPart :
    '\r' ∉ upperPart ∧ (Assembly.symbols upperPart).map (·.lineStart) = [1, 2] ∧
      Assembly.symbols (upperPart ++ '\n' :: upperPart) =
        Assembly.symbols upperPart ++ (Assembly.symbols upperPart).map (Symbol.below 3) ∧
      (Cobol.symbols upperPart).map (·.lineStart) = [3] ∧
      Cobol.symbols (upperPart ++ '\n' :: upperPart) =
        Cobol.symbols upperPart ++ (Cobol.symbols upperPart).map (Symbol.below 3) := by
  have hreturn : '\r' ∉ upperPart := by decide
  obtain ⟨hassembly, hcobol, -⟩ := symbols_line_by_line upperPart upperPart hreturn hreturn
  exact ⟨hreturn, by decide +kernel, hassembly, by decide +kernel, hcobol⟩

/-! ## What is cut out -/

namespace Symbol

def linesIn (y : Symbol) (ls : List (List Char)) : List (List Char) := (ls.take y.lineEnd).drop (y.lineStart - 1)

theorem text_eq (ls : List (List Char)) (y : Symbol) : y.text ls = unlines (y.linesIn ls) := by
  unfold text lineRange linesIn
  dsimp only
  rw [List.drop_take, List.drop_take]
  congr 1
  rw [List.take_eq_take_iff, List.length_drop]
  omega

/-- What is cut out of a text for a symbol: its lines where every line boundary counts. These are its own ones if no
other boundary than a line feed comes up to them, and they are not if one stands in them. -/
structure IsCut (t : List Char) (y : Symbol) : Prop where
  leveled : y.text (boundaryLines t) = unlines (y.linesIn (feedLines (leveled t)))
  own : (∀ l ∈ (feedLines t).take y.lineEnd, IsUnbroken l) →
    y.text (boundaryLines t) = unlines (y.linesIn (feedLines t))
  broken : (∃ l ∈ y.linesIn (feedLines t), ¬ IsUnbroken l) →
    y.text (boundaryLines t) ≠ unlines (y.linesIn (feedLines t))

theorem isCut {t : List Char} (ht : '\r' ∉ t) (y : Symbol) : y.IsCut t := by
  have hcut : y.text (boundaryLines t) = unlines (y.linesIn (feedLines (Text.leveled t))) := by
    rw [text_eq, boundaryLines_eq ht]
  refine ⟨hcut, fun h => ?_, ?_⟩
  · rw [hcut, linesIn, take_feedLines_leveled h, ← linesIn]
  · rintro ⟨l, hl, hbroken⟩ heq
    simp only [IsUnbroken, not_forall, Bool.not_eq_false] at hbroken
    obtain ⟨c, hc, hboundary⟩ := hbroken
    -- the boundary is a character of the symbol's own text, but of no line that is cut out
    have hmem : c ∈ unlines (y.linesIn (feedLines t)) := mem_unlines.2 (.inl ⟨l, hl, hc⟩)
    rw [← heq, hcut] at hmem
    rcases mem_unlines.1 hmem with ⟨m, hm, hc⟩ | ⟨rfl, -⟩
    · have hunbroken := isUnbroken_of_mem_feedLines_leveled (List.mem_of_mem_take (List.mem_of_mem_drop hm))
      rw [hunbroken c hc] at hboundary
      cases hboundary
    · exact not_mem_of_mem_splitOnChar (mem_of_mem_withoutOpen (List.mem_of_mem_take (List.mem_of_mem_drop hl))) hc

/-- Where the comments of a symbol are looked for in a text that is read line by line: the symbol takes one line, and
the lines up to this number are gone through upwards, where every line boundary counts. -/
structure IsLookedUp (lang : Language) (t : List Char) (y : Symbol) : Prop where
  gathered : ∀ doc, y.documentation lang t = .ok (some doc) → ∃ above, Docstring.linesUpTo? t y.lineStart = some above ∧
    Docstring.joined? (Docstring.gatherRun lang.comment? [] above) = some doc
  numbered : y.lineEnd = y.lineStart ∧ ∃ line, (feedLines t)[y.lineStart - 1]? = some line ∧
    y ∈ lang.lineSymbols y.lineStart line
  leveled : Docstring.linesUpTo? t y.lineStart = some ((feedLines (leveled t)).take y.lineStart).reverse
  own : (∀ l ∈ (feedLines t).take y.lineStart, IsUnbroken l) →
    Docstring.linesUpTo? t y.lineStart = some ((feedLines t).take y.lineStart).reverse
  broken : ∀ line, (feedLines t)[y.lineStart - 1]? = some line → ¬ IsUnbroken line →
    ∀ above, Docstring.linesUpTo? t y.lineStart = some above → line ∉ above

/-- Comments are gathered from the lines that are gone through upwards. -/
theorem exists_gathered {lang : Language} (hlang : lang = .assembly ∨ lang = .cobol) {t : List Char} {y : Symbol}
    {doc : List Char} (h : y.documentation lang t = .ok (some doc)) :
    ∃ above, Docstring.linesUpTo? t y.lineStart = some above ∧
      Docstring.joined? (Docstring.gatherRun lang.comment? [] above) = some doc := by
  have hrun : y.documentation lang t = .ok (Docstring.ofRun? lang.comment? t y.lineStart) ∨
      y.documentation lang t = .ok none := by
    -- only functions and procedures are looked up
    unfold documentation
    rcases hlang with rfl | rfl
    · cases y.kind <;> first | exact .inl rfl | exact .inr rfl
    · cases y.kind <;> first | exact .inl rfl | exact .inr rfl
  rcases hrun with hrun | hrun
  · rw [hrun] at h
    exact Option.bind_eq_some_iff.1 (Except.ok.inj h)
  · rw [hrun] at h
    cases h

theorem isLookedUp {lang : Language} (hlang : lang = .assembly ∨ lang = .cobol) {t : List Char} (ht : '\r' ∉ t)
    {given : Option SyntaxTree} {ys : List Symbol} (hys : ofSource? lang t given = some ys) {y : Symbol} (hy : y ∈ ys) :
    y.IsLookedUp lang t := by
  obtain ⟨hend, hpos, line, hline, hread⟩ := Language.exists_line_of_mem_symbols hlang ht hys hy
  have hlooked : Docstring.linesUpTo? t y.lineStart = some ((feedLines (Text.leveled t)).take y.lineStart).reverse := by
    obtain ⟨hlt, -⟩ := List.getElem?_eq_some_iff.1 hline
    have hle := length_feedLines_le t
    rw [← boundaryLines_eq ht] at hle ⊢
    exact Docstring.linesUpTo?_eq hpos (by omega)
  constructor
  · exact fun doc => exists_gathered hlang
  · exact ⟨hend, line, hline, hread⟩
  · exact hlooked
  · intro h
    rw [hlooked, take_feedLines_leveled h]
  · intro line _ hbroken above habove hmem
    rw [hlooked] at habove
    cases habove
    exact hbroken (isUnbroken_of_mem_feedLines_leveled (List.mem_of_mem_take (List.mem_reverse.1 hmem)))

/-- Where the documentation of a symbol is looked for in a Python text: at the definitions on the line of the symbol, as
the reader numbers them. -/
def IsFoundByLine (t : List Char) (y : Symbol) : Prop :=
  ∃ tree, Python.parse t = .ok tree ∧ y.documentation .python t = .ok (y.documentationIn tree) ∧
    ∀ doc ∈ y.documentationIn tree, ∃ n ∈ tree.walk, n.line = y.lineStart ∧ Docstring.ofNode? y.lineStart n = some doc

theorem isFoundByLine {t : List Char} {y : Symbol} (hy : y ∈ Python.symbols t) : y.IsFoundByLine t := by
  unfold Python.symbols at hy
  split at hy
  · rename_i tree htree
    refine ⟨tree, htree, documentation_python htree y, fun doc hdoc => ?_⟩
    have hlook : tree.walk.findSome? (Docstring.ofNode? y.lineStart) = some doc := by
      unfold documentationIn at hdoc
      split at hdoc
      · exact hdoc
      · exact hdoc
      · cases hdoc
    obtain ⟨n, hn, hown⟩ := List.exists_of_findSome?_eq_some hlook
    refine ⟨n, hn, ?_, hown⟩
    by_contra hline
    have hother : n.definitionLine? ≠ some y.lineStart := by
      intro h
      obtain ⟨d, -, hd⟩ := Option.map_eq_some_iff.1 h
      exact hline hd
    rw [Docstring.ofNode?_eq_none hother] at hown
    cases hown
  · cases hy

/-- The documentation of every symbol that is read from a text can be looked for. -/
theorem exists_documentation_eq_ok {lang : Language} (hlang : lang ≠ .c) {t : List Char} {given : Option SyntaxTree}
    {ys : List Symbol} (hys : ofSource? lang t given = some ys) {y : Symbol} (hy : y ∈ ys) :
    ∃ doc, y.documentation lang t = .ok doc := by
  cases lang with
  | python =>
    cases hys
    obtain ⟨tree, -, hdoc, -⟩ := isFoundByLine hy
    exact ⟨_, hdoc⟩
  | c => exact absurd rfl hlang
  | assembly =>
    unfold documentation
    cases y.kind <;> exact ⟨_, rfl⟩
  | cobol =>
    unfold documentation
    cases y.kind <;> exact ⟨_, rfl⟩

end Symbol

/-- The row of a symbol holds the measures of what is cut out for it, and the documentation that is found for it. -/
structure SymbolRow.IsRowOf (lang : Language) (t : List Char) (y : Symbol) (row : SymbolRow) : Prop where
  start : row.lineStart = (y.lineStart : Int)
  complexity : row.complexity = some ((Metrics.quality (some lang) (y.text (boundaryLines t))).complexity : Int)
  maintainability : row.maintainability = some (Metrics.quality (some lang) (y.text (boundaryLines t))).maintainability
  codeLines : row.codeLines = some ((Metrics.quality (some lang) (y.text (boundaryLines t))).codeLines : Int)
  commentLines : row.commentLines = some ((Metrics.quality (some lang) (y.text (boundaryLines t))).commentLines : Int)
  documentation : y.documentation lang t = .ok (row.docstring.map String.toList)

theorem Store.forall₂_isRowOf (s : Store) {f : SourceFile} (hlang : f.language ≠ .c) {given : Option SyntaxTree}
    {ys : List Symbol} (hys : Symbol.ofSource? f.language (fileText f.bytes) given = some ys) :
    List.Forall₂ (SymbolRow.IsRowOf f.language (fileText f.bytes)) ys (s.symbolRows f (f.found given)) := by
  have hdoc : ∀ y ∈ ys, y.documentation f.language (fileText f.bytes) =
      .ok (y.documentation f.language (fileText f.bytes)).toOption.join := by
    intro y hy
    obtain ⟨doc, hdoc⟩ := Symbol.exists_documentation_eq_ok hlang hys hy
    rw [hdoc]
    rfl
  have hfound : f.found given = ys.map fun y => (y, (y.documentation f.language (fileText f.bytes)).toOption.join) := by
    unfold SourceFile.found
    dsimp only
    rw [hys]
    exact Symbol.withDocumentation_eq_map hdoc
  -- a row holds what its draft holds, so that only the documentation found needs the symbol to be one of the file
  have hrows : List.Forall₂ (fun y row => y.documentation f.language (fileText f.bytes) =
      .ok (y.documentation f.language (fileText f.bytes)).toOption.join →
        SymbolRow.IsRowOf f.language (fileText f.bytes) y row) ys (s.symbolRows f (f.found given)) := by
    rw [hfound, Store.symbolRows, List.map_map]
    refine Store.forall₂_numbered (fun y id now h => ⟨rfl, rfl, rfl, rfl, rfl, ?_⟩) ys _
    rw [h]
    simp [Symbol.draft, Function.comp_def]
  exact ((List.forall₂_and_left ..).2 ⟨hdoc, hrows⟩).imp fun y row h => h.2 h.1

/-- For every source in Python, assembly or COBOL, each symbol has a row with the measures of what is cut out for it.
This is the text of the symbol's own lines, as its reader numbers them, if no line boundary but line feeds comes up to
its end, and it is not if such a boundary stands in these lines. Likewise comments are looked for on the symbol's own
line and above, if no other boundary comes up to it, and not on this line if one stands in it; the documentation of a
Python definition is always looked for on its own line. -/
theorem keepSource_cuts_lines (s : Store) (repository : Id) (f : SourceFile) (hlang : f.language ≠ .c)
    (given : Option SyntaxTree) :
    ∃ ys rows, Symbol.ofSource? f.language (fileText f.bytes) given = some ys ∧
      (s.keepSource repository f (f.found given)).symbols = s.symbols ++ rows ∧
      List.Forall₂ (SymbolRow.IsRowOf f.language (fileText f.bytes)) ys rows ∧
      ∀ y ∈ ys, y.IsCut (fileText f.bytes) ∧ (f.language = .python → y.IsFoundByLine (fileText f.bytes)) ∧
        (f.language ≠ .python → y.IsLookedUp f.language (fileText f.bytes)) := by
  have ht : '\r' ∉ fileText f.bytes := not_mem_unifyNewlines _
  obtain ⟨ys, hys⟩ : ∃ ys, Symbol.ofSource? f.language (fileText f.bytes) given = some ys := by
    cases hl : f.language with
    | c => exact absurd hl hlang
    | _ => exact ⟨_, rfl⟩
  refine ⟨ys, s.symbolRows f (f.found given), hys, by rw [Store.keepSource_eq], s.forall₂_isRowOf hlang hys,
    fun y hy => ⟨Symbol.isCut ht y, ?_, ?_⟩⟩
  · intro hpython
    rw [hpython] at hys
    cases hys
    exact Symbol.isFoundByLine hy
  · intro hother
    refine Symbol.isLookedUp ?_ ht hys hy
    cases hl : f.language with
    | python => exact absurd hl hother
    | c => exact absurd hl hlang
    | assembly => exact .inl rfl
    | cobol => exact .inr rfl

/-- A function with a form feed before the indentation of its second line. -/
def fedForm : SourceFile := ⟨.python, "a.py", "def f(a):\n\x0c    return g(a) if a else 0\n".toUTF8.toList⟩

theorem keepSource_cuts_lines_fedForm :
    ∃ ys rows, Symbol.ofSource? .python (fileText fedForm.bytes) none = some ys ∧
      (({} : Store).keepSource (Id.nth 0) fedForm (fedForm.found none)).symbols = rows ∧
      List.Forall₂ (SymbolRow.IsRowOf .python (fileText fedForm.bytes)) ys rows ∧
      ∃ y ∈ ys, y.text (boundaryLines (fileText fedForm.bytes)) ≠
        unlines (y.linesIn (feedLines (fileText fedForm.bytes))) := by
  obtain ⟨ys, rows, hys, hsymbols, hrows, hplaced⟩ := keepSource_cuts_lines {} (Id.nth 0) fedForm (by decide) none
  have hlines : (Python.symbols (fileText fedForm.bytes)).map (fun y => (y.lineStart, y.lineEnd)) = [(1, 2)] := by
    decide +kernel
  have hfeed : feedLines (fileText fedForm.bytes) = ["def f(a):".toList, "\x0c    return g(a) if a else 0".toList] := by
    decide +kernel
  have hpython : ys = Python.symbols (fileText fedForm.bytes) := (Option.some.inj hys).symm
  rw [← hpython] at hlines
  obtain ⟨y, hy, hline⟩ := List.map_eq_singleton_iff.1 hlines
  have hmem : y ∈ ys := by simp [hy]
  refine ⟨ys, rows, hys, hsymbols, hrows, y, hmem,
    (hplaced y hmem).1.broken ⟨"\x0c    return g(a) if a else 0".toList, ?_, ?_⟩⟩
  · obtain ⟨hstart, hend⟩ := Prod.mk.inj hline
    rw [hfeed, Symbol.linesIn, hstart, hend]
    simp
  · intro h
    exact absurd (h '\x0c' (by simp)) (by decide)

end CodeSurvey
