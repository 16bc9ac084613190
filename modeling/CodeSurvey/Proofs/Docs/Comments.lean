/-
Comments as documentation. What is found for a line of assembly or COBOL are the texts of the comment lines that end on
this line itself (`ofRun?_eq`). A symbol stands below its comments, on a line that is none, so they are never found for
it, but for the line above it (`extract_misses_comments_above`). Of the comment block above a line of C the texts of the
last lines are found, as many as are looked at, unless the block has one line only (`ofC?_eq_block_iff`).
-/
import CodeSurvey.Proofs.Docs.Docstring
import CodeSurvey.Proofs.Pattern.Cut
import Mathlib.Data.List.Forall2
import Mathlib.Data.List.Induction

namespace CodeSurvey.Docstring

open Text

/-- The lines that are gone through upwards from a line on, as the lines are counted under all boundaries. -/
theorem linesUpTo?_eq {t : List Char} {n : Nat} (hpos : 0 < n) (hle : n ≤ (boundaryLines t).length) :
    linesUpTo? t n = some ((boundaryLines t).take n).reverse := by
  unfold linesUpTo?
  have hin : ¬ ((decide ((n : Int) ≤ 0) || decide (((boundaryLines t).length : Int) < n)) = true) := by
    simp only [Bool.or_eq_true, decide_eq_true_eq]
    omega
  dsimp only
  rw [if_neg hin, Int.toNat_natCast]

/-! ## Runs of comment lines -/

variable {comment? : List Char → Option (List Char)}

def textsOf (comment? : List Char → Option (List Char)) (run : List (List Char)) : List (List Char) :=
  run.filterMap fun l => (comment? (strip l)).filter (!·.isEmpty)

/-- The comment lines that end on the `n`-th line, as many as there are. -/
def IsRunUpTo (comment? : List Char → Option (List Char)) (ls : List (List Char)) (n : Nat)
    (run : List (List Char)) : Prop :=
  ∃ above below, ls = above ++ run ++ below ∧ above.length + run.length = n ∧ (∀ l ∈ run, comment? (strip l) ≠ none) ∧
    ∀ l ∈ above.getLast?, comment? (strip l) = none

theorem isRunUpTo_nil {ls : List (List Char)} {n : Nat} {line : List Char} (hline : ls[n]? = some line)
    (h : comment? (strip line) = none) : IsRunUpTo comment? ls (n + 1) [] := by
  obtain ⟨hlt, rfl⟩ := List.getElem?_eq_some_iff.1 hline
  refine ⟨ls.take (n + 1), ls.drop (n + 1), by simp, by rw [List.length_take, List.length_nil]; omega, by simp,
    fun l hl => ?_⟩
  rw [List.take_succ_eq_append_getElem hlt, List.getLast?_concat] at hl
  cases hl
  exact h

/-- All comment lines are gathered upwards, up to the first line that is none. The induction takes the lines as they are
gone through, from the last one on. -/
theorem gatherRun_eq {run rest : List (List Char)} (hrun : ∀ l ∈ run, comment? (strip l) ≠ none)
    (hrest : ∀ l ∈ rest.head?, comment? (strip l) = none) (acc : List (List Char)) :
    gatherRun comment? acc (run.reverse ++ rest) = textsOf comment? run ++ acc := by
  induction run using List.reverseRecOn generalizing acc with
  | nil =>
    cases rest with
    | nil => rfl
    | cons l rest =>
      have hl := hrest l rfl
      simp [gatherRun, hl, textsOf]
  | append_singleton run l ih =>
    obtain ⟨text, htext⟩ := Option.ne_none_iff_exists'.1 (hrun l (by simp))
    have hrun' : ∀ m ∈ run, comment? (strip m) ≠ none := fun m hm => hrun m (List.mem_append_left _ hm)
    have htexts : textsOf comment? (run ++ [l]) ++ acc = textsOf comment? run ++ keep text acc := by
      cases text <;> simp [textsOf, keep, htext, Option.filter_some]
    rw [List.reverse_append, List.reverse_singleton, List.singleton_append, List.cons_append, gatherRun, htext, htexts]
    exact ih hrun' _

theorem ofRun?_eq {t : List Char} {n : Nat} {run : List (List Char)} (h : IsRunUpTo comment? (boundaryLines t) n run)
    (hpos : 0 < n) :
    ofRun? comment? t n = joined? (textsOf comment? run) := by
  obtain ⟨above, below, ht, hn, hrun, habove⟩ := h
  have htake : (boundaryLines t).take n = above ++ run := by
    rw [ht, ← hn, ← List.length_append, List.take_left]
  have hle : n ≤ (boundaryLines t).length := by
    rw [ht, List.length_append, List.length_append]
    omega
  have hgather : gatherRun comment? [] (run.reverse ++ above.reverse) = textsOf comment? run ++ [] :=
    gatherRun_eq hrun (by simpa using habove) []
  rw [ofRun?, linesUpTo?_eq hpos hle, htake, List.reverse_append]
  show joined? (gatherRun comment? [] (run.reverse ++ above.reverse)) = _
  rw [hgather, List.append_nil]

/-! ## By language -/

/-- A language, given by its name in any case, is documented by comment lines. -/
inductive CommentedBy (language : List Char) : (List Char → Option (List Char)) → Prop
  | assembly (h : String.ofList (lower language) ∈ ["assembly", "asm"]) : CommentedBy language assemblyComment?
  | cobol (h : String.ofList (lower language) = "cobol") : CommentedBy language cobolComment?

theorem CommentedBy.extract_eq {language : List Char} (h : CommentedBy language comment?) (t : List Char) (line : Int) :
    extract t language (some line) = .ok (ofRun? comment? t line) := by
  unfold extract
  cases h with
  | assembly h =>
    simp only [List.mem_cons, List.not_mem_nil, or_false] at h
    rcases h with h | h <;> simp [h, onLine]
  | cobol h => simp [h, onLine]

/-- Comments above a symbol are never found for the line of the symbol, if it is no comment itself. For the line above
it, all texts of these comments are found, in their order. -/
theorem extract_misses_comments_above {language : List Char} (hlanguage : CommentedBy language comment?)
    (t : List Char) {n : Nat} {run : List (List Char)} {line : List Char}
    (hrun : IsRunUpTo comment? (boundaryLines t) n run)
    (htext : textsOf comment? run ≠ []) (hline : (boundaryLines t)[n]? = some line)
    (hsymbol : comment? (strip line) = none) :
    extract t language (some ((n + 1 : Nat) : Int)) = .ok none ∧
      extract t language (some (n : Int)) = .ok (some (joinWith [' '] (textsOf comment? run))) := by
  have hpos : 0 < n := by
    obtain ⟨above, below, -, rfl, -⟩ := hrun
    have hne : run ≠ [] := fun hnil => htext (by rw [hnil]; rfl)
    exact Nat.add_pos_right _ (List.length_pos_iff.2 hne)
  constructor
  · rw [hlanguage.extract_eq, ofRun?_eq (isRunUpTo_nil hline hsymbol) (Nat.succ_pos n)]
    rfl
  · rw [hlanguage.extract_eq, ofRun?_eq hrun hpos, joined?, if_neg (by simpa using htext)]

/-- Three comments, one of them empty, above a label, and another comment that is not next to them. -/
def documentedLabel : List Char := "; file\n\n; adds\n;\n  // two numbers\nadd:\n  ret\n".toList

theorem extract_misses_comments_above_documentedLabel :
    extract documentedLabel "ASM".toList (some 6) = .ok none ∧
      extract documentedLabel "ASM".toList (some 5) = .ok (some "adds two numbers".toList) := by
  have hlines : boundaryLines documentedLabel =
      ["; file".toList, []] ++ ["; adds".toList, ";".toList, "  // two numbers".toList] ++
      ["add:".toList, "  ret".toList] := by decide +kernel
  have hrun : IsRunUpTo assemblyComment? (boundaryLines documentedLabel) 5
      ["; adds".toList, ";".toList, "  // two numbers".toList] :=
    ⟨_, _, hlines, rfl, by decide +kernel, by decide +kernel⟩
  have hline : (boundaryLines documentedLabel)[5]? = some "add:".toList := by rw [hlines]; rfl
  exact extract_misses_comments_above (.assembly (by decide +kernel)) documentedLabel hrun (by decide +kernel) hline
    (by decide +kernel)

/-! ## Comment blocks -/

def filled (texts : List (List Char)) : List (List Char) := texts.filter (!·.isEmpty)

theorem filled_append (texts more : List (List Char)) : filled (texts ++ more) = filled texts ++ filled more :=
  List.filter_append ..

theorem keep_eq (text : List Char) (acc : List (List Char)) : keep text acc = filled [text] ++ acc := by
  cases text <;> rfl

/-- A text without white space around it, and without a star in front. -/
def unstarred (text : List Char) : List Char :=
  if startsWith ['*'] (strip text) then strip ((strip text).drop 1) else strip text

/-- A line within a comment block and its text. -/
def IsInner (line text : List Char) : Prop :=
  endsWith ['*', '/'] (strip line) = false ∧ ∃ x, strip line = '*' :: x ∧ text = strip x

/-- A well-formed comment block and the texts of its lines without the marks of comments. -/
inductive IsBlock : (block texts : List (List Char)) → Prop
  | single {line x : List Char} (h : strip line = ['/', '*', '*'] ++ x ++ ['*', '/']) : IsBlock [line] [strip x]
  | several {first last x y : List Char} {inner texts : List (List Char)} (hfirst : strip first = ['/', '*', '*'] ++ x)
      (hopen : endsWith ['*', '/'] (strip first) = false) (hinner : List.Forall₂ IsInner inner texts)
      (hlast : strip last = y ++ ['*', '/']) :
        IsBlock (first :: (inner ++ [last])) (strip x :: (texts ++ [unstarred y]))

theorem gatherBlock_last {line y : List Char} (h : strip line = y ++ ['*', '/']) (inside : Bool)
    (acc r : List (List Char)) :
    gatherBlock inside acc (line :: r) = gatherBlock true (keep (unstarred y) acc) r := by
  have hend : endsWith ['*', '/'] (strip line) = true := by
    rw [h, endsWith, List.isSuffixOf_iff_suffix]
    exact List.suffix_append y _
  have htake : (strip line).take ((strip line).length - 2) = y := by simp [h]
  rw [gatherBlock, if_pos hend, htake]
  rfl

theorem gatherBlock_inner {inner texts : List (List Char)} (h : List.Forall₂ IsInner inner texts)
    (acc r : List (List Char)) :
    gatherBlock true acc (inner.reverse ++ r) = gatherBlock true (filled texts ++ acc) r := by
  induction h generalizing r with
  | nil => rfl
  | @cons line text inner texts hline _ ih =>
    obtain ⟨hend, x, hx, rfl⟩ := hline
    rw [hx] at hend
    have hkeep : keep (strip x) (filled texts ++ acc) = filled (strip x :: texts) ++ acc := by
      rw [keep_eq, ← List.append_assoc, ← filled_append, List.singleton_append]
    rw [List.reverse_cons, List.append_assoc, List.singleton_append, ih, gatherBlock]
    simp [hx, hend, startsWith, hkeep]

theorem gatherBlock_first {line x : List Char} (h : strip line = ['/', '*', '*'] ++ x)
    (hopen : endsWith ['*', '/'] (strip line) = false) (acc r : List (List Char)) : gatherBlock true acc (line :: r) =
      keep (strip x) acc := by
  rw [h] at hopen
  rw [gatherBlock, h]
  simp only [hopen]
  rfl

theorem mem_gatherBlock {text : List Char} (ls : List (List Char)) {inside : Bool} {acc : List (List Char)}
    (h : text ∈ acc) :
    text ∈ gatherBlock inside acc ls := by
  induction ls generalizing inside acc with
  | nil => exact h
  | cons l ls ih =>
    have hkeep : ∀ more, text ∈ keep more acc := fun more => keep_eq more acc ▸ List.mem_append_right _ h
    rw [gatherBlock]
    dsimp only
    split_ifs
    · exact ih (hkeep _)
    · exact ih (hkeep _)
    · exact hkeep _
    · exact ih (hkeep _)
    · exact ih h
    · exact h
    · exact ih h

theorem ofC?_eq {t line : List Char} {above below : List (List Char)}
    (hlines : boundaryLines t = above ++ line :: below) (hline : endsWith ['*', '/'] (strip line) = false) :
    ofC? t (above.length + 1 : Nat) = joined? (gatherBlock false [] (above.reverse.take (blockReach - 1))) := by
  have hle : above.length + 1 ≤ (boundaryLines t).length := by
    rw [hlines, List.length_append, List.length_cons]
    omega
  have htake : ((boundaryLines t).take (above.length + 1)).reverse = line :: above.reverse := by
    rw [hlines, List.append_cons, List.take_left' (by simp), List.reverse_append]
    rfl
  rw [ofC?, linesUpTo?_eq (Nat.succ_pos _) hle, htake]
  show joined? (gatherBlock false [] (line :: above.reverse.take (blockReach - 1))) = _
  rw [gatherBlock]
  simp [hline]

theorem length_joinWith_le (sep a : List Char) (l : List (List Char)) :
    a.length + (joinWith sep l).length ≤ (joinWith sep (a :: l)).length := by
  cases l with
  | nil => simp [joinWith, List.intercalate]
  | cons b l => simp [joinWith_cons_cons]

theorem joined?_append_eq_iff {front texts : List (List Char)} (h : ∀ a ∈ front, a ≠ []) :
    joined? (front ++ texts) = joined? texts ↔ front = [] := by
  have hlength : ∀ front : List (List Char),
      (joinWith [' '] texts).length ≤ (joinWith [' '] (front ++ texts)).length := by
    intro front
    induction front with
    | nil => exact Nat.le_refl _
    | cons a front ih => exact ih.trans ((Nat.le_add_left _ _).trans (length_joinWith_le [' '] a _))
  refine ⟨fun heq => ?_, fun hnil => by rw [hnil, List.nil_append]⟩
  cases front with
  | nil => rfl
  | cons a front =>
    have ha : 0 < a.length := List.length_pos_iff.2 (h a List.mem_cons_self)
    have hjoined := length_joinWith_le [' '] a (front ++ texts)
    cases texts with
    | nil => simp [joined?] at heq
    | cons b texts =>
      have hlonger := hlength front
      simp only [joined?, List.cons_append, List.isEmpty_cons, Bool.false_eq_true, if_false, Option.some.injEq] at heq
      rw [heq] at hjoined
      omega

/-- In a block of one line the mark that opens it is taken for text. -/
theorem joined?_gatherBlock_single_ne {line x : List Char} (h : strip line = ['/', '*', '*'] ++ x ++ ['*', '/'])
    (above : List (List Char)) : joined? (gatherBlock false [] (line :: above)) ≠ joined? (filled [strip x]) := by
  have hstar : startsWith ['*'] (strip (['/', '*', '*'] ++ x)) = false := by
    show startsWith ['*'] (stripRightBy isBlank ([] ++ '/' :: (['*', '*'] ++ x))) = false
    rw [stripRightBy_append_cons (by decide)]
    rfl
  have hbody : unstarred (['/', '*', '*'] ++ x) = strip (['/', '*', '*'] ++ x) := by rw [unstarred, hstar]; rfl
  have hink : ink (strip (['/', '*', '*'] ++ x)) = ['/', '*', '*'] ++ ink x := by rw [ink_strip, ink_append]; rfl
  rw [gatherBlock_last h, hbody]
  generalize strip (['/', '*', '*'] ++ x) = body at hink
  have hmem : body ∈ gatherBlock true (keep body []) above := by
    refine mem_gatherBlock above ?_
    cases body with
    | nil => cases hink
    | cons a body => exact List.mem_singleton_self _
  intro heq
  rw [joined?, if_neg (by simpa using List.ne_nil_of_mem hmem)] at heq
  have hx : strip x ≠ [] := fun hx => by simp [hx, joined?, filled] at heq
  have hfilled : filled [strip x] = [strip x] := by simp [filled, hx]
  have hjoined : joinWith [' '] (gatherBlock true (keep body []) above) = strip x := by
    rw [hfilled] at heq
    simpa [joined?, joinWith, List.intercalate] using heq
  -- the characters other than blanks are more in the text of the line than in the text of the block
  have hle : (ink body).length ≤ (ink (strip x)).length :=
    hjoined ▸ ((isInfix_joinWith_of_mem hmem).sublist.filter _).length_le
  rw [hink, ink_strip, List.length_append] at hle
  exact absurd hle (by simp)

/-- In a block of several lines the texts of the last lines are found, as far as the lines are within reach. -/
theorem gatherBlock_several {first last x y : List Char} {inner texts above : List (List Char)}
    (hfirst : strip first = ['/', '*', '*'] ++ x) (hopen : endsWith ['*', '/'] (strip first) = false)
    (hinner : List.Forall₂ IsInner inner texts) (hlast : strip last = y ++ ['*', '/']) (k : Nat) :
    gatherBlock false [] ((last :: (inner.reverse ++ first :: above)).take (k + 1)) =
      filled ((strip x :: (texts ++ [unstarred y])).drop (texts.length + 2 - (k + 1))) := by
  rw [List.take_succ_cons, gatherBlock_last hlast, keep_eq]
  have hlength : inner.length = texts.length := hinner.length_eq
  -- is the first line within reach?
  by_cases hshort : inner.length < k
  · obtain ⟨m, hm⟩ : ∃ m, k - inner.length = m + 1 := ⟨k - inner.length - 1, by omega⟩
    have htake : (inner.reverse ++ first :: above).take k = inner.reverse ++ first :: above.take m := by
      rw [List.take_append, List.length_reverse, hm, List.take_of_length_le (by simp; omega), List.take_succ_cons]
    rw [htake, gatherBlock_inner hinner, gatherBlock_first hfirst hopen, keep_eq, Nat.sub_eq_zero_of_le (by omega),
      List.drop_zero, List.append_nil, ← filled_append, ← filled_append, List.singleton_append]
  · have htake : (inner.reverse ++ first :: above).take k = (inner.drop (inner.length - k)).reverse ++ [] := by
      rw [List.take_append_of_le_length (by simp; omega), List.take_reverse, List.append_nil]
    have hdrop : texts.length + 2 - (k + 1) = inner.length - k + 1 := by omega
    rw [htake, gatherBlock_inner (List.forall₂_drop _ hinner), hdrop, List.drop_succ_cons,
      List.drop_append_of_le_length (by omega), hlength, gatherBlock, List.append_nil, filled_append]

/-- What is found for a line below a comment block of several lines are the texts of the last lines of the block. So
this is what the block says exactly if it has several lines and no text in those that are out of reach. -/
theorem ofC?_eq_block_iff (t : List Char) {above block below texts : List (List Char)} {line : List Char}
    (hlines : boundaryLines t = above ++ block ++ line :: below) (hblock : IsBlock block texts)
    (hline : endsWith ['*', '/'] (strip line) = false) :
    (1 < block.length → ofC? t (above.length + block.length + 1 : Nat) =
        joined? (filled (texts.drop (texts.length - (blockReach - 1))))) ∧
      (ofC? t (above.length + block.length + 1 : Nat) = joined? (filled texts) ↔
        1 < block.length ∧ ∀ text ∈ texts.take (texts.length - (blockReach - 1)), text = []) := by
  rw [← List.length_append, ofC?_eq hlines hline, List.reverse_append]
  cases hblock with
  | single h =>
    refine ⟨fun hlong => absurd hlong (by simp), fun heq => ?_, fun hlong => absurd hlong.1 (by simp)⟩
    exact absurd heq (joined?_gatherBlock_single_ne h _)
  | @several first last x y inner texts hfirst hopen hinner hlast =>
    have hreverse : (first :: (inner ++ [last])).reverse ++ above.reverse =
        last :: (inner.reverse ++ first :: above.reverse) := by simp
    have hgather : gatherBlock false [] ((last :: (inner.reverse ++ first :: above.reverse)).take (blockReach - 1)) =
        filled ((strip x :: (texts ++ [unstarred y])).drop (texts.length + 2 - (blockReach - 1))) :=
      gatherBlock_several hfirst hopen hinner hlast (blockReach - 2)
    have hlength : (strip x :: (texts ++ [unstarred y])).length = texts.length + 2 := by simp
    have hseveral : 1 < (first :: (inner ++ [last])).length := by simp
    rw [hreverse, hlength, hgather, and_iff_right hseveral]
    refine ⟨fun _ => rfl, ?_⟩
    generalize strip x :: (texts ++ [unstarred y]) = found
    generalize texts.length + 2 - (blockReach - 1) = n
    have hsplit : filled found = filled (found.take n) ++ filled (found.drop n) := by
      rw [← filled_append, List.take_append_drop]
    rw [hsplit, eq_comm, joined?_append_eq_iff (by simp [filled]), filled, List.filter_eq_nil_iff]
    simp

/-- A block of one line and a block of four lines, and a function below each of them. -/
def documentedFunctions : List Char :=
  "/** Ends. */\nint end();\n/** Adds\n *\n * two numbers,\n   a and b. */\nint add();\n".toList

theorem ofC?_eq_block_iff_documentedFunctions :
    ofC? documentedFunctions 7 = some "Adds two numbers, a and b.".toList ∧
    ofC? documentedFunctions 2 ≠ some "Ends.".toList := by
  have hinner : List.Forall₂ IsInner [" *".toList, " * two numbers,".toList] [[], "two numbers,".toList] :=
    .cons ⟨by decide +kernel, [], by decide +kernel, by decide +kernel⟩
      (.cons ⟨by decide +kernel, " two numbers,".toList, by decide +kernel, by decide +kernel⟩ .nil)
  have hseveral : IsBlock ["/** Adds".toList, " *".toList, " * two numbers,".toList, "   a and b. */".toList]
      ["Adds".toList, [], "two numbers,".toList, "a and b.".toList] :=
    .several (x := " Adds".toList) (y := "a and b. ".toList) (by decide +kernel) (by decide +kernel) hinner
      (by decide +kernel)
  have hsingle : IsBlock ["/** Ends. */".toList] ["Ends.".toList] := .single (x := " Ends. ".toList) (by decide +kernel)
  have hbelow : boundaryLines documentedFunctions = ["/** Ends. */".toList, "int end();".toList] ++
      ["/** Adds".toList, " *".toList, " * two numbers,".toList, "   a and b. */".toList] ++ ["int add();".toList] := by
    decide +kernel
  have habove : boundaryLines documentedFunctions = [] ++ ["/** Ends. */".toList] ++ "int end();".toList ::
      ["/** Adds".toList, " *".toList, " * two numbers,".toList, "   a and b. */".toList, "int add();".toList] := by
    decide +kernel
  refine ⟨(ofC?_eq_block_iff documentedFunctions hbelow hseveral (by decide +kernel)).2.2
    ⟨by decide, by decide +kernel⟩, fun heq => ?_⟩
  have hone := (ofC?_eq_block_iff documentedFunctions habove hsingle (by decide +kernel)).2.1 heq
  exact absurd hone.1 (by decide)

end CodeSurvey.Docstring
