/-
To whom the calls of a line are put down, in the languages that are read line by line. In assembly it is the symbol
whose label stands last above the line (`fileCalls_below_labels`), and labels that are no symbols only keep their own
line out.

In COBOL it is whatever name with a point stands last above the line, be it a paragraph or not. So calls are put down to
names that the reader of symbols does not know, where a point stands apart from its word, more follows on the line or
the name is no paragraph's (`exists_unlisted_caller_iff`).
-/
import CodeSurvey.Proofs.Calls.Listed
import CodeSurvey.Proofs.Pattern.Reach
import CodeSurvey.Proofs.Text.Lines
import CodeSurvey.Symbol.Source

namespace CodeSurvey

variable {ι : Type}

/-! ## Records by lines -/

def CallRecord.onLine (n : Nat) (records : List (CallRecord ι)) : List (CallRecord ι) :=
  records.filter (·.line == (n : Int))

theorem CallRecord.onLine_eq_nil {n : Nat} {records : List (CallRecord ι)} (h : ∀ r ∈ records, r.line ≠ n) :
    onLine n records = [] :=
  List.filter_eq_nil_iff.2 fun r hr => by simpa using h r hr

theorem CallRecord.onLine_append (n : Nat) (l m : List (CallRecord ι)) : onLine n (l ++ m) = onLine n l ++ onLine n m :=
  List.filter_append l m

namespace CallScan

open CallRecord

variable {head : List Char → Option String} {add : Option String → Nat → List Char → List (CallRecord ι)}

/-- If every record tells the number of its line, those on one line are what this line adds. -/
theorem onLine_along (hline : ∀ caller n line, ∀ r ∈ add caller n line, r.line = n) (caller : Option String) (n : Nat)
    (before : List (List Char)) (line : List Char) (behind : List (List Char)) :
    onLine (n + before.length) (along head add caller n (before ++ line :: behind)) =
      add ((enclosing? head before).or caller) (n + before.length) line := by
  have hbefore : onLine (n + before.length) (along head add caller n before) = [] := by
    refine onLine_eq_nil fun r hr => ?_
    obtain ⟨above, l, between, rfl, hl⟩ := mem_along_iff.1 hr
    have hnumber := hline _ _ _ r hl
    simp only [List.length_append, List.length_cons]
    omega
  have hbehind : ∀ c, onLine (n + before.length) (along head add c (n + before.length + 1) behind) = [] := by
    refine fun c => onLine_eq_nil fun r hr => ?_
    obtain ⟨between, l, below, rfl, hl⟩ := mem_along_iff.1 hr
    have hnumber := hline _ _ _ r hl
    omega
  have hown : ∀ c, onLine (n + before.length) (add c (n + before.length) line) = add c (n + before.length) line :=
    fun c => List.filter_eq_self.2 fun r hr => beq_iff_eq.2 (hline _ _ _ r hr)
  rw [along_append, along, onLine_append, onLine_append, hbefore, hbehind, hown, List.nil_append, List.append_nil]

end CallScan

/-! ## Labels -/

namespace Assembly

open CallScan SymbolEntry

/-- The label of the last of some lines whose label is the name of a listed symbol. -/
def IsLastLabel (entries : List (SymbolEntry ι)) (before : List (List Char)) (name : String) : Prop :=
  ∃ above line between, before = above ++ line :: between ∧ label? (code line) = some name ∧
    (∃ e ∈ entries, e.name = some (some name)) ∧
    ∀ l ∈ between, ∀ other, label? (code l) = some other → ∀ e ∈ entries, e.name ≠ some (some other)

variable {entries : List (SymbolEntry ι)} {found : List (KnownSymbol ι)}

theorem exists_name_iff (h : lookedUp entries = .ok found) {name : String} :
    (∃ y ∈ found, y.name = name) ↔ ∃ e ∈ entries, e.name = some (some name) := by
  constructor
  · rintro ⟨y, hy, rfl⟩
    obtain ⟨e, he, hname, -⟩ := (mem_lookedUp_iff h).1 hy
    exact ⟨e, he, hname⟩
  · rintro ⟨e, he, hname⟩
    have hknown : e.known.name = name := by simp [known, hname]
    exact ⟨e.known, (mem_lookedUp_iff h).2 ⟨e, he, by rw [hknown, hname], rfl⟩, hknown⟩

theorem isLastLabel_iff (h : lookedUp entries = .ok found) {before : List (List Char)} {name : String} :
    IsLastLabel entries before name ↔ enclosing? (knownLabel? found) before = some name := by
  have hnone : ∀ l, knownLabel? found l = none ↔
      ∀ other, label? (code l) = some other → ∀ e ∈ entries, e.name ≠ some (some other) := by
    intro l
    rw [Option.eq_none_iff_forall_ne_some]
    simp only [ne_eq, knownLabel?_eq_some_iff, exists_name_iff h, not_and, not_exists]
  simp only [IsLastLabel, enclosing?_eq_some_iff, knownLabel?_eq_some_iff, exists_name_iff h, hnone, and_assoc]

theorem line_of_mem_recordsOn {file : Option String} (caller : Option String) (n : Nat) (line : List Char) :
    ∀ r ∈ recordsOn found file caller n line, r.line = n := by
  intro r hr
  unfold recordsOn at hr
  split at hr
  · obtain ⟨callee, -, rfl⟩ := List.mem_map.1 hr
    exact CallRecord.ofName_line ..
  · cases hr

theorem fileCalls_eq_ok_iff {path : Option String} {t : List Char} {records : List (CallRecord ι)} :
    fileCalls .assembly path (some t) (some entries) = .ok records ↔
      ∃ found, lookedUp entries = .ok found ∧ calls found path t = records := by
  unfold fileCalls
  cases hfound : lookedUp entries <;> simp [bind, Except.bind, pure, Except.pure, givenText, hfound]

/-- The calls of assembly source are found exactly if every listed symbol has a name or null in its place. Each is put
down to the last label of a listed symbol above it and stands on a line without label; below such a label, a line
without label calls what the two patterns find in it, match by match, other than registers and the label itself. -/
theorem fileCalls_below_labels (path : Option String) (t : List Char) (entries : List (SymbolEntry ι)) :
    ((∃ records, fileCalls .assembly path (some t) (some entries) = .ok records) ↔ ∀ e ∈ entries, e.name ≠ none) ∧
    ∀ records, fileCalls .assembly path (some t) (some entries) = .ok records →
      (∀ r ∈ records, ∃ before line behind caller, Text.lines t = before ++ line :: behind ∧
        r.line = before.length + 1 ∧
        label? (code line) = none ∧ IsLastLabel entries before caller ∧ r.caller = some caller) ∧
      ∀ before line behind caller, Text.lines t = before ++ line :: behind → label? (code line) = none →
        IsLastLabel entries before caller →
        (CallRecord.onLine (before.length + 1) records).map (·.callee) =
          (lineCallees (code line)).filter fun callee => !registers.contains callee && callee != caller := by
  refine ⟨⟨?_, fun hnames => ?_⟩, fun records h => ?_⟩
  · rintro ⟨records, h⟩ e he
    obtain ⟨found, hfound, -⟩ := fileCalls_eq_ok_iff.1 h
    exact name_ne_none_of_lookedUp hfound he
  · have hfound : lookedUp entries = .ok ((entries.filter (!·.isNameless)).map known) :=
      mapM_eq_ok_map fun e he => symbol_eq_ok_iff.2 ⟨hnames e (List.mem_filter.1 he).1, rfl⟩
    exact ⟨_, fileCalls_eq_ok_iff.2 ⟨_, hfound, rfl⟩⟩
  · obtain ⟨found, hfound, rfl⟩ := fileCalls_eq_ok_iff.1 h
    constructor
    · intro r hr
      obtain ⟨before, line, behind, caller, ht, hlabel, hcaller, hr⟩ := mem_calls_iff.1 hr
      obtain ⟨callee, -, rfl⟩ := List.mem_map.1 hr
      refine ⟨before, line, behind, caller, ht, ?_, hlabel, (isLastLabel_iff hfound).2 hcaller,
        CallRecord.ofName_caller ..⟩
      simp [Int.add_comm]
    · intro before line behind caller ht hlabel hcaller
      have hline : CallRecord.onLine (1 + before.length)
            (along (knownLabel? found) (recordsOn found path) none 1 (before ++ line :: behind)) =
          recordsOn found path ((enclosing? (knownLabel? found) before).or none) (1 + before.length) line :=
        onLine_along line_of_mem_recordsOn none 1 before line behind
      rw [← ht, ← calls_eq_along, (isLastLabel_iff hfound).1 hcaller, Option.or_none] at hline
      simp only [recordsOn, hlabel] at hline
      rw [Nat.add_comm, hline]
      simp [lineCalls, Function.comp_def]

/-- A label that is no symbol stands between the one that is and a line with two calls and a comment. -/
def localLabel : List Char := "f:\n  call g\nloop:\n  bl h bl f BL g ; bl k\n".toList

def twoLabels : List (SymbolEntry Nat) :=
  ["f", "g"].map (fun name => ⟨some (some name), none, none, .missing, .missing⟩) ++
    [⟨some none, none, none, .missing, .missing⟩]

theorem fileCalls_below_labels_localLabel :
    ∃ records, fileCalls .assembly none (some localLabel) (some twoLabels) = .ok records ∧
      (CallRecord.onLine 4 records).map (·.callee) = ["h", "g"] ∧ ∀ r ∈ records, ∃ caller, r.caller = some caller := by
  obtain ⟨hfound, hbelow⟩ := fileCalls_below_labels none localLabel twoLabels
  obtain ⟨records, h⟩ := hfound.2 (by decide)
  obtain ⟨hrecords, hline⟩ := hbelow records h
  have hlast : IsLastLabel twoLabels ["f:".toList, "  call g".toList, "loop:".toList] "f" :=
    (isLastLabel_iff rfl).2 (by decide +kernel)
  refine ⟨records, h, ?_, fun r hr => ?_⟩
  · exact (hline _ "  bl h bl f BL g ; bl k".toList [[]] "f" (by decide +kernel) (by decide +kernel) hlast).trans
      (by decide +kernel)
  · obtain ⟨_, _, _, caller, -, -, -, -, hcaller⟩ := hrecords r hr
    exact ⟨caller, hcaller⟩

end Assembly

/-! ## Heads of paragraphs -/

namespace Cobol

open Pattern Text CallScan

/-- A name that begins with a letter or a digit and has hyphens between others, all in capitals. -/
def IsName (w : List Char) : Prop := ∃ c cs, w = c :: cs ∧ isNameStart c = true ∧ ∀ d ∈ cs, isNameChar d = true

theorem IsName.isNameChar {w : List Char} (h : IsName w) : ∀ c ∈ w, isNameChar c = true := by
  obtain ⟨c, cs, rfl, hc, hcs⟩ := h
  exact List.forall_mem_cons.2 ⟨by simp [Cobol.isNameChar, hc], hcs⟩

theorem spells_name : (one isNameStart ++ star isNameChar).Spells IsName := spells_one_star isNameStart isNameChar

theorem toNat_of_isNameChar {c : Char} (h : isNameChar c = true) : 0x2c < c.toNat ∧ c.toNat < 0x5b := by
  have hval : c.val.toNat = c.toNat := rfl
  have hcodes : isNameChar c =
      (decide (65 ≤ c.val ∧ c.val ≤ 90) || (decide (48 ≤ c.val) && decide (c.val ≤ 57)) || c == '-') := rfl
  rw [hcodes] at h
  simp only [Bool.or_eq_true, Bool.and_eq_true, decide_eq_true_eq, beq_iff_eq, UInt32.le_iff_toNat_le, hval,
    UInt32.reduceToNat] at h
  rcases h with (h | h) | rfl
  · omega
  · omega
  · decide

/-- A pattern with white space in it matches no text without. -/
theorem named?_eq_none (a b : Pattern) {u : List Char} (hu : ∀ c ∈ u, isBlank c = false) :
    named? (a ++ blanks1 ++ b) u = none := by
  rw [named?, Option.map_eq_none_iff, matchStart?, matchAt?_eq_none_iff]
  rintro d ⟨e, ⟨f, ha, hblanks⟩, -⟩
  obtain ⟨w, r, hw, ⟨hne, hall⟩, -⟩ := (spells_plus isBlank f e).1 hblanks
  obtain ⟨c, w, rfl⟩ := List.exists_cons_of_ne_nil hne
  have hmem : c ∈ u := ha.isSuffix.subset (by rw [hw]; simp)
  have hblank := hall c List.mem_cons_self
  rw [hu c hmem] at hblank
  cases hblank

theorem IsName.takeWhile_eq {name : List Char} (h : IsName name) (r : List Char) :
    (name ++ '.' :: r).takeWhile Cobol.isNameChar = name := by
  rw [List.takeWhile_append_of_pos h.isNameChar, List.takeWhile_cons_of_neg (by decide), List.append_nil]

theorem named?_paragraphPattern {name : List Char} (h : IsName name) :
    named? paragraphPattern (name ++ ['.']) = some (String.ofList name) := by
  have hsome : (paragraphPattern.matchStart? (name ++ ['.'])).isSome = true :=
    isSome_matchAt?_iff.2 ⟨_, _, ⟨_, ⟨_, spells_name.reaches_group_iff.2 ⟨name, ['.'], rfl, h, rfl⟩,
      (spells_lit "." _ _).2 ⟨['.'], [], rfl, rfl, rfl⟩⟩, (spells_star isBlank _ _).2 ⟨[], [], rfl, by simp,
      rfl⟩⟩, rfl, rfl⟩
  obtain ⟨d, hd⟩ := Option.isSome_iff_exists.1 hsome
  -- whatever way the match was found, the point ends the name
  obtain ⟨e, ⟨f, ⟨g, hgroup, hpoint⟩, hblanks⟩, -, rfl⟩ := reaches_of_matchAt? hd
  obtain ⟨w, r, hw, hname, rfl⟩ := spells_name.reaches_group_iff.1 hgroup
  obtain ⟨v, r', hv, rfl, rfl⟩ := (spells_lit "." _ _).1 hpoint
  obtain ⟨b, r'', -, -, rfl⟩ := (spells_star isBlank _ _).1 hblanks
  have hsame : name = w := by
    have htake := congrArg (List.takeWhile Cobol.isNameChar) hw
    obtain rfl : r = '.' :: r' := hv
    rwa [hname.takeWhile_eq, Cursor.atStart, h.takeWhile_eq] at htake
  rw [named?, hd, hsame]
  rfl

/-- A name with a point, alone on its line, is taken for a paragraph. -/
theorem lineSymbol?_of_strip {name line : List Char} (hline : strip (upper line) = name ++ ['.']) (h : IsName name)
    (hreserved : String.ofList name ∉ reserved) (n : Nat) :
    lineSymbol? n line = some (.onLine n (String.ofList name) .procedure (String.ofList name ++ ".")) := by
  have hblank : ∀ c ∈ name ++ ['.'], isBlank c = false := by
    intro c hc
    rcases List.mem_append.1 hc with hc | hc
    · have hcode := toNat_of_isNameChar (h.isNameChar c hc)
      simp only [isBlank, Bool.or_eq_false_iff, Bool.and_eq_false_iff, decide_eq_false_iff_not, beq_eq_false_iff_ne]
      omega
    · rw [List.mem_singleton.1 hc]
      decide
  have hstar : startsWith ['*'] (name ++ ['.']) = false := by
    obtain ⟨c, cs, rfl, hc, -⟩ := h
    have hne : c ≠ '*' := by
      rintro rfl
      cases hc
    rw [startsWith, Bool.eq_false_iff]
    exact fun hfits => hne (List.cons_prefix_cons.1 (List.isPrefixOf_iff_prefix.1 hfits)).1.symm
  have hprogram : named? programPattern (name ++ ['.']) = none := named?_eq_none _ _ hblank
  have hsection : named? sectionPattern (name ++ ['.']) = none := named?_eq_none _ _ hblank
  unfold lineSymbol?
  simp only [hline, hstar, hprogram, hsection, named?_paragraphPattern h]
  simp [Option.filter_some, hreserved]

/-- The reader finds every paragraph whose name stands alone on a line, in a text without carriage returns. -/
theorem exists_symbol_of_strip {t name line : List Char} (ht : '\r' ∉ t) (hmem : line ∈ lines (upper t))
    (hline : strip line = name ++ ['.']) (h : IsName name) (hreserved : String.ofList name ∉ reserved) :
    ∃ y ∈ symbols t, y.name = String.ofList name := by
  rw [lines_upper] at hmem
  obtain ⟨l, hl, rfl⟩ := List.mem_map.1 hmem
  obtain ⟨i, hi⟩ := List.mem_iff_getElem?.1 hl
  refine ⟨_, List.mem_filterMap.2 ⟨(l, i + 1), ?_, lineSymbol?_of_strip hline h hreserved (i + 1)⟩, rfl⟩
  rw [unifyNewlines_of_not_mem ht]
  exact List.mk_mem_zipIdx_iff_le_and_getElem?_sub.2 ⟨by omega, by simpa using hi⟩

/-! ### Records and heads -/

/-- The name at the head that stands last among some lines; comments are no heads. -/
def IsLastHead (before : List (List Char)) (name : String) : Prop :=
  ∃ above line between, before = above ++ line :: between ∧ isCommentLine line = false ∧
    (head? line).map String.ofList = some name ∧ ∀ l ∈ between, isCommentLine l = true ∨ head? l = none

/-- A line, neither comment nor head, performs or calls something in a paragraph. -/
structure CallsIn (caller : String) (line : List Char) : Prop where
  code : isCommentLine line = false
  body : head? line = none
  calls : performedNames caller line ≠ [] ∨ callPattern.findAll line ≠ []

def listed (ids : Symbol → Option ι) (y : Symbol) : SymbolEntry ι :=
  ⟨some (some y.name), some y.kind.code, ids y, .line y.lineStart, .line y.lineEnd⟩

theorem isLastHead_iff {symbols : List (KnownSymbol ι)} (hne : symbols ≠ []) {before : List (List Char)}
    {name : String} :
    IsLastHead before name ↔ enclosing? (paragraph? symbols) before = some name := by
  have hparagraph : ∀ line, paragraph? symbols line = if isCommentLine line then none else
      (head? line).map String.ofList := by
    intro line
    unfold paragraph?
    cases head? line <;> simp [Option.filter_some, startsParagraph, hne]
  have hsome : ∀ line, paragraph? symbols line = some name ↔
      isCommentLine line = false ∧ (head? line).map String.ofList = some name := by
    intro line
    rw [hparagraph]
    cases isCommentLine line <;> simp
  have hnone : ∀ line, paragraph? symbols line = none ↔ isCommentLine line = true ∨ head? line = none := by
    intro line
    rw [hparagraph]
    cases isCommentLine line <;> simp
  simp only [IsLastHead, enclosing?_eq_some_iff, hsome, hnone, and_assoc]

/-- In a text with symbols there is a record with a given caller exactly if a line calls something in the paragraph of
that name. -/
theorem exists_caller_eq_some_iff {symbols : List (KnownSymbol ι)} (hne : symbols ≠ []) {file : Option String}
    {t : List Char} {caller : String} : (∃ r ∈ calls symbols file t, r.caller = some caller) ↔
      ∃ before line behind, lines (upper t) = before ++ line :: behind ∧ IsLastHead before caller ∧
        CallsIn caller line := by
  constructor
  · rintro ⟨r, hr, hcaller⟩
    obtain ⟨before, line, behind, ht, hcode, hbody, ⟨c, hc, hr⟩ | hr⟩ := mem_calls_iff.1 hr
    · obtain ⟨callee, hcallee, rfl⟩ := List.mem_map.1 hr
      have hsame : some c = some caller := by rw [← hcaller, performRecord_caller]
      cases hsame
      exact ⟨before, line, behind, ht, (isLastHead_iff hne).2 hc, hcode, hbody, .inl (List.ne_nil_of_mem hcallee)⟩
    · obtain ⟨m, hm, rfl⟩ := List.mem_map.1 hr
      exact ⟨before, line, behind, ht, (isLastHead_iff hne).2 hcaller, hcode, hbody, .inr (List.ne_nil_of_mem hm)⟩
  · rintro ⟨before, line, behind, ht, hhead, hcode, hbody, hcalls⟩
    have hcaller := (isLastHead_iff hne).1 hhead
    rcases hcalls with hperforms | hprograms
    · obtain ⟨callee, hcallee⟩ := List.exists_mem_of_ne_nil _ hperforms
      refine ⟨_, mem_calls_iff.2 ⟨before, line, behind, ht, hcode, hbody,
        .inl ⟨caller, hcaller, List.mem_map_of_mem hcallee⟩⟩, ?_⟩
      exact performRecord_caller ..
    · obtain ⟨m, hm⟩ := List.exists_mem_of_ne_nil _ hprograms
      exact ⟨_, mem_calls_iff.2 ⟨before, line, behind, ht, hcode, hbody, .inr (List.mem_map_of_mem hm)⟩, hcaller⟩

/-- The analysis of COBOL source with the symbols that are read from it puts a call down to a name that is none of them
exactly if something is performed or called below a head, and before the next one, that has such a name. No such head
stands alone on its line with a name that a paragraph may have, if the text has no carriage returns. -/
theorem exists_unlisted_caller_iff (path : Option String) (t : List Char) (ids : Symbol → Option ι)
    (hne : symbols t ≠ []) :
    ∃ records, fileCalls .cobol path (some t) (some ((symbols t).map (listed ids))) = .ok records ∧
      ((∃ r ∈ records, ∃ caller, r.caller = some caller ∧ ∀ y ∈ symbols t, y.name ≠ caller) ↔
        ∃ before line behind name, lines (upper t) = before ++ line :: behind ∧ IsLastHead before name ∧
          CallsIn name line ∧
          ∀ y ∈ symbols t, y.name ≠ name) ∧
      ('\r' ∉ t → ∀ line ∈ lines (upper t), ∀ name, strip line = name ++ ['.'] → IsName name →
        String.ofList name ∉ reserved → ∃ y ∈ symbols t, y.name = String.ofList name) := by
  have hnamed : ∀ e ∈ (symbols t).map (listed ids), e.IsNamed := by
    intro e he
    obtain ⟨y, -, rfl⟩ := List.mem_map.1 he
    exact ⟨⟨y.name, rfl⟩, rfl⟩
  have hknown : ((symbols t).map (listed ids)).map SymbolEntry.known ≠ [] := by simpa using hne
  refine ⟨_, fileCalls_eq_ok hnamed (fun h => by cases h) (fun h => by cases h), ?_,
    fun ht line hmem name hline h hreserved => exists_symbol_of_strip ht hmem hline h hreserved⟩
  constructor
  · rintro ⟨r, hr, caller, hcaller, hnone⟩
    obtain ⟨before, line, behind, ht, hhead, hcalls⟩ := (exists_caller_eq_some_iff hknown).1 ⟨r, hr, hcaller⟩
    exact ⟨before, line, behind, caller, ht, hhead, hcalls, hnone⟩
  · rintro ⟨before, line, behind, name, ht, hhead, hcalls, hnone⟩
    obtain ⟨r, hr, hcaller⟩ := (exists_caller_eq_some_iff hknown).2 ⟨before, line, behind, ht, hhead, hcalls⟩
    exact ⟨r, hr, name, hcaller, hnone⟩

/-- A statement is ended within a paragraph by a point that stands apart. -/
def pointApart : List Char := "MAIN-LOGIC.\n    PERFORM STEP-ONE\n    END-IF .\n    PERFORM STEP-TWO\n".toList

theorem exists_unlisted_caller_iff_pointApart :
    ∃ records, fileCalls .cobol (some "a.cbl") (some pointApart)
        (some ((symbols pointApart).map (listed fun _ => (none : Option Nat)))) = .ok records ∧
      ∃ r ∈ records, ∃ caller, r.caller = some caller ∧ ∀ y ∈ symbols pointApart, y.name ≠ caller := by
  have hne : symbols pointApart ≠ [] := List.ne_nil_of_length_pos (by decide +kernel)
  obtain ⟨records, hrecords, hiff, -⟩ :=
    exists_unlisted_caller_iff (some "a.cbl") pointApart (fun _ => (none : Option Nat)) hne
  refine ⟨records, hrecords, hiff.2 ⟨["MAIN-LOGIC.".toList, "    PERFORM STEP-ONE".toList, "    END-IF .".toList],
    "    PERFORM STEP-TWO".toList, [[]], "END-IF", by decide +kernel, ?_,
    ⟨by decide +kernel, by decide +kernel, ?_⟩, ?_⟩⟩
  · exact ⟨["MAIN-LOGIC.".toList, "    PERFORM STEP-ONE".toList], "    END-IF .".toList, [], rfl, by decide +kernel,
      by decide +kernel, by simp⟩
  · exact .inl (by decide +kernel)
  · decide +kernel

end Cobol

end CodeSurvey
