/-
Calls inside a file: the analysis of a language marks a call as external exactly if the called name stands for none of
the symbols of the file that it takes into account (`isExternal_eq_false_iff`). In Python and C these are the functions,
in assembly all symbols; in COBOL a performed name stands for a symbol of that name in capitals, and called programs are
always external.

The identifiers of a record are those of symbols of the file: the caller's, if there is one, of a symbol of the caller's
name (`exists_caller_of_mem_calls`), and the called symbol's unless the call is external (`callee_of_mem_calls`).
-/
import CodeSurvey.Calls.Basic
import CodeSurvey.Language
import Mathlib.Data.List.Basic
import Mathlib.Data.List.Induction

namespace CodeSurvey

variable {ι : Type} {lang : Language} {symbols known : List (KnownSymbol ι)} {file : Option String} {t : List Char}
  {r : CallRecord ι}

/-! ## Names and symbols -/

theorem KnownSymbol.named?_concat (symbols : List (KnownSymbol ι)) (y : KnownSymbol ι) (name : String) :
    named? (symbols ++ [y]) name = if y.name = name then some y else named? symbols name := by
  simp [named?]

theorem KnownSymbol.isSome_named?_iff (symbols : List (KnownSymbol ι)) (name : String) :
    (named? symbols name).isSome = true ↔ ∃ y ∈ symbols, y.name = name := by
  induction symbols using List.reverseRec with
  | nil => simp [named?]
  | append_singleton symbols y ih =>
    rw [named?_concat]
    by_cases hy : y.name = name
    · simp [hy]
    · simp [hy, ih]

theorem KnownSymbol.mem_of_named? {name : String} {y : KnownSymbol ι} (h : named? symbols name = some y) :
    y ∈ symbols ∧ y.name = name := by
  induction symbols using List.reverseRec with
  | nil => cases h
  | append_singleton symbols z ih =>
    rw [named?_concat] at h
    split at h
    · rename_i hname
      obtain rfl := Option.some.inj h
      exact ⟨by simp, hname⟩
    · exact ⟨List.mem_append_left _ (ih h).1, (ih h).2⟩

theorem KnownSymbol.functions_subset (symbols : List (KnownSymbol ι)) : functions symbols ⊆ symbols :=
  List.filter_subset_self symbols

theorem KnownSymbol.exists_of_named?_bind_id {name : String} {i : ι}
    (h : (named? symbols name).bind (·.id) = some i) : ∃ y ∈ symbols, y.name = name ∧ y.id = some i := by
  obtain ⟨y, hy, hid⟩ := Option.bind_eq_some_iff.1 h
  exact ⟨y, (mem_of_named? hy).1, (mem_of_named? hy).2, hid⟩

namespace CallRecord

section OfName

variable (known : List (KnownSymbol ι)) (file : Option String) (caller : String) (callerId : Option ι) (callee : String)
  (line : Int)

@[simp]
theorem ofName_caller : (ofName known file caller callerId callee line).caller = some caller := by
  unfold ofName; split <;> rfl

@[simp]
theorem ofName_callerFile : (ofName known file caller callerId callee line).callerFile = file := by
  unfold ofName; split <;> rfl

@[simp]
theorem ofName_callerId : (ofName known file caller callerId callee line).callerId = callerId := by
  unfold ofName; split <;> rfl

@[simp]
theorem ofName_callee : (ofName known file caller callerId callee line).callee = callee := by
  unfold ofName; split <;> rfl

@[simp]
theorem ofName_line : (ofName known file caller callerId callee line).line = line := by
  unfold ofName; split <;> rfl

theorem ofName_isExternal_eq_false_iff :
    (ofName known file caller callerId callee line).isExternal = false ↔ ∃ y ∈ known, y.name = callee := by
  rw [← KnownSymbol.isSome_named?_iff]
  unfold ofName
  split <;> simp [*]

/-- Either nothing is known of a called name, or it stands for one of the symbols of the file. -/
theorem ofName_callee_cases :
    ((ofName known file caller callerId callee line).isExternal = true ∧
      (ofName known file caller callerId callee line).calleeFile = none ∧
      (ofName known file caller callerId callee line).calleeId = none) ∨
    ((ofName known file caller callerId callee line).isExternal = false ∧
      (ofName known file caller callerId callee line).calleeFile = file ∧
      ∃ y ∈ known, y.name = callee ∧ (ofName known file caller callerId callee line).calleeId = y.id) := by
  unfold ofName
  split
  · rename_i y hy
    obtain ⟨hmem, hname⟩ := KnownSymbol.mem_of_named? hy
    exact .inr ⟨rfl, rfl, y, hmem, hname, rfl⟩
  · exact .inl ⟨rfl, rfl, rfl⟩

end OfName

/-- The record is that of a call by one of the given symbols of a file, and not of a call of itself. -/
def IsOfName (known : List (KnownSymbol ι)) (file : Option String) (r : CallRecord ι) : Prop :=
  ∃ y ∈ known, ∃ callee line, callee ≠ y.name ∧ r = .ofName known file y.name y.id callee line

theorem IsOfName.callerFile_eq (h : IsOfName known file r) : r.callerFile = file := by
  obtain ⟨y, -, callee, line, -, rfl⟩ := h
  simp

theorem IsOfName.isExternal_eq_false_iff (h : IsOfName known file r) :
    r.isExternal = false ↔ ∃ y ∈ known, y.name = r.callee := by
  obtain ⟨y, -, callee, line, -, rfl⟩ := h
  rw [ofName_isExternal_eq_false_iff, ofName_callee]

theorem IsOfName.exists_caller (h : IsOfName known file r) :
    ∃ y ∈ known, r.caller = some y.name ∧ r.callerId = y.id := by
  obtain ⟨y, hy, callee, line, -, rfl⟩ := h
  exact ⟨y, hy, by simp, by simp⟩

/-- An external call leads to no symbol and into no file; the called symbol of any other call is one of the given. -/
def CalleeAmong (known : List (KnownSymbol ι)) (r : CallRecord ι) : Prop :=
  r.isExternal = true ∧ r.calleeFile = none ∧ r.calleeId = none ∨ r.isExternal = false ∧ ∃ y ∈ known, r.calleeId = y.id

theorem CalleeAmong.mono {known more : List (KnownSymbol ι)} (h : CalleeAmong known r) (hsub : known ⊆ more) :
    CalleeAmong more r := by
  rcases h with h | ⟨hin, y, hy, hid⟩
  · exact .inl h
  · exact .inr ⟨hin, y, hsub hy, hid⟩

theorem IsOfName.calleeAmong (h : IsOfName known file r) : CalleeAmong known r := by
  obtain ⟨y, -, callee, line, -, rfl⟩ := h
  rcases ofName_callee_cases known file y.name y.id callee line with hout | ⟨hin, -, z, hz, -, hid⟩
  · exact .inl hout
  · exact .inr ⟨hin, z, hz, hid⟩

end CallRecord

/-! ## Calls by language -/

open CallRecord

theorem Python.isOfName_of_mem_calls (h : r ∈ Python.calls symbols file t) :
    IsOfName (KnownSymbol.functions symbols) file r := by
  unfold Python.calls at h
  split at h
  · obtain ⟨n, -, hr⟩ := List.mem_flatMap.1 h
    unfold Node.functionCalls at hr
    split at hr
    · split at hr
      · rename_i y hy
        obtain ⟨m, -, hm⟩ := List.mem_filterMap.1 hr
        unfold Node.callRecord? at hm
        split at hm
        · split at hm
          · cases hm
          · rename_i hother
            obtain ⟨hmem, rfl⟩ := KnownSymbol.mem_of_named? hy
            simp only [Bool.or_eq_true, beq_iff_eq, not_or] at hother
            exact ⟨y, hmem, _, _, hother.2, (Option.some.inj hm).symm⟩
        · cases hm
      · cases hr
    · cases hr
  · cases h

theorem C.exists_of_mem_functionCalls {ls : List (List Char)} {y : KnownSymbol ι}
    (h : r ∈ C.functionCalls known file ls y) :
    ∃ callee line, callee ≠ y.name ∧ r = .ofName known file y.name y.id callee line := by
  obtain ⟨⟨line, i⟩, -, hl⟩ := List.mem_flatMap.1 h
  obtain ⟨callee, hcallee, rfl⟩ := List.mem_map.1 hl
  simp only [List.mem_filter, Bool.and_eq_true, bne_iff_ne] at hcallee
  exact ⟨callee, _, hcallee.2.2, rfl⟩

theorem C.isOfName_of_mem_calls (h : r ∈ C.calls symbols file t) : IsOfName (KnownSymbol.functions symbols) file r := by
  obtain ⟨y, hknown, hy⟩ := List.mem_flatMap.1 h
  exact ⟨y, hknown, exists_of_mem_functionCalls hy⟩

/-! ## Walks through lines -/

namespace CallScan

/-- A step of a walk enters the symbol whose head stands on the line, and adds what the line calls in the symbol that it
is in. -/
structure Steps (step : CallScan ι → List Char × Nat → CallScan ι) (head : List Char → Option String)
    (add : Option String → Nat → List Char → List (CallRecord ι)) : Prop where
  caller : ∀ s line n, (step s (line, n)).caller = (head line).or s.caller
  found : ∀ s line n, (step s (line, n)).found = (add s.caller n line).reverse ++ s.found

/-- The symbol that the line behind some lines stands in: that of the last head among them. -/
def enclosing? (head : List Char → Option String) (before : List (List Char)) : Option String :=
  before.reverse.findSome? head

/-- What the lines from the `n`-th on call, if the first of them stands in the symbol `caller`. -/
def along (head : List Char → Option String) (add : Option String → Nat → List Char → List (CallRecord ι)) :
    (caller : Option String) → (n : Nat) → List (List Char) → List (CallRecord ι)
  | _, _, [] => []
  | caller, n, line :: ls => add caller n line ++ along head add ((head line).or caller) (n + 1) ls

variable {head : List Char → Option String} {add : Option String → Nat → List Char → List (CallRecord ι)}

theorem enclosing?_cons (line : List Char) (ls : List (List Char)) :
    enclosing? head (line :: ls) = (enclosing? head ls).or (head line) := by
  rw [enclosing?, List.reverse_cons, List.findSome?_append]
  cases h : head line <;> simp [enclosing?, h]

theorem enclosing?_eq_none_iff {before : List (List Char)} :
    enclosing? head before = none ↔ ∀ l ∈ before, head l = none := by
  simp [enclosing?]

/-- The last head, with nothing but other lines behind it. -/
theorem enclosing?_eq_some_iff {before : List (List Char)} {name : String} :
    enclosing? head before = some name ↔
      ∃ above line between, before = above ++ line :: between ∧ head line = some name ∧
        ∀ l ∈ between, head l = none := by
  rw [enclosing?, List.findSome?_eq_some_iff]
  constructor
  · rintro ⟨between, line, above, h, hline, hnone⟩
    refine ⟨above.reverse, line, between.reverse, ?_, hline, by simpa using hnone⟩
    simpa using congrArg List.reverse h
  · rintro ⟨above, line, between, rfl, hline, hnone⟩
    exact ⟨between.reverse, line, above.reverse, by simp, hline, by simpa using hnone⟩

theorem along_append (caller : Option String) (n : Nat) (ls ms : List (List Char)) :
    along head add caller n (ls ++ ms) =
      along head add caller n ls ++ along head add ((enclosing? head ls).or caller) (n + ls.length) ms := by
  induction ls generalizing caller n with
  | nil => rfl
  | cons line ls ih =>
    rw [List.cons_append, along, ih, along, List.append_assoc, enclosing?_cons, Option.or_assoc, List.length_cons,
      Nat.add_right_comm, ← Nat.add_assoc]

theorem mem_along_iff {caller : Option String} {n : Nat} {ls : List (List Char)} :
    r ∈ along head add caller n ls ↔ ∃ before line behind, ls = before ++ line :: behind ∧
      r ∈ add ((enclosing? head before).or caller) (n + before.length) line := by
  constructor
  · intro h
    induction ls generalizing caller n with
    | nil => cases h
    | cons line ls ih =>
      rcases List.mem_append.1 h with h | h
      · exact ⟨[], line, ls, rfl, h⟩
      · obtain ⟨before, l, behind, rfl, hr⟩ := ih h
        refine ⟨line :: before, l, behind, rfl, ?_⟩
        rwa [enclosing?_cons, Option.or_assoc, List.length_cons, Nat.add_comm before.length, ← Nat.add_assoc]
  · rintro ⟨before, line, behind, rfl, hr⟩
    rw [along_append, along]
    exact List.mem_append_right _ (List.mem_append_left _ hr)

theorem Steps.reverse_found {step : CallScan ι → List Char × Nat → CallScan ι} (h : Steps step head add)
    (ls : List (List Char)) (n : Nat) (s : CallScan ι) :
    ((ls.zipIdx n).foldl step s).found.reverse = s.found.reverse ++ along head add s.caller n ls := by
  induction ls generalizing n s with
  | nil => simp [along]
  | cons line ls ih => simp [ih, h.caller, h.found, along]

end CallScan

open CallScan

namespace Assembly

def knownLabel? (symbols : List (KnownSymbol ι)) (line : List Char) : Option String :=
  (label? (code line)).filter fun name => (KnownSymbol.named? symbols name).isSome

theorem knownLabel?_eq_some_iff {line : List Char} {name : String} :
    knownLabel? symbols line = some name ↔ label? (code line) = some name ∧ ∃ y ∈ symbols, y.name = name := by
  simp [knownLabel?, Option.filter_eq_some_iff, KnownSymbol.isSome_named?_iff]

def recordsOn (symbols : List (KnownSymbol ι)) (file caller : Option String) (n : Nat) (line : List Char) :
    List (CallRecord ι) :=
  match label? (code line), caller with
  | none, some caller => lineCalls symbols file caller n (code line)
  | _, _ => []

theorem steps_scanLine : Steps (scanLine symbols file) (knownLabel? symbols) (recordsOn symbols file) where
  caller s line n := by
    unfold scanLine knownLabel?
    dsimp only
    cases hlabel : label? (code line) with
    | none => cases hs : s.caller <;> simp [hs]
    | some name => cases hknown : (KnownSymbol.named? symbols name).isSome <;> simp [Option.filter_some, hknown]
  found s line n := by
    unfold scanLine recordsOn
    dsimp only
    cases hlabel : label? (code line) with
    | none => cases hs : s.caller <;> simp
    | some name => cases hknown : (KnownSymbol.named? symbols name).isSome <;> simp [hknown]

theorem calls_eq_along (t : List Char) :
    calls symbols file t = along (knownLabel? symbols) (recordsOn symbols file) none 1 (Text.lines t) := by
  rw [calls, steps_scanLine.reverse_found]; rfl

theorem mem_calls_iff :
    r ∈ calls symbols file t ↔ ∃ before line behind caller, Text.lines t = before ++ line :: behind ∧
    label? (code line) = none ∧ enclosing? (knownLabel? symbols) before = some caller ∧
    r ∈ lineCalls symbols file caller (1 + before.length) (code line) := by
  rw [calls_eq_along, mem_along_iff]
  constructor
  · rintro ⟨before, line, behind, ht, hr⟩
    rw [Option.or_none] at hr
    unfold recordsOn at hr
    split at hr
    · rename_i caller hlabel hcaller
      exact ⟨before, line, behind, caller, ht, hlabel, hcaller, hr⟩
    · cases hr
  · rintro ⟨before, line, behind, caller, ht, hlabel, hcaller, hr⟩
    refine ⟨before, line, behind, ht, ?_⟩
    rw [hcaller, Option.or_none]
    simpa only [recordsOn, hlabel] using hr

theorem isOfName_of_mem_calls (h : r ∈ calls symbols file t) : IsOfName symbols file r := by
  obtain ⟨before, line, behind, caller, -, -, hcaller, hr⟩ := mem_calls_iff.1 h
  obtain ⟨callee, hcallee, rfl⟩ := List.mem_map.1 hr
  obtain ⟨_, _, _, -, hlabel, -⟩ := enclosing?_eq_some_iff.1 hcaller
  obtain ⟨y, hy⟩ :=
    Option.isSome_iff_exists.1 ((KnownSymbol.isSome_named?_iff ..).2 (knownLabel?_eq_some_iff.1 hlabel).2)
  obtain ⟨hmem, rfl⟩ := KnownSymbol.mem_of_named? hy
  simp only [List.mem_filter, Bool.and_eq_true, bne_iff_ne] at hcallee
  exact ⟨y, hmem, callee, _, hcallee.2.2, by rw [hy]; rfl⟩

end Assembly

namespace Cobol

inductive IsOfLine (symbols : List (KnownSymbol ι)) (file : Option String) : CallRecord ι → Prop
  | performed (caller : String) (n : Nat) (name : String) :
    IsOfLine symbols file (performRecord symbols file caller n name)
  | program (caller : Option String) (name : String) (n : Nat) :
      IsOfLine symbols file ⟨caller, file, idOf symbols caller, name, none, none, n, true⟩

def IsPerformed (symbols : List (KnownSymbol ι)) (file : Option String) (r : CallRecord ι) : Prop :=
  ∃ caller n name, isKnown symbols name = true ∧ r = performRecord symbols file caller n name

theorem performRecord_caller (symbols : List (KnownSymbol ι)) (file : Option String) (caller : String) (n : Nat)
    (name : String) : (performRecord symbols file caller n name).caller = some caller := by
  unfold performRecord
  dsimp only
  split <;> rfl

theorem performRecord_callerFile (symbols : List (KnownSymbol ι)) (file : Option String) (caller : String) (n : Nat)
    (name : String) : (performRecord symbols file caller n name).callerFile = file := by
  unfold performRecord
  split <;> rfl

theorem performRecord_isExternal (symbols : List (KnownSymbol ι)) (file : Option String) (caller : String) (n : Nat)
    (name : String) : (performRecord symbols file caller n name).isExternal = !isKnown symbols name := by
  unfold performRecord isKnown
  cases performedSymbol? symbols name <;> rfl

theorem IsOfLine.callerFile_eq (h : IsOfLine symbols file r) : r.callerFile = file := by
  cases h with
  | performed => exact performRecord_callerFile ..
  | program => rfl

theorem IsOfLine.isExternal_eq_false_iff (h : IsOfLine symbols file r) :
    r.isExternal = false ↔ IsPerformed symbols file r := by
  constructor
  · intro hr
    cases h with
    | performed caller n name =>
      rw [performRecord_isExternal, Bool.not_eq_false'] at hr
      exact ⟨caller, n, name, hr, rfl⟩
    | program => cases hr
  · rintro ⟨caller, n, name, hk, rfl⟩
    rw [performRecord_isExternal, hk]; rfl

theorem IsOfLine.callerId_eq (h : IsOfLine symbols file r) : r.callerId = idOf symbols r.caller := by
  cases h with
  | performed =>
    unfold performRecord
    dsimp only
    split <;> rfl
  | program => rfl

theorem IsOfLine.exists_caller (h : IsOfLine symbols file r) {i : ι} (hi : r.callerId = some i) :
    ∃ y ∈ symbols, r.caller = some y.name ∧ y.id = some i := by
  rw [h.callerId_eq] at hi
  obtain ⟨name, hname, hid⟩ := Option.bind_eq_some_iff.1 hi
  obtain ⟨y, hy, rfl, hyid⟩ := KnownSymbol.exists_of_named?_bind_id hid
  exact ⟨y, hy, hname, hyid⟩

/-- A performed name has the identifier of the last symbol that is spelled like the one it stands for. -/
theorem IsOfLine.calleeAmong (h : IsOfLine symbols file r) : CalleeAmong symbols r := by
  cases h with
  | performed caller n name =>
    unfold performRecord
    dsimp only
    split
    · rename_i y hy
      have hknown := (KnownSymbol.isSome_named?_iff symbols y.name).2 ⟨y, List.mem_of_find?_eq_some hy, rfl⟩
      obtain ⟨z, hz⟩ := Option.isSome_iff_exists.1 hknown
      exact .inr ⟨rfl, z, (KnownSymbol.mem_of_named? hz).1, by simp [idOf, hz]⟩
    · exact .inl ⟨rfl, rfl, rfl⟩
  | program => exact .inl ⟨rfl, rfl, rfl⟩

def paragraph? (symbols : List (KnownSymbol ι)) (line : List Char) : Option String :=
  if isCommentLine line then none else ((head? line).filter (startsParagraph symbols)).map String.ofList

def recordsOn (symbols : List (KnownSymbol ι)) (file caller : Option String) (n : Nat) (line : List Char) :
    List (CallRecord ι) :=
  if isCommentLine line || (head? line).isSome then []
  else (caller.toList.flatMap fun caller => performs symbols file caller n line) ++
    programCalls symbols file caller n line

theorem steps_scanLine : Steps (scanLine symbols file) (paragraph? symbols) (recordsOn symbols file) where
  caller s line n := by
    unfold scanLine paragraph?
    dsimp only
    cases isCommentLine line with
    | true => simp
    | false =>
      cases hhead : head? line with
      | none => simp
      | some name => cases hstarts : startsParagraph symbols name <;> simp [Option.filter_some, hstarts]
  found s line n := by
    unfold scanLine recordsOn
    dsimp only
    cases isCommentLine line with
    | true => simp
    | false =>
      cases hhead : head? line with
      | none => cases s.caller <;> simp
      | some name => cases hstarts : startsParagraph symbols name <;> simp [hstarts]

/-- The calls of a text are those of its lines that are neither comments nor heads, each in the paragraph that began
last. -/
theorem mem_calls_iff :
    r ∈ calls symbols file t ↔ ∃ before line behind, Text.lines (Text.upper t) = before ++ line :: behind ∧
    isCommentLine line = false ∧ head? line = none ∧
    ((∃ caller, enclosing? (paragraph? symbols) before = some caller ∧
      r ∈ performs symbols file caller (1 + before.length) line) ∨
      r ∈ programCalls symbols file (enclosing? (paragraph? symbols) before) (1 + before.length) line) := by
  rw [calls, steps_scanLine.reverse_found, List.reverse_nil, List.nil_append, mem_along_iff]
  simp only [Option.or_none, recordsOn]
  constructor
  · rintro ⟨before, line, behind, ht, hr⟩
    split at hr
    · cases hr
    · rename_i hbody
      simp only [Bool.or_eq_true, not_or, Bool.not_eq_true, Option.isSome_eq_false_iff,
        Option.isNone_iff_eq_none] at hbody
      refine ⟨before, line, behind, ht, hbody.1, hbody.2, ?_⟩
      simpa using hr
  · rintro ⟨before, line, behind, ht, hcomment, hhead, hr⟩
    refine ⟨before, line, behind, ht, ?_⟩
    simpa [hcomment, hhead] using hr

theorem isOfLine_of_mem_calls (h : r ∈ Cobol.calls symbols file t) : IsOfLine symbols file r := by
  obtain ⟨before, line, behind, -, -, -, ⟨caller, -, hr⟩ | hr⟩ := mem_calls_iff.1 h
  · obtain ⟨name, -, rfl⟩ := List.mem_map.1 hr
    exact .performed ..
  · obtain ⟨m, -, rfl⟩ := List.mem_map.1 hr
    exact .program ..

end Cobol

namespace Language

/-- The calls that the analysis of a language finds in a text. -/
def calls (lang : Language) (symbols : List (KnownSymbol ι)) (file : Option String)
    (t : List Char) : List (CallRecord ι) :=
  match lang with
  | .python => Python.calls symbols file t
  | .c => C.calls symbols file t
  | .assembly => Assembly.calls symbols file t
  | .cobol => Cobol.calls symbols file t

/-- The called name of a record stands for a symbol of the file that the analysis of the language takes into account. -/
def CallsInside (lang : Language) (symbols : List (KnownSymbol ι)) (file : Option String) (r : CallRecord ι) : Prop :=
  match lang with
  | .python | .c => ∃ y ∈ KnownSymbol.functions symbols, y.name = r.callee
  | .assembly => ∃ y ∈ symbols, y.name = r.callee
  | .cobol => Cobol.IsPerformed symbols file r

theorem callerFile_of_mem_calls (h : r ∈ lang.calls symbols file t) : r.callerFile = file := by
  cases lang with
  | python => exact (Python.isOfName_of_mem_calls h).callerFile_eq
  | c => exact (C.isOfName_of_mem_calls h).callerFile_eq
  | assembly => exact (Assembly.isOfName_of_mem_calls h).callerFile_eq
  | cobol => exact (Cobol.isOfLine_of_mem_calls h).callerFile_eq

/-- A call is marked as inside the file exactly if the called name stands for one of its symbols. -/
theorem isExternal_eq_false_iff (h : r ∈ lang.calls symbols file t) :
    r.isExternal = false ↔ lang.CallsInside symbols file r := by
  cases lang with
  | python => exact (Python.isOfName_of_mem_calls h).isExternal_eq_false_iff
  | c => exact (C.isOfName_of_mem_calls h).isExternal_eq_false_iff
  | assembly => exact (Assembly.isOfName_of_mem_calls h).isExternal_eq_false_iff
  | cobol => exact (Cobol.isOfLine_of_mem_calls h).isExternal_eq_false_iff

theorem exists_caller_of_mem_calls (h : r ∈ lang.calls symbols file t) {i : ι} (hi : r.callerId = some i) :
    ∃ y ∈ symbols, r.caller = some y.name ∧ y.id = some i := by
  cases lang with
  | python =>
    obtain ⟨y, hy, hcaller, hid⟩ := (Python.isOfName_of_mem_calls h).exists_caller
    exact ⟨y, KnownSymbol.functions_subset symbols hy, hcaller, hid ▸ hi⟩
  | c =>
    obtain ⟨y, hy, hcaller, hid⟩ := (C.isOfName_of_mem_calls h).exists_caller
    exact ⟨y, KnownSymbol.functions_subset symbols hy, hcaller, hid ▸ hi⟩
  | assembly =>
    obtain ⟨y, hy, hcaller, hid⟩ := (Assembly.isOfName_of_mem_calls h).exists_caller
    exact ⟨y, hy, hcaller, hid ▸ hi⟩
  | cobol => exact (Cobol.isOfLine_of_mem_calls h).exists_caller hi

theorem callee_of_mem_calls (h : r ∈ lang.calls symbols file t) : CalleeAmong symbols r := by
  cases lang with
  | python => exact (Python.isOfName_of_mem_calls h).calleeAmong.mono (KnownSymbol.functions_subset symbols)
  | c => exact (C.isOfName_of_mem_calls h).calleeAmong.mono (KnownSymbol.functions_subset symbols)
  | assembly => exact (Assembly.isOfName_of_mem_calls h).calleeAmong
  | cobol => exact (Cobol.isOfLine_of_mem_calls h).calleeAmong

end Language

end CodeSurvey
