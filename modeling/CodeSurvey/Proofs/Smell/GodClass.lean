/-
Classes with too much in them. The symbols are passed once, and a method counts for its class only if that has been
entered before; so a class is measured by the methods listed behind it (`foldlM_tallyStep`, `godClasses_eq`). Only where
no method comes before its class are these all of its methods, whatever the order (`tallies_of_classesFirst`).
-/
import CodeSurvey.Proofs.Fault
import CodeSurvey.Smell.Detect
import Mathlib.Data.List.Nodup

namespace CodeSurvey.Smell

namespace Subject

def isClass (s : Subject) : Bool := s.kind == "class"

def key (s : Subject) : String := (s.id.getD .null).display

/-- Is the symbol a method that names the class with the key as its own? -/
def belongsTo (key : String) (s : Subject) : Bool := s.isCallable && s.parent.any fun p => p.truthy && key == p.display

def methodsIn (c : Subject) (symbols : List Subject) : Nat := symbols.countP (belongsTo c.key)

def extent (s : Subject) : Int := s.lastLine.getD 0 - s.firstLine.getD 0

/-- A symbol with an identifier, and with lines that are numbers. -/
structure IsComplete (s : Subject) : Prop where
  id : s.id ≠ none
  firstLine : s.firstLine ≠ none
  lastLine : s.lastLine ≠ none

def IsFlagged (c : Subject) (findings : List SmellFinding) : Prop := ∃ f ∈ findings, f.symbolId = c.id.getD .null

theorem belongsTo_of_isClass {c : Subject} (h : c.isClass = true) (key : String) : c.belongsTo key = false := by
  have hkind : c.kind = "class" := beq_iff_eq.1 h
  have hcallable : c.isCallable = false := by
    rw [isCallable, hkind]
    decide
  rw [belongsTo, hcallable, Bool.false_and]

theorem IsComplete.span_eq {s : Subject} (h : s.IsComplete) : s.span = .ok s.extent := by
  obtain ⟨first, hfirst⟩ := Option.ne_none_iff_exists'.1 h.firstLine
  obtain ⟨last, hlast⟩ := Option.ne_none_iff_exists'.1 h.lastLine
  rw [span, extent, hfirst, hlast]
  rfl

end Subject

/-- The classes of a list, each with the number of its methods behind it. -/
def tallies : List Subject → List ClassTally
  | [] => []
  | s :: rest => if s.isClass then ⟨s.key, s, s.methodsIn rest⟩ :: tallies rest else tallies rest

/-- No method stands before its class. -/
def ClassesFirst (symbols : List Subject) : Prop :=
  symbols.Pairwise fun s c => c.isClass = true → s.belongsTo c.key = false

/-! ## The pass over the symbols -/

theorem enterClass_of_not_mem {tally : List ClassTally} {c : ClassTally} (h : c.key ∉ tally.map (·.key)) :
    enterClass tally c = tally ++ [c] := by
  unfold enterClass
  rw [if_neg]
  rw [List.any_eq_true]
  rintro ⟨d, hd, hkey⟩
  exact h (List.mem_map.2 ⟨d, hd, beq_iff_eq.1 hkey⟩)

theorem tallyStep_of_isClass {s : Subject} (hclass : s.isClass = true) (hid : s.id ≠ none) (tally : List ClassTally) :
    tallyStep tally s = .ok (enterClass tally ⟨s.key, s, 0⟩) := by
  obtain ⟨id, hid⟩ := Option.ne_none_iff_exists'.1 hid
  rw [tallyStep, if_pos (show (s.kind == "class") = true from hclass), Subject.key, hid]
  rfl

def ClassTally.gain (s : Subject) (c : ClassTally) : ClassTally :=
  if s.belongsTo c.key then { c with methods := c.methods + 1 } else c

theorem tallyStep_of_not_isClass {s : Subject} (hclass : ¬ s.isClass = true) (tally : List ClassTally) :
    tallyStep tally s = .ok (tally.map (·.gain s)) := by
  have hnone : (∀ key, s.belongsTo key = false) → tally.map (·.gain s) = tally := fun h => by simp [ClassTally.gain, h]
  rw [tallyStep, if_neg (show ¬ (s.kind == "class") = true from hclass)]
  by_cases hcallable : s.isCallable = true
  · rw [if_pos hcallable]
    cases hparent : s.parent with
    | none => rw [hnone fun key => by simp [Subject.belongsTo, hparent]]
    | some p =>
      by_cases hp : p.truthy = true
      · simp only [hp, if_true]
        refine congrArg _ (List.map_congr_left fun c _ => ?_)
        simp [ClassTally.gain, Subject.belongsTo, hcallable, hparent, hp]
      · rw [hnone fun key => by simp [Subject.belongsTo, hparent, hp]]
        simp [hp]
  · rw [if_neg hcallable, hnone fun key => by simp [Subject.belongsTo, hcallable]]

theorem map_key_tallies (symbols : List Subject) :
    (tallies symbols).map (·.key) = (symbols.filter (·.isClass)).map (·.key) := by
  induction symbols with
  | nil => rfl
  | cons s rest ih => by_cases hclass : s.isClass = true <;> simp [tallies, hclass, ih]

/-- The classes that have been entered gain their methods in the list, and its own classes follow, each with its methods
behind it. -/
theorem foldlM_tallyStep {symbols : List Subject} (hid : ∀ c ∈ symbols, c.isClass = true → c.id ≠ none)
    (tally : List ClassTally) (h : (tally.map (·.key) ++ (symbols.filter (·.isClass)).map (·.key)).Nodup) :
    symbols.foldlM tallyStep tally =
      .ok (tally.map (fun c => { c with methods := c.methods + symbols.countP (·.belongsTo c.key) }) ++
        tallies symbols) := by
  induction symbols generalizing tally with
  | nil => simp [tallies, pure, Except.pure]
  | cons s rest ih =>
    obtain ⟨hs, hrest⟩ := List.forall_mem_cons.1 hid
    rw [List.foldlM_cons]
    by_cases hclass : s.isClass = true
    · rw [List.filter_cons_of_pos hclass, List.map_cons] at h
      have hnew : s.key ∉ tally.map (·.key) := fun hmem => List.nodup_append.1 h |>.2.2 _ hmem _ (by simp) rfl
      rw [tallyStep_of_isClass hclass (hs hclass), enterClass_of_not_mem hnew]
      refine (ih hrest _ (by simpa using h)).trans ?_
      simp [tallies, hclass, Subject.belongsTo_of_isClass hclass, Subject.methodsIn]
    · rw [List.filter_cons_of_neg hclass] at h
      have hkeys : (tally.map (·.gain s)).map (·.key) = tally.map (·.key) := by
        rw [List.map_map]
        refine List.map_congr_left fun c _ => ?_
        simp only [Function.comp, ClassTally.gain]
        split <;> rfl
      rw [tallyStep_of_not_isClass hclass]
      refine (ih hrest _ (by rwa [hkeys])).trans ?_
      rw [List.map_map, tallies, if_neg hclass]
      refine congrArg (fun l => Except.ok (l ++ tallies rest)) (List.map_congr_left fun c _ => ?_)
      by_cases hc : s.belongsTo c.key = true <;> simp [ClassTally.gain, hc, Nat.add_assoc, Nat.add_comm 1]

theorem mem_tallies_iff {symbols : List Subject} {t : ClassTally} : t ∈ tallies symbols ↔
    ∃ front c back, symbols = front ++ c :: back ∧ c.isClass = true ∧ t = ⟨c.key, c, c.methodsIn back⟩ := by
  induction symbols with
  | nil => simp [tallies]
  | cons s rest ih =>
    have hmem : t ∈ tallies (s :: rest) ↔ s.isClass = true ∧ t = ⟨s.key, s, s.methodsIn rest⟩ ∨ t ∈ tallies rest := by
      by_cases hclass : s.isClass = true <;> simp [tallies, hclass]
    rw [hmem, ih]
    constructor
    · rintro (⟨hclass, rfl⟩ | ⟨front, c, back, rfl, hclass, rfl⟩)
      · exact ⟨[], s, rest, rfl, hclass, rfl⟩
      · exact ⟨s :: front, c, back, rfl, hclass, rfl⟩
    · rintro ⟨front, c, back, heq, hclass, rfl⟩
      cases front with
      | nil =>
        obtain ⟨rfl, rfl⟩ := List.cons.inj heq
        exact .inl ⟨hclass, rfl⟩
      | cons a front =>
        obtain ⟨rfl, rfl⟩ := List.cons.inj heq
        exact .inr ⟨front, c, back, rfl, hclass, rfl⟩

/-- Behind a class, where no method comes before its class, stand all of its methods. -/
theorem tallies_of_classesFirst {symbols : List Subject} (h : ClassesFirst symbols) :
    tallies symbols = (symbols.filter (·.isClass)).map fun c => ⟨c.key, c, c.methodsIn symbols⟩ := by
  induction symbols with
  | nil => rfl
  | cons s rest ih =>
    obtain ⟨hs, hrest⟩ := List.pairwise_cons.1 h
    have hlater : (rest.filter (·.isClass)).map (fun c => (⟨c.key, c, c.methodsIn rest⟩ : ClassTally)) =
        (rest.filter (·.isClass)).map fun c => ⟨c.key, c, c.methodsIn (s :: rest)⟩ := by
      refine List.map_congr_left fun c hc => ?_
      obtain ⟨hmem, hclass⟩ := List.mem_filter.1 hc
      simp [Subject.methodsIn, hs c hmem hclass]
    rw [tallies, ih hrest, hlater]
    by_cases hclass : s.isClass = true
    · simp [hclass, Subject.methodsIn, Subject.belongsTo_of_isClass hclass]
    · simp [hclass]

/-! ## The findings -/

def verdict (fileId : Json) (t : ClassTally) : Option SmellFinding := (godClass? fileId t).toOption.join

theorem godClass?_eq (fileId : Json) {t : ClassTally} (h : t.symbol.IsComplete) :
    godClass? fileId t = .ok (verdict fileId t) ∧
      ((verdict fileId t).isSome = true ↔ 20 < t.methods ∨ 500 < t.symbol.extent) ∧
      ∀ f ∈ verdict fileId t, f.symbolId = t.symbol.id.getD .null := by
  have hjudged : ∃ o : Option SmellFinding, godClass? fileId t = .ok o ∧
      (o.isSome = true ↔ 20 < t.methods ∨ 500 < t.symbol.extent) ∧ ∀ f ∈ o, f.symbolId = t.symbol.id.getD .null := by
    unfold godClass?
    simp only [h.span_eq, bind, Except.bind, pure, Except.pure, classMethodLimit, classLineLimit]
    have hlimits : (!decide (20 < (t.methods : Int)) && !decide (500 < t.symbol.extent)) = true ↔
        ¬ (20 < t.methods ∨ 500 < t.symbol.extent) := by
      rw [Bool.and_eq_true, Bool.not_eq_true', Bool.not_eq_true', decide_eq_false_iff_not, decide_eq_false_iff_not]
      omega
    by_cases hmuch : 20 < t.methods ∨ 500 < t.symbol.extent
    · refine ⟨some _, if_neg (fun hfew => hlimits.1 hfew hmuch), iff_of_true rfl hmuch, ?_⟩
      rintro f ⟨⟩
      rfl
    · exact ⟨none, if_pos (hlimits.2 hmuch), iff_of_false Bool.false_ne_true hmuch, by simp⟩
  obtain ⟨o, hok, hsome, hid⟩ := hjudged
  have hverdict : verdict fileId t = o := by
    rw [verdict, hok]
    rfl
  rw [hverdict]
  exact ⟨hok, hsome, hid⟩

section

variable {symbols : List Subject} (hcomplete : ∀ c ∈ symbols, c.isClass = true → c.IsComplete)
  (hdistinct : ((symbols.filter (·.isClass)).map (·.key)).Nodup) (fileId : Json)

include hcomplete hdistinct

theorem godClasses_eq : godClasses fileId symbols = .ok ((tallies symbols).filterMap (verdict fileId)) := by
  have hjudged : (tallies symbols).mapM (godClass? fileId) = .ok ((tallies symbols).map (verdict fileId)) := by
    refine mapM_eq_ok_map fun t ht => ?_
    obtain ⟨front, c, back, rfl, hclass, rfl⟩ := mem_tallies_iff.1 ht
    exact (godClass?_eq fileId (hcomplete c (by simp) hclass)).1
  unfold godClasses
  rw [foldlM_tallyStep (fun c hc hclass => (hcomplete c hc hclass).id) [] hdistinct]
  simp only [List.map_nil, List.nil_append, bind, Except.bind, hjudged, pure, Except.pure, List.filterMap_map]
  rfl

/-- A class is flagged by its lines and by the methods behind it. -/
theorem isFlagged_iff {front back : List Subject} {c : Subject} (hsplit : symbols = front ++ c :: back)
    (hclass : c.isClass = true) :
    c.IsFlagged ((tallies symbols).filterMap (verdict fileId)) ↔ 20 < c.methodsIn back ∨ 500 < c.extent := by
  have hmem : (⟨c.key, c, c.methodsIn back⟩ : ClassTally) ∈ tallies symbols :=
    mem_tallies_iff.2 ⟨front, c, back, hsplit, hclass, rfl⟩
  have hc : c ∈ symbols := by simp [hsplit]
  obtain ⟨-, hsome, hid⟩ := godClass?_eq fileId (t := ⟨c.key, c, c.methodsIn back⟩) (hcomplete c hc hclass)
  rw [← hsome, Option.isSome_iff_exists]
  constructor
  · rintro ⟨f, hf, hfid⟩
    obtain ⟨t, ht, hft⟩ := List.mem_filterMap.1 hf
    obtain ⟨front', c', back', hsplit', hclass', rfl⟩ := mem_tallies_iff.1 ht
    have hid' :=
      (godClass?_eq fileId (t := ⟨c'.key, c', c'.methodsIn back'⟩) (hcomplete c' (by simp [hsplit']) hclass')).2.2 f hft
    -- the finding names one class only, as the keys differ
    have hkey : c'.key = c.key := by rw [Subject.key, Subject.key, ← hid', hfid]
    have hnodup : ((tallies symbols).map (·.key)).Nodup := map_key_tallies symbols ▸ hdistinct
    exact ⟨f, List.inj_on_of_nodup_map hnodup ht hmem hkey ▸ hft⟩
  · rintro ⟨f, hf⟩
    exact ⟨f, List.mem_filterMap.2 ⟨_, hmem, hf⟩, hid f hf⟩

end

/-- Among symbols whose classes have distinct identifiers, a class is flagged exactly if it has more than 500 lines or
more than 20 methods behind it in the list. So the flagged classes are those with more than 500 lines or more than 20
methods in all exactly if no class has more than 20 in all, at most 20 behind it, and at most 500 lines. In two orders
of the symbols, in neither of which a method comes before its class, the findings are the same. -/
theorem godClasses_flags_by_methods_behind {symbols : List Subject}
    (hcomplete : ∀ c ∈ symbols, c.isClass = true → c.IsComplete)
    (hdistinct : ((symbols.filter (·.isClass)).map (·.key)).Nodup) (fileId : Json) :
    ∃ findings, godClasses fileId symbols = .ok findings ∧
      (∀ f ∈ findings, ∃ c ∈ symbols, c.isClass = true ∧ f.symbolId = c.id.getD .null) ∧
      (∀ front c back, symbols = front ++ c :: back → c.isClass = true →
        (c.IsFlagged findings ↔ 20 < c.methodsIn back ∨ 500 < c.extent)) ∧
      ((∀ c ∈ symbols, c.isClass = true → (c.IsFlagged findings ↔ 20 < c.methodsIn symbols ∨ 500 < c.extent)) ↔
        ¬ ∃ front c back, symbols = front ++ c :: back ∧ c.isClass = true ∧ c.methodsIn back ≤ 20 ∧
          20 < c.methodsIn symbols ∧
          c.extent ≤ 500) ∧
      ∀ symbols', symbols'.Perm symbols → ClassesFirst symbols → ClassesFirst symbols' →
        ∃ findings', godClasses fileId symbols' = .ok findings' ∧ findings'.Perm findings := by
  have hflag := @isFlagged_iff symbols hcomplete hdistinct fileId
  refine ⟨_, godClasses_eq hcomplete hdistinct fileId, ?_, fun front c back => hflag, ?_, ?_⟩
  · intro f hf
    obtain ⟨t, ht, hft⟩ := List.mem_filterMap.1 hf
    obtain ⟨front, c, back, rfl, hclass, rfl⟩ := mem_tallies_iff.1 ht
    exact ⟨c, by simp, hclass, (godClass?_eq fileId (t := ⟨c.key, c, _⟩) (hcomplete c (by simp) hclass)).2.2 f hft⟩
  · constructor
    · rintro hall ⟨front, c, back, hsplit, hclass, hback, hmany, hshort⟩
      have hflagged := (hall c (by simp [hsplit]) hclass).2 (.inl hmany)
      have hboth := (hflag hsplit hclass).1 hflagged
      omega
    · intro hnone c hc hclass
      obtain ⟨front, back, hsplit⟩ := List.append_of_mem hc
      have hle : c.methodsIn back ≤ c.methodsIn symbols := by
        rw [hsplit, Subject.methodsIn, Subject.methodsIn]
        exact List.Sublist.countP_le ((List.sublist_cons_self c back).trans (List.sublist_append_right front _))
      rw [hflag hsplit hclass]
      constructor
      · omega
      · intro hmany
        by_contra hfew
        exact hnone ⟨front, c, back, hsplit, hclass, by omega, by omega, by omega⟩
  · intro symbols' hperm hfirst hfirst'
    have hcomplete' : ∀ c ∈ symbols', c.isClass = true → c.IsComplete := fun c hc => hcomplete c (hperm.mem_iff.1 hc)
    have hdistinct' := ((hperm.filter (·.isClass)).map Subject.key).nodup_iff.2 hdistinct
    refine ⟨_, godClasses_eq hcomplete' hdistinct' fileId, ?_⟩
    have hcount : ∀ c : Subject, c.methodsIn symbols' = c.methodsIn symbols := fun c => hperm.countP_eq _
    rw [tallies_of_classesFirst hfirst, tallies_of_classesFirst hfirst']
    simp only [hcount]
    exact ((hperm.filter _).map _).filterMap _

/-- Twenty-one methods, and their class behind them. -/
def methodsFirst : List Subject :=
  List.replicate 21 ⟨"method", none, none, some (.str "c"), none, none, none, none⟩ ++
    [⟨"class", some (.str "C"), some (.str "c"), none, none, none, some (some 1), some (some 90)⟩]

/-- The class is not flagged, although it has more than twenty methods. -/
theorem godClasses_flags_by_methods_behind_methodsFirst :
    (∀ c ∈ methodsFirst, c.isClass = true → c.IsComplete) ∧ ((methodsFirst.filter (·.isClass)).map (·.key)).Nodup ∧
      ∃ findings, godClasses (.str "f") methodsFirst = .ok findings ∧
        ∃ c ∈ methodsFirst, c.isClass = true ∧ 20 < c.methodsIn methodsFirst ∧ ¬ c.IsFlagged findings := by
  have hcomplete : ∀ c ∈ methodsFirst, c.isClass = true → c.IsComplete := by
    intro c hc hclass
    rcases List.mem_append.1 hc with hc | hc
    · rw [List.eq_of_mem_replicate hc] at hclass
      cases hclass
    · rw [List.mem_singleton.1 hc]
      constructor <;> simp [Subject.firstLine, Subject.lastLine]
  have hdistinct : ((methodsFirst.filter (·.isClass)).map (·.key)).Nodup := by decide
  obtain ⟨findings, hfindings, -, hflag, -⟩ := godClasses_flags_by_methods_behind hcomplete hdistinct (.str "f")
  refine ⟨hcomplete, hdistinct, findings, hfindings, _, List.mem_append_right _ List.mem_cons_self, rfl, by decide, ?_⟩
  rw [hflag _ _ _ rfl rfl]
  decide

end CodeSurvey.Smell
