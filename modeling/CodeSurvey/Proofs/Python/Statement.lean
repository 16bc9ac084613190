/-
Statements on the lines of a source. Each definition that the parser finds stands on a later line than the ones found
before it (`definitionLines_pairwise_lt`): a definition begins with the first token of a logical line, or behind
decorators that end theirs, and what belongs to its body, or follows it, stands behind the end of a logical line.
-/
import CodeSurvey.Proofs.Python.Expression
import Mathlib.Data.List.Perm.Basic

namespace CodeSurvey.Python

/-! ## Lines between two places -/

/-- Definitions that begin between two places in the tokens: on rising lines of tokens, all before the lines of what is
behind the second place. -/
structure Spans (ts ts' : List Token) (found : List Nat) : Prop where
  suffix : ts' <:+ ts
  rising : found.Pairwise (· < ·)
  start : ∀ l ∈ found, ∃ t ∈ ts, t.line = l
  stop : ∀ l ∈ found, ∀ u ∈ ts', l < u.line

namespace Spans

variable {ts ts' ts'' : List Token} {found more : List Nat} {k l : Nat}

theorem nil (h : ts' <:+ ts) : Spans ts ts' [] :=
  ⟨h, List.Pairwise.nil, fun _ hl => absurd hl List.not_mem_nil, fun _ hl => absurd hl List.not_mem_nil⟩

theorem mono (h : Spans ts' ts'' found) (hts : ts' <:+ ts) : Spans ts ts'' found := by
  refine ⟨h.suffix.trans hts, h.rising, fun l hl => ?_, h.stop⟩
  obtain ⟨t, ht, htl⟩ := h.start l hl
  exact ⟨t, hts.subset ht, htl⟩

theorem trans (h : Spans ts ts' found) (h' : Spans ts' ts'' more) : Spans ts ts'' (found ++ more) := by
  refine ⟨h'.suffix.trans h.suffix, List.pairwise_append.2 ⟨h.rising, h'.rising, ?_⟩, ?_, ?_⟩
  · intro l hl m hm
    obtain ⟨u, hu, rfl⟩ := h'.start m hm
    exact h.stop l hl u hu
  · exact List.forall_mem_append.2 ⟨h.start, (h'.mono h.suffix).start⟩
  · exact List.forall_mem_append.2 ⟨fun l hl u hu => h.stop l hl u (h'.suffix.subset hu), h'.stop⟩

theorem tail (h : Spans ts ts' (l :: found)) : Spans ts ts' found :=
  ⟨h.suffix, h.rising.of_cons, fun m hm => h.start m (List.mem_cons_of_mem l hm),
    fun m hm => h.stop m (List.mem_cons_of_mem l hm)⟩

/-- What stands behind a line stands behind the lines before it. -/
theorem lower (h : Spans ts ts' (l :: found)) (hk : k ≤ l) (htoken : ∃ t ∈ ts, t.line = k) :
    Spans ts ts' (k :: found) := by
  obtain ⟨hbehind, hrising⟩ := List.pairwise_cons.1 h.rising
  refine ⟨h.suffix, List.pairwise_cons.2 ⟨fun m hm => Nat.lt_of_le_of_lt hk (hbehind m hm), hrising⟩, ?_, ?_⟩
  · exact List.forall_mem_cons.2 ⟨htoken, h.tail.start⟩
  · exact List.forall_mem_cons.2 ⟨fun u hu => Nat.lt_of_le_of_lt hk (h.stop l List.mem_cons_self u hu), h.tail.stop⟩

/-- What stands behind the end of a logical line stands behind its line. -/
theorem behind_newline {w : Token} (hlaid : IsLaid (w :: ts)) (hw : w.kind.isNewline = true) (h : Spans ts ts' found) :
    Spans (w :: ts) ts' (w.line :: found) := by
  obtain ⟨hbehind, -⟩ := List.pairwise_cons.1 hlaid
  have h' := h.mono (List.suffix_cons w ts)
  refine ⟨h'.suffix, List.pairwise_cons.2 ⟨fun m hm => ?_, h.rising⟩, ?_, ?_⟩
  · obtain ⟨u, hu, rfl⟩ := h.start m hm
    exact (hbehind u hu).lt hw
  · exact List.forall_mem_cons.2 ⟨⟨w, List.mem_cons_self, rfl⟩, h'.start⟩
  · exact List.forall_mem_cons.2 ⟨fun u hu => (hbehind u (h.suffix.subset hu)).lt hw, h'.stop⟩

end Spans

theorem IsLaid.suffix {ts ts' : List Token} (h : IsLaid ts) (hts : ts' <:+ ts) : IsLaid ts' := h.sublist hts.sublist

theorem IsLaid.head_le {t u : Token} {ts : List Token} (h : IsLaid (t :: ts)) (hu : u ∈ t :: ts) : t.line ≤ u.line := by
  rcases List.mem_cons.1 hu with rfl | hu
  · exact Nat.le_refl _
  · exact ((List.pairwise_cons.1 h).1 u hu).le

/-! ## Lines of trees -/

namespace Node

variable {n : Node} {ns : List Node} {l : Nat}

@[simp]
theorem definitionLines_mk {k : Kind} [hk : k.Plain] : (mk k l ns).definitionLines = ns.flatMap definitionLines := by
  rw [hk.lines_eq, linesOfAll_eq]

@[simp]
theorem definitionLines_definition {d : Definition} :
    (mk (.definition d) l ns).definitionLines = l :: ns.flatMap definitionLines := by
  rw [← linesOfAll_eq]
  rfl

@[simp]
theorem flatMap_flatten (nss : List (List Node)) :
    nss.flatten.flatMap definitionLines = nss.flatMap (·.flatMap definitionLines) := by
  rw [← List.flatMap_id, List.flatMap_assoc]
  rfl

@[simp]
theorem definitionLines_of_plain [h : Plain n] : n.definitionLines = [] := h.isPlain

@[simp]
theorem flatMap_definitionLines_of_plain [h : Plain ns] : ns.flatMap definitionLines = [] :=
  List.flatMap_eq_nil_iff.2 h.isPlain

end Node

/-! ## Parsers that find definitions -/

namespace Parser

variable {α β : Type}

structure Finds (p : Parser α) (lines : α → List Nat) : Prop where
  spans : ∀ {s a s'}, IsLaid s.tokens → p s = .ok (a, s') → Spans s.tokens s'.tokens (lines a)

/-- A parser that finds definitions on these lines, all behind the end of a logical line that it reads too. -/
structure Encloses (p : Parser α) (lines : α → List Nat) : Prop where
  spans : ∀ {s a s'}, IsLaid s.tokens → p s = .ok (a, s') → ∃ l, Spans s.tokens s'.tokens (l :: lines a)

/-- A parser that goes on where some definitions have been found since the place `ts`, and adds to them. -/
structure Adds (ts : List Token) (found : List Nat) (p : Parser α) (lines : α → List Nat) : Prop where
  spans : ∀ {s a s'}, Spans ts s.tokens found → p s = .ok (a, s') → Spans ts s'.tokens (lines a)

section Tokens

variable {s s' : ParseState} {t : Token}

theorem line_eq_ok {l : Nat} (h : line s = .ok (l, s')) : s' = s ∧ ∃ t ∈ s.tokens.head?, t.line = l := by
  obtain ⟨t, s₁, hpeek, hpure⟩ := bind_eq_ok_iff.1 h
  obtain ⟨rfl, ht⟩ := peek_eq_ok hpeek
  obtain ⟨rfl, rfl⟩ := pure_eq_ok_iff.1 hpure
  exact ⟨rfl, t, ht, rfl⟩

/-- The first token of a state is the one that is taken from it. -/
theorem discard_next_eq_ok {u : Unit} (ht : t ∈ s.tokens.head?) (h : discard next s = .ok (u, s')) :
    s.tokens = t :: s'.tokens := by
  obtain ⟨t', h⟩ := discard_eq_ok h
  rw [next_eq_ok h] at ht ⊢
  rw [Option.some.inj ht]

theorem newline_eq_ok {u : Unit} (h : newline s = .ok (u, s')) :
    ∃ w, w.kind.isNewline = true ∧ s.tokens = w :: s'.tokens := by
  obtain ⟨w, s₁, hpeek, hrest⟩ := bind_eq_ok_iff.1 h
  obtain ⟨rfl, hw⟩ := peek_eq_ok hpeek
  cases hkind : w.kind with
  | newline =>
    simp only [hkind] at hrest
    exact ⟨w, by rw [hkind]; rfl, discard_next_eq_ok hw hrest⟩
  | _ =>
    simp only [hkind] at hrest
    cases hrest

end Tokens

variable {p q : Parser α} {f : α → Parser β} {lines : α → List Nat} {lines' : β → List Nat}

variable {ts : List Token} {found : List Nat} {k : Nat}

namespace Finds

theorem adds (h : Finds p lines) (hts : IsLaid ts) : Adds ts found p fun a => found ++ lines a :=
  ⟨fun hs hp => hs.trans (h.spans (hts.suffix hs.suffix) hp)⟩

theorem of_adds (h : ∀ ts, IsLaid ts → Adds ts [] p lines) : Finds p lines :=
  ⟨fun hlaid hp => (h _ hlaid).spans (Spans.nil (List.suffix_refl _)) hp⟩

theorem of_readsPlain [ParseResult α] (hp : ReadsPlain p) (h : ∀ a, Plain a → lines a = []) : Finds p lines := by
  constructor
  intro s a s' _ hps
  obtain ⟨hsuffix, hplain⟩ := hp.reads hps
  rw [h a hplain]
  exact Spans.nil hsuffix

theorem deeper (h : Finds p lines) : Finds (Parser.deeper k p) lines := by
  constructor
  intro s a s' hlaid hp
  obtain ⟨s₁, s₂, hp, hs, hs'⟩ := deeper_eq_ok hp
  rw [← hs] at hlaid ⊢
  rw [← hs']
  exact h.spans hlaid hp

theorem orElse (hp : Finds p lines) (hq : Finds q lines) : Finds (p <|> q) lines := by
  constructor
  intro s a s' hlaid h
  rcases orElse_eq_ok h with h | h
  · exact hp.spans hlaid h
  · exact hq.spans hlaid h

theorem many (h : Finds p lines) : Finds (Parser.many p) (·.flatMap lines) := by
  constructor
  intro s as s' hlaid hmany
  refine many_induction (R := fun as s' => Spans s.tokens s'.tokens (as.flatMap lines)) ?_
    (Spans.nil (List.suffix_refl _)) hmany
  intro as s₁ a s₂ hs hp
  rw [List.flatMap_append, List.flatMap_singleton]
  exact (h.adds hlaid).spans hs hp

end Finds

namespace Adds

theorem bind (hp : Adds ts found p lines) (hf : ∀ a, Adds ts (lines a) (f a) lines') :
    Adds ts found (p >>= f) lines' := by
  constructor
  intro s b s'' hs h
  obtain ⟨a, s', ha, hb⟩ := bind_eq_ok_iff.1 h
  exact (hf a).spans (hp.spans hs ha) hb

theorem bind_plain [ParseResult α] [hp : ReadsPlain p] (hf : ∀ a, Plain a → Adds ts found (f a) lines') :
    Adds ts found (p >>= f) lines' := by
  constructor
  intro s b s'' hs h
  obtain ⟨a, s', ha, hb⟩ := bind_eq_ok_iff.1 h
  obtain ⟨hsuffix, hplain⟩ := hp.reads ha
  refine (hf a hplain).spans ?_ hb
  exact ⟨hsuffix.trans hs.suffix, hs.rising, hs.start, fun l hl u hu => hs.stop l hl u (hsuffix.subset hu)⟩

theorem pure {a : α} (h : lines a = found) : Adds ts found (pure a) lines := by
  constructor
  intro s b s' hs hpure
  obtain ⟨rfl, rfl⟩ := pure_eq_ok_iff.1 hpure
  rwa [h]

theorem failure : Adds ts found (failure : Parser α) lines := by
  constructor
  intro s a s' _ h
  cases h

end Adds

theorem Finds.many1 (h : Finds p lines) : Finds (Parser.many1 p) (·.flatMap lines) := by
  refine of_adds fun ts hts => (h.adds hts).bind fun a => (h.many.adds hts).bind fun as => .pure ?_
  rw [List.flatMap_cons, List.nil_append]

theorem Finds.single {p : Parser Node} (h : Finds p Node.definitionLines) :
    Finds (do return [← p]) (·.flatMap Node.definitionLines) :=
  .of_adds fun _ hts => .bind (h.adds hts) fun n => .pure (by simp)

namespace Encloses

theorem finds (h : Encloses p lines) : Finds p lines := by
  constructor
  intro s a s' hlaid hp
  obtain ⟨l, hspans⟩ := h.spans hlaid hp
  exact hspans.tail

theorem deeper (h : Encloses p lines) : Encloses (Parser.deeper k p) lines := by
  constructor
  intro s a s' hlaid hp
  obtain ⟨s₁, s₂, hp, hs, hs'⟩ := deeper_eq_ok hp
  rw [← hs] at hlaid ⊢
  rw [← hs']
  exact h.spans hlaid hp

theorem bind_plain [ParseResult α] [hp : ReadsPlain p] (hf : ∀ a, Plain a → Encloses (f a) lines') :
    Encloses (p >>= f) lines' := by
  constructor
  intro s b s'' hlaid h
  obtain ⟨a, s', ha, hb⟩ := bind_eq_ok_iff.1 h
  obtain ⟨hsuffix, hplain⟩ := hp.reads ha
  obtain ⟨l, hspans⟩ := (hf a hplain).spans (hlaid.suffix hsuffix) hb
  exact ⟨l, hspans.mono hsuffix⟩

/-- What is read behind the end of a logical line is behind that line. -/
theorem behind_newline {p : Parser β} (hp : Finds p lines') : Encloses (do newline; p) lines' := by
  constructor
  intro s b s'' hlaid h
  obtain ⟨u, s', hnewline, hb⟩ := bind_eq_ok_iff.1 h
  obtain ⟨w, hw, htokens⟩ := newline_eq_ok hnewline
  rw [htokens] at hlaid ⊢
  exact ⟨w.line, Spans.behind_newline hlaid hw (hp.spans hlaid.of_cons hb)⟩

end Encloses

/-- A parser that begins with looking at the line of the first token. -/
theorem Finds.of_line {f : Nat → Parser β} (hf : ∀ t ts, IsLaid (t :: ts) → Adds (t :: ts) [] (f t.line) lines') :
    Finds (line >>= f) lines' := by
  constructor
  intro s b s'' hlaid h
  obtain ⟨l, s', hline, hb⟩ := bind_eq_ok_iff.1 h
  obtain ⟨rfl, t, ht, rfl⟩ := line_eq_ok hline
  obtain ⟨ts, htokens⟩ := List.head?_eq_some_iff.1 ht
  rw [htokens] at hlaid ⊢
  exact (hf t ts hlaid).spans (Spans.nil (htokens ▸ List.suffix_refl _)) hb

/-- What begins with the first token and has a part behind the end of a logical line stands on the line of its first
token, before that part and what follows. -/
theorem Adds.bind_encloses {t : Token} (hts : IsLaid (t :: ts)) (hp : Encloses p lines)
    (hf : ∀ a, Adds (t :: ts) (t.line :: lines a) (f a) lines') : Adds (t :: ts) [] (p >>= f) lines' := by
  constructor
  intro s b s'' hs h
  obtain ⟨a, s', ha, hb⟩ := bind_eq_ok_iff.1 h
  obtain ⟨l, hspans⟩ := hp.spans (hts.suffix hs.suffix) ha
  have hspans := hspans.mono hs.suffix
  obtain ⟨u, hu, rfl⟩ := hspans.start l List.mem_cons_self
  exact (hf a).spans (hspans.lower (hts.head_le hu) ⟨t, List.mem_cons_self, rfl⟩) hb

end Parser

/-! ## Compound statements -/

namespace Below

open CodeSurvey.Python.Parser CodeSurvey.Python.Node

/-- The rules find definitions in statements and blocks only, and those of a block are behind the line before it. -/
class FindsDefinitions (g : Below) : Prop extends FindsPlain g where
  statement : Finds (g .statement) (·.flatMap definitionLines)
  block : Encloses (g .block) (·.flatMap definitionLines)

variable {g : Below} [hg : FindsDefinitions g]

theorem finds_simpleStatements : Finds g.simpleStatements (·.flatMap definitionLines) :=
  .of_readsPlain inferInstance fun _ _ => flatMap_definitionLines_of_plain

theorem encloses_simpleStatements : Encloses g.simpleStatements (·.flatMap definitionLines) := by
  unfold simpleStatements
  refine .deeper (.bind_plain fun first _ => .bind_plain fun more _ => .bind_plain fun _ _ => .behind_newline ?_)
  exact .of_readsPlain (inferInstanceAs (ReadsPlain (pure (first :: more)))) fun _ _ => flatMap_definitionLines_of_plain

theorem encloses_fullBlock : Encloses g.fullBlock (·.flatMap definitionLines) := by
  unfold fullBlock
  refine .deeper ⟨fun {s ns s'} hlaid h => ?_⟩
  obtain ⟨w, s₁, hpeek, hrest⟩ := Parser.bind_eq_ok_iff.1 h
  obtain ⟨rfl, hw⟩ := peek_eq_ok hpeek
  cases hkind : w.kind with
  | newline =>
    -- an indented block stands behind the end of the line, which is its first token
    simp only [hkind] at hrest
    obtain ⟨_, s₂, hnext, hbody⟩ := Parser.bind_eq_ok_iff.1 hrest
    have htokens := discard_next_eq_ok hw hnext
    rw [htokens] at hlaid ⊢
    refine ⟨w.line, Spans.behind_newline hlaid (by rw [hkind]; rfl) ?_⟩
    refine Finds.spans (.of_adds fun ts hts => ?_) hlaid.of_cons hbody
    refine .bind_plain fun t _ => ?_
    split
    · refine .bind (hg.statement.many1.deeper.adds hts) fun body => .bind_plain fun u _ => ?_
      split
      · exact .pure (by simp)
      · exact .failure
    · exact .failure
  | _ =>
    simp only [hkind] at hrest
    exact encloses_simpleStatements.spans hlaid hrest

theorem encloses_suite : Encloses g.suite (·.flatMap definitionLines) := by
  unfold suite
  exact .bind_plain fun _ _ => hg.block

theorem finds_functionDefinition {decorators : List Node} [Plain decorators] :
    Finds (g.functionDefinition decorators) definitionLines := by
  unfold functionDefinition
  -- up to the body no definition is found, and the body ends the line on which the definition begins
  refine .deeper (.of_line fun t ts hts => ?_)
  refine .bind_plain fun isAsync _ => .bind_plain fun _ _ => .bind_plain fun s _ => .bind_plain fun _ _ => ?_
  refine .bind_plain fun ⟨params, node⟩ hpair => .bind_plain fun _ _ => .bind_plain fun hasResult _ => ?_
  obtain ⟨-, hnode⟩ := plain_mk_iff.1 hpair
  extract_lets behind
  have hbehind : ∀ result : List Node, Plain result → Adds (t :: ts) [] (behind result) definitionLines :=
    fun result _ => .bind_encloses hts encloses_suite fun body => .bind_plain fun _ _ => .pure (by simp)
  split
  · exact .bind_plain fun e _ => .bind_plain hbehind
  · exact .bind_plain hbehind

theorem finds_classDefinition {decorators : List Node} [Plain decorators] :
    Finds (g.classDefinition decorators) definitionLines := by
  unfold classDefinition
  refine .deeper (.of_line fun t ts hts => ?_)
  refine .bind_plain fun _ _ => .bind_plain fun s _ => .bind_plain fun hasBases _ => ?_
  extract_lets behind
  have hbehind : ∀ bases : List Node, Plain bases → Adds (t :: ts) [] (behind bases) definitionLines :=
    fun bases _ => .bind_encloses hts encloses_suite fun body => .bind_plain fun _ _ => .pure (by simp)
  split <;> exact .bind_plain hbehind

theorem finds_decorated : Finds g.decorated definitionLines := by
  unfold decorated
  refine .of_adds fun ts hts => .bind_plain fun ds _ => .bind_plain fun isClass _ => ?_
  split
  · exact finds_classDefinition.adds hts
  · exact finds_functionDefinition.adds hts

theorem finds_optionalBlock {k : String} : Finds (g.optionalBlock k) (·.flatMap definitionLines) := by
  unfold optionalBlock
  refine .of_adds fun ts hts => .bind_plain fun isThere _ => ?_
  split
  · exact encloses_suite.finds.deeper.adds hts
  · exact .pure rfl

/-- The lines of the definitions in a condition and the body under it. -/
def branchLines (branch : Nat × Node × List Node) : List Nat :=
  branch.2.1.definitionLines ++ branch.2.2.flatMap definitionLines

theorem flatMap_definitionLines_nested (others : List (Nat × Node × List Node)) (otherwise : List Node) :
    (others.foldr (fun (l, test, body) rest => [mk .statement l (test :: body ++ rest)]) otherwise).flatMap
      definitionLines =
      others.flatMap branchLines ++ otherwise.flatMap definitionLines := by
  induction others with
  | nil => rfl
  | cons branch others ih =>
    rw [List.foldr_cons, List.flatMap_singleton, definitionLines_mk, List.flatMap_append, ih]
    simp [branchLines]

theorem finds_conditional {l : Nat} : Finds g.conditional fun n => (mk n.kind l n.children).definitionLines := by
  unfold conditional
  refine .of_adds fun ts hts => .bind_plain fun l _ => .bind_plain fun test _ => ?_
  refine .bind (encloses_suite.finds.adds hts) fun body => .bind_plain fun _ _ => ?_
  refine .bind ((Finds.many (show Finds _ branchLines from .of_adds fun ts hts => ?_)).adds hts) fun others => ?_
  · refine .bind_plain fun l _ => .bind_plain fun _ _ => ?_
    refine .bind_plain fun _ _ => .bind_plain fun test _ => .bind (encloses_suite.finds.adds hts) fun body => ?_
    exact .pure (by simp [branchLines])
  · refine .bind (finds_optionalBlock.adds hts) fun otherwise => .bind_plain fun _ _ => .pure ?_
    rw [Node.kind, Node.children, definitionLines_mk, List.flatMap_append, flatMap_definitionLines_nested]
    simp

theorem finds_withStatement {l : Nat} : Finds (g.withStatement l) definitionLines := by
  unfold withStatement
  refine .of_adds fun ts hts => .bind_plain fun items _ => .bind (encloses_suite.finds.adds hts) fun body => ?_
  exact .pure (by simp)

theorem finds_forStatement {l : Nat} : Finds (g.forStatement l) definitionLines := by
  unfold forStatement
  refine .of_adds fun ts hts => .bind_plain fun t _ => .bind_plain fun _ _ => .bind_plain fun e _ => ?_
  refine .bind (encloses_suite.finds.adds hts) fun body => .bind (finds_optionalBlock.adds hts) fun otherwise => ?_
  exact .pure (by simp)

theorem finds_whileStatement {l : Nat} : Finds (g.whileStatement l) definitionLines := by
  unfold whileStatement
  refine .of_adds fun ts hts => .bind_plain fun test _ => ?_
  refine .bind (encloses_suite.finds.adds hts) fun body => .bind (finds_optionalBlock.adds hts) fun otherwise => ?_
  exact .pure (by simp)

theorem finds_handler {star : Bool} : Finds (g.handler star) definitionLines := by
  unfold handler
  refine .deeper (.of_adds fun ts hts => .bind_plain fun l _ => .bind_plain fun _ _ => ?_)
  extract_lets behind body
  have hbehind : ∀ caught : List Node, Plain caught → Adds ts [] (behind caught) definitionLines :=
    fun caught _ => .bind (encloses_suite.finds.adds hts) fun body => .pure (by simp)
  have hbody : Adds ts [] (body ()) definitionLines := by
    refine .bind_plain fun isBare _ => ?_
    split
    · exact .bind_plain hbehind
    · exact .bind_plain fun e _ => .bind_plain fun _ _ => .bind_plain hbehind
  split
  · exact .bind_plain fun _ _ => hbody
  · exact hbody

theorem finds_tryStatement {l : Nat} : Finds (g.tryStatement l) definitionLines := by
  unfold tryStatement
  refine .of_adds fun ts hts => .bind (encloses_suite.finds.adds hts) fun body => .bind_plain fun final _ => ?_
  split
  · exact .bind (encloses_suite.finds.deeper.adds hts) fun last => .pure (by simp)
  · refine .bind ((finds_handler.many1.orElse finds_handler.many1).adds hts) fun handlers => ?_
    refine .bind (finds_optionalBlock.adds hts) fun otherwise => .bind (finds_optionalBlock.adds hts) fun last => ?_
    exact .bind_plain fun _ _ => .pure (by simp)

theorem finds_caseBlock : Finds g.caseBlock definitionLines := by
  unfold caseBlock
  refine .deeper (.of_adds fun ts hts => .bind_plain fun l _ => .bind_plain fun _ _ => .bind_plain fun p _ => ?_)
  refine .bind_plain fun isGuarded _ => ?_
  extract_lets behind
  have hbehind : ∀ guarded : List Node, Plain guarded → Adds ts [] (behind guarded) definitionLines :=
    fun guarded _ => .bind (encloses_suite.finds.adds hts) fun body => .pure (by simp)
  split
  · exact .bind_plain fun e _ => .bind_plain hbehind
  · exact .bind_plain hbehind

theorem finds_matchStatement : Finds g.matchStatement definitionLines := by
  unfold matchStatement
  refine .deeper (.of_adds fun ts hts => .bind_plain fun l _ => .bind_plain fun _ _ => ?_)
  refine .bind_plain fun l' _ => .bind_plain fun first _ => ?_
  extract_lets starred behind tuple
  have hbehind : ∀ subject : Node, Plain subject → Adds ts [] (behind subject) definitionLines := by
    refine fun subject _ => .bind_plain fun _ _ => .bind_plain fun _ _ => .bind_plain fun t _ => ?_
    split
    · refine .bind (finds_caseBlock.many1.adds hts) fun cases => .bind_plain fun u _ => ?_
      split
      · exact .pure (by simp)
      · exact .failure
    · exact .failure
  refine .bind_plain fun isTuple _ => ?_
  split
  · refine .bind_plain fun isLast _ => ?_
    split
    · exact .bind_plain fun more _ => .bind_plain hbehind
    · exact .bind_plain fun items _ => .bind_plain fun more _ => .bind_plain hbehind
  · exact .bind_plain fun _ _ => .bind_plain hbehind

theorem finds_fullStatement : Finds g.fullStatement (·.flatMap definitionLines) := by
  unfold fullStatement
  refine .deeper (.of_adds fun ts hts => .bind_plain fun l _ => .bind_plain fun t _ => ?_)
  split
  · split
    · exact finds_functionDefinition.single.adds hts
    · exact finds_classDefinition.single.adds hts
    · have hloop : Finds (do
          keyword "async"
          if ← tryKeyword "for" then g.forStatement l
          else
            keyword "with"
            g.withStatement l) definitionLines := by
        refine .of_adds fun ts hts => .bind_plain fun _ _ => .bind_plain fun isFor _ => ?_
        split
        · exact finds_forStatement.adds hts
        · exact .bind_plain fun _ _ => finds_withStatement.adds hts
      exact (finds_functionDefinition.orElse hloop.deeper).single.adds hts
    · exact .bind_plain fun _ _ => .bind ((finds_conditional (l := l)).deeper.adds hts) fun n => .pure (by simp)
    · exact .bind_plain fun _ _ => finds_withStatement.deeper.single.adds hts
    · exact .bind_plain fun _ _ => finds_forStatement.deeper.single.adds hts
    · exact .bind_plain fun _ _ => finds_tryStatement.deeper.single.adds hts
    · exact .bind_plain fun _ _ => finds_whileStatement.deeper.single.adds hts
    · exact finds_simpleStatements.adds hts
  · exact finds_decorated.single.adds hts
  · exact (finds_matchStatement.single.orElse finds_simpleStatements).adds hts
  · exact finds_simpleStatements.adds hts

end Below

/-! ## Files -/

open CodeSurvey.Python.Below

instance {fuel : Nat} : FindsDefinitions (rules fuel) := by
  induction fuel with
  | zero => exact { statement := ⟨fun _ h => nomatch h⟩, block := ⟨fun _ h => nomatch h⟩ }
  | succ fuel ih => exact { statement := finds_fullStatement, block := encloses_fullBlock }

theorem finds_file {g : Below} [hg : FindsDefinitions g] : Parser.Finds (file g) (·.flatMap Node.definitionLines) := by
  unfold file
  refine .of_adds fun ts hts => .bind (hg.statement.many.deeper.adds hts) fun body => .bind_plain fun t _ => ?_
  split
  · exact .pure (by simp)
  · exact .failure

/-- Each definition of a program stands on a later line than those before it. -/
theorem definitionLines_pairwise_lt {t : List Char} {tree : Node} (h : parse t = .ok tree) :
    tree.definitionLines.Pairwise (· < ·) := by
  unfold parse at h
  split at h
  · cases h
  · next ts htokens =>
    split at h
    · cases h
    · cases h
    · next body s hfile =>
      dsimp only at h
      split at h
      · cases h
      · cases h
        rw [Node.definitionLines_mk]
        exact (finds_file.spans (isLaid_of_tokenize htokens) hfile).rising

/-! ## Walks -/

namespace Node

def definitionLine? (n : Node) : Option Nat := n.definition?.map fun _ => n.line

theorem definitionLines_eq (n : Node) :
    n.definitionLines = n.definitionLine?.toList ++ n.children.flatMap definitionLines := by
  obtain ⟨kind, l, children⟩ := n
  rw [Node.children]
  cases kind with
  | definition d => rw [definitionLines_definition]; rfl
  | _ => rw [definitionLines_mk]; rfl

theorem depths_le_iff {ns : List Node} {k : Nat} : depth.depths ns ≤ k ↔ ∀ n ∈ ns, n.depth ≤ k := by
  induction ns with
  | nil => simp [depth.depths]
  | cons n ns ih => rw [depth.depths, Nat.max_le, ih, List.forall_mem_cons]

theorem depths_children_lt (n : Node) : depth.depths n.children < n.depth := by
  obtain ⟨kind, l, children⟩ := n
  exact Nat.lt_succ_self _

/-- Level by level the same definitions are met as in the order of the source. The induction is on the levels that are
left. -/
theorem perm_levels {fuel : Nat} {ns : List Node} (h : ∀ n ∈ ns, n.depth ≤ fuel) :
    ((levels fuel ns).filterMap definitionLine?).Perm (ns.flatMap definitionLines) := by
  induction fuel generalizing ns with
  | zero =>
    cases ns with
    | nil => exact .refl _
    | cons n ns => exact absurd (h n List.mem_cons_self) (by have := depths_children_lt n; omega)
  | succ fuel ih =>
    unfold levels
    split
    · next hempty =>
      rw [List.isEmpty_iff.1 hempty]
      exact .refl _
    · have hbelow : ∀ m ∈ ns.flatMap children, m.depth ≤ fuel := by
        intro m hm
        obtain ⟨n, hn, hm⟩ := List.mem_flatMap.1 hm
        have hchildren := depths_children_lt n
        exact depths_le_iff.1 (Nat.le_of_lt_succ (Nat.lt_of_lt_of_le hchildren (h n hn))) m hm
      have hlines : ns.flatMap definitionLines =
          ns.flatMap fun n => n.definitionLine?.toList ++ n.children.flatMap definitionLines :=
        List.flatMap_congr fun n _ => definitionLines_eq n
      rw [List.filterMap_append, List.filterMap_eq_flatMap_toList, hlines]
      -- the definitions of a level, then those below it, are those of each tree of the level in turn, put in another
      -- order
      refine ((ih hbelow).append_left _).trans ?_
      rw [List.flatMap_assoc]
      exact List.flatMap_append_perm ns _ _

theorem perm_walk (n : Node) : (n.walk.filterMap definitionLine?).Perm n.definitionLines := by
  have hlevels : (n.walk.filterMap definitionLine?).Perm ([n].flatMap definitionLines) := perm_levels (by simp)
  rwa [List.flatMap_singleton] at hlevels

end Node

/-- A definition of a program is the only one on its line. -/
theorem exists_walk_eq_append {t : List Char} {tree n : Node} {l : Nat} (h : parse t = .ok tree) (hn : n ∈ tree.walk)
    (hline : n.definitionLine? = some l) :
    ∃ before behind, tree.walk = before ++ n :: behind ∧ ∀ m ∈ before ++ behind, m.definitionLine? ≠ some l := by
  obtain ⟨before, behind, hwalk⟩ := List.append_of_mem hn
  have hnodup : (tree.walk.filterMap Node.definitionLine?).Nodup :=
    tree.perm_walk.nodup_iff.2 ((definitionLines_pairwise_lt h).imp Nat.ne_of_lt)
  rw [hwalk, List.filterMap_append, List.filterMap_cons_some hline] at hnodup
  have hout := (List.nodup_cons.1 (List.perm_middle.nodup_iff.1 hnodup)).1
  rw [← List.filterMap_append] at hout
  exact ⟨before, behind, hwalk, fun m hm hsame => hout (List.mem_filterMap.2 ⟨m, hm, hsame⟩)⟩

end CodeSurvey.Python
