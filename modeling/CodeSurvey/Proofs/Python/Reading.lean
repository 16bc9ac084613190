/-
Parsers that take tokens from the front and whose results hold no definitions. Both are properties of how parsers are
put together: each combinator keeps them (the instances of `ReadsPlain`), so that for a rule of the grammar they are
inferred from its parts.
-/
import CodeSurvey.Proofs.Fault
import CodeSurvey.Proofs.Python.Token
import CodeSurvey.Python.Parser
import Mathlib.Data.List.Infix

namespace CodeSurvey.Python

namespace Node

def definitionLines : Node → List Nat
  | mk kind line children =>
    match kind with
    | .definition _ => line :: linesOfAll children
    | _ => linesOfAll children
where
  /-- The lines of the definitions in trees. -/
  linesOfAll : List Node → List Nat
    | [] => []
    | n :: r => definitionLines n ++ linesOfAll r

theorem linesOfAll_eq (ns : List Node) : definitionLines.linesOfAll ns = ns.flatMap definitionLines := by
  induction ns with
  | nil => rfl
  | cons n ns ih => rw [definitionLines.linesOfAll, ih, List.flatMap_cons]

end Node

/-! ## Results without definitions -/

/-- What parsers give; in some of it there may stand definitions. -/
class ParseResult (α : Type) where
  /-- No definition stands in the result. -/
  IsPlain : α → Prop

open ParseResult (IsPlain)

instance (priority := low) {α : Type} : ParseResult α := ⟨fun _ => True⟩

instance : ParseResult Node := ⟨fun n => n.definitionLines = []⟩

section

variable {α β : Type} [ParseResult α] [ParseResult β]

instance : ParseResult (List α) := ⟨fun l => ∀ a ∈ l, IsPlain a⟩

instance : ParseResult (Option α) := ⟨fun o => ∀ a ∈ o, IsPlain a⟩

instance : ParseResult (α × β) := ⟨fun p => IsPlain p.1 ∧ IsPlain p.2⟩

end

/-- A result in which no definition stands. -/
class Plain {α : Type} [ParseResult α] (a : α) : Prop where
  isPlain : IsPlain a

structure PlainResult (α : Type) [ParseResult α] where
  val : α
  isPlain : IsPlain val

section Results

variable {α β : Type} [ParseResult α] [ParseResult β]

instance (a : PlainResult α) : Plain a.val := ⟨a.isPlain⟩

/-- A value of a type that has no place for nodes. -/
instance (priority := low) {α : Type} {a : α} : @Plain α ⟨fun _ => True⟩ a := @Plain.mk α ⟨fun _ => True⟩ a trivial

instance : Plain ([] : List α) := ⟨fun _ ha => absurd ha List.not_mem_nil⟩

theorem plain_cons_iff {a : α} {l : List α} : Plain (a :: l) ↔ Plain a ∧ Plain l :=
  ⟨fun h => ⟨⟨h.1 a List.mem_cons_self⟩, ⟨fun b hb => h.1 b (List.mem_cons_of_mem a hb)⟩⟩,
    fun h => ⟨List.forall_mem_cons.2 ⟨h.1.1, h.2.1⟩⟩⟩

instance {a : α} {l : List α} [ha : Plain a] [hl : Plain l] : Plain (a :: l) := plain_cons_iff.2 ⟨ha, hl⟩

instance {l m : List α} [hl : Plain l] [hm : Plain m] : Plain (l ++ m) := ⟨List.forall_mem_append.2 ⟨hl.1, hm.1⟩⟩

instance {l : List α} [hl : Plain l] : Plain l.reverse := ⟨fun a ha => hl.1 a (List.mem_reverse.1 ha)⟩

instance {l : List (List α)} [hl : Plain l] : Plain l.flatten := by
  refine ⟨fun a ha => ?_⟩
  obtain ⟨m, hm, ha⟩ := List.mem_flatten.1 ha
  exact hl.1 m hm a ha

instance {l : List α} {f : α → β} [hl : Plain l] [hf : ∀ a : PlainResult α, Plain (f a.val)] : Plain (l.map f) := by
  refine ⟨fun b hb => ?_⟩
  obtain ⟨a, ha, rfl⟩ := List.mem_map.1 hb
  exact (hf ⟨a, hl.1 a ha⟩).1

instance {l : List α} {f : α → List β} [hl : Plain l] [hf : ∀ a : PlainResult α, Plain (f a.val)] :
    Plain (l.flatMap f) := by
  refine ⟨fun b hb => ?_⟩
  obtain ⟨a, ha, hb⟩ := List.mem_flatMap.1 hb
  exact (hf ⟨a, hl.1 a ha⟩).1 b hb

instance {l : List α} {f : α → Option β} [hl : Plain l] [hf : ∀ a : PlainResult α, Plain (f a.val)] :
    Plain (l.filterMap f) := by
  refine ⟨fun b hb => ?_⟩
  obtain ⟨a, ha, hb⟩ := List.mem_filterMap.1 hb
  exact (hf ⟨a, hl.1 a ha⟩).1 b hb

theorem plain_foldl {f : β → α → β} (hf : ∀ b a, Plain b → Plain a → Plain (f b a)) (l : List α) :
    ∀ b, Plain l → Plain b → Plain (l.foldl f b) := by
  induction l with
  | nil => exact fun b _ hb => hb
  | cons a l ih =>
    intro b hl hb
    obtain ⟨ha, hl⟩ := plain_cons_iff.1 hl
    exact ih _ hl (hf b a hb ha)

instance {f : β → α → β} {l : List α} {b : β} [hl : Plain l] [hb : Plain b]
    [hf : ∀ (b : PlainResult β) (a : PlainResult α), Plain (f b.val a.val)] : Plain (l.foldl f b) :=
  plain_foldl (fun b a hb ha => hf ⟨b, hb.isPlain⟩ ⟨a, ha.isPlain⟩) l b hl hb

instance : Plain (none : Option α) := ⟨fun _ ha => nomatch ha⟩

theorem plain_some_iff {a : α} : Plain (some a) ↔ Plain a :=
  ⟨fun h => ⟨h.1 a rfl⟩, fun h => ⟨fun _ hb => Option.some.inj hb ▸ h.1⟩⟩

instance {a : α} [ha : Plain a] : Plain (some a) := plain_some_iff.2 ha

instance {o : Option α} [ho : Plain o] : Plain o.toList := ⟨fun a ha => ho.1 a (Option.mem_toList.1 ha)⟩

instance {o : Option α} {f : α → β} [ho : Plain o] [hf : ∀ a : PlainResult α, Plain (f a.val)] : Plain (o.map f) := by
  refine ⟨fun b hb => ?_⟩
  obtain ⟨a, ha, rfl⟩ := Option.map_eq_some_iff.1 hb
  exact (hf ⟨a, ho.1 a ha⟩).1

theorem plain_mk_iff {a : α} {b : β} : Plain (a, b) ↔ Plain a ∧ Plain b :=
  ⟨fun h => ⟨⟨h.1.1⟩, ⟨h.1.2⟩⟩, fun h => ⟨h.1.1, h.2.1⟩⟩

instance {a : α} {b : β} [ha : Plain a] [hb : Plain b] : Plain (a, b) := plain_mk_iff.2 ⟨ha, hb⟩

instance {p : α × β} [hp : Plain p] : Plain p.1 := ⟨hp.1.1⟩

instance {p : α × β} [hp : Plain p] : Plain p.2 := ⟨hp.1.2⟩

instance {c : Prop} [Decidable c] {a b : α} [ha : Plain a] [hb : Plain b] : Plain (if c then a else b) := by
  split
  · exact ha
  · exact hb

end Results

/-! ## Nodes without definitions -/

/-- A node of another kind than a definition. -/
class Kind.Plain (k : Kind) : Prop where
  lines_eq : ∀ line children, (Node.mk k line children).definitionLines = Node.definitionLines.linesOfAll children

section Kinds

variable {s : String}

instance : Kind.Plain .expressionStatement := ⟨fun _ _ => rfl⟩

instance : Kind.Plain .statement := ⟨fun _ _ => rfl⟩

instance : Kind.Plain (.name s) := ⟨fun _ _ => rfl⟩

instance : Kind.Plain (.attribute s) := ⟨fun _ _ => rfl⟩

instance : Kind.Plain .subscript := ⟨fun _ _ => rfl⟩

instance : Kind.Plain .starred := ⟨fun _ _ => rfl⟩

instance : Kind.Plain .tuple := ⟨fun _ _ => rfl⟩

instance : Kind.Plain .list := ⟨fun _ _ => rfl⟩

instance : Kind.Plain .call := ⟨fun _ _ => rfl⟩

instance : Kind.Plain (.string s) := ⟨fun _ _ => rfl⟩

instance : Kind.Plain .expression := ⟨fun _ _ => rfl⟩

instance : Kind.Plain .part := ⟨fun _ _ => rfl⟩

end Kinds

theorem Plain.linesOfAll_eq_nil {ns : List Node} (h : Plain ns) : Node.definitionLines.linesOfAll ns = [] := by
  rw [Node.linesOfAll_eq, List.flatMap_eq_nil_iff]
  exact h.isPlain

instance {k : Kind} {line : Nat} {children : List Node} [hk : k.Plain] [hc : Plain children] :
    Plain (Node.mk k line children) :=
  ⟨(hk.lines_eq line children).trans hc.linesOfAll_eq_nil⟩

/-! ## Parsers -/

/-- A parser that takes tokens from the front and finds no definitions. -/
class ReadsPlain {α : Type} [ParseResult α] (p : Parser α) : Prop where
  reads : ∀ {s a s'}, p s = .ok (a, s') → s'.tokens <:+ s.tokens ∧ Plain a

namespace Parser

variable {α β : Type}

theorem bind_eq_ok_iff {p : Parser α} {f : α → Parser β} {s s'' : ParseState} {b : β} :
    (p >>= f) s = .ok (b, s'') ↔ ∃ a s', p s = .ok (a, s') ∧ f a s' = .ok (b, s'') := by
  show (p s >>= fun x => f x.1 x.2) = _ ↔ _
  rw [CodeSurvey.bind_eq_ok_iff, Prod.exists]

theorem pure_eq_ok_iff {a b : α} {s s' : ParseState} : (pure a : Parser α) s = .ok (b, s') ↔ a = b ∧ s = s' := by
  show Except.ok (a, s) = .ok (b, s') ↔ _
  rw [Except.ok.injEq, Prod.mk.injEq]

section Success

variable {p q : Parser α} {s s' : ParseState} {a : α} {t : Token} {u : Unit} {k : Nat}

theorem orElse_eq_ok (h : (p <|> q) s = .ok (a, s')) : p s = .ok (a, s') ∨ q s = .ok (a, s') := by
  change (p s <|> q s) = _ at h
  cases hps : p s with
  | ok x =>
    rw [hps] at h
    exact .inl h
  | error e =>
    rw [hps] at h
    cases e with
    | mismatch => exact .inr h
    | tooDeep => cases h

theorem discard_eq_ok (h : discard p s = .ok (u, s')) : ∃ a, p s = .ok (a, s') := by
  change (p s >>= fun x => pure ((), x.2)) = _ at h
  obtain ⟨⟨a, s₁⟩, hp, h⟩ := CodeSurvey.bind_eq_ok_iff.1 h
  cases h
  exact ⟨a, hp⟩

theorem deeper_eq_ok (h : deeper k p s = .ok (a, s')) :
    ∃ s₁ s₂, p s₁ = .ok (a, s₂) ∧ s₁.tokens = s.tokens ∧ s₂.tokens = s'.tokens := by
  unfold deeper at h
  dsimp only at h
  split at h
  · cases h
  · split at h
    · next hp =>
      cases h
      exact ⟨_, _, hp, rfl, rfl⟩
    · cases h

/-- What each result adds to those before it holds of all results of a repetition. The induction is on the bound of the
loop, whose accumulator holds the results backwards. -/
theorem many_induction {R : List α → ParseState → Prop}
    (hstep : ∀ {as s a s'}, R as s → p s = .ok (a, s') → R (as ++ [a]) s') {as : List α} (hstart : R [] s)
    (h : many p s = .ok (as, s')) : R as s' := by
  have hfrom : ∀ fuel acc s, R acc.reverse s → manyFrom p fuel acc s = .ok (as, s') → R as s' := by
    intro fuel
    induction fuel with
    | zero =>
      intro acc s hs h
      cases h
      exact hs
    | succ fuel ih =>
      intro acc s hs h
      unfold manyFrom at h
      split at h
      · cases h
        exact hs
      · cases h
      · next a s₁ hp =>
        split at h
        · refine ih (a :: acc) s₁ ?_ h
          rw [List.reverse_cons]
          exact hstep hs hp
        · cases h
          exact hs
  exact hfrom _ [] s hstart h

theorem peek_eq_ok (h : peek s = .ok (t, s')) : s' = s ∧ t ∈ s.tokens.head? := by
  obtain ⟨s₁, s₂, hget, h⟩ := bind_eq_ok_iff.1 h
  cases hget
  cases htokens : s.tokens with
  | nil =>
    simp only [htokens] at h
    cases h
  | cons u r =>
    simp only [htokens] at h
    cases h
    exact ⟨rfl, rfl⟩

theorem next_eq_ok (h : next s = .ok (t, s')) : s.tokens = t :: s'.tokens := by
  obtain ⟨s₁, s₂, hget, h⟩ := bind_eq_ok_iff.1 h
  cases hget
  cases htokens : s.tokens with
  | nil =>
    simp only [htokens] at h
    cases h
  | cons u r =>
    simp only [htokens] at h
    cases h
    rfl

end Success

end Parser

namespace ReadsPlain

variable {α β : Type} [ParseResult α] [ParseResult β] {p q : Parser α} {k : Nat} {o : String}

theorem bind {f : α → Parser β} (hp : ReadsPlain p) (hf : ∀ a, Plain a → ReadsPlain (f a)) : ReadsPlain (p >>= f) := by
  constructor
  intro s b s'' h
  obtain ⟨a, s', ha, hb⟩ := Parser.bind_eq_ok_iff.1 h
  obtain ⟨hfirst, hplain⟩ := hp.reads ha
  obtain ⟨hsecond, hresult⟩ := (hf a hplain).reads hb
  exact ⟨hsecond.trans hfirst, hresult⟩

instance {f : α → Parser β} [hp : ReadsPlain p] [hf : ∀ a : PlainResult α, ReadsPlain (f a.val)] :
    ReadsPlain (p >>= f) :=
  hp.bind fun a ha => hf ⟨a, ha.isPlain⟩

instance {a : α} [ha : Plain a] : ReadsPlain (pure a : Parser α) := by
  constructor
  intro s b s' h
  obtain ⟨rfl, rfl⟩ := Parser.pure_eq_ok_iff.1 h
  exact ⟨List.suffix_refl _, ha⟩

instance : ReadsPlain (failure : Parser α) := ⟨fun h => nomatch h⟩

instance {c : Prop} [Decidable c] [hp : ReadsPlain p] [hq : ReadsPlain q] : ReadsPlain (if c then p else q) := by
  split
  · exact hp
  · exact hq

instance [hp : ReadsPlain p] [hq : ReadsPlain q] : ReadsPlain (p <|> q) := by
  constructor
  intro s a s' h
  rcases Parser.orElse_eq_ok h with h | h
  · exact hp.reads h
  · exact hq.reads h

instance [hp : ReadsPlain p] : ReadsPlain (discard p) := by
  constructor
  intro s u s' h
  obtain ⟨a, h⟩ := Parser.discard_eq_ok h
  exact ⟨(hp.reads h).1, inferInstance⟩

instance : ReadsPlain (get : Parser ParseState) := by
  constructor
  intro s a s' h
  cases h
  exact ⟨List.suffix_refl _, inferInstance⟩

instance {f : ParseState → Nat} : ReadsPlain (modify fun s => { s with level := f s } : Parser PUnit) := by
  constructor
  intro s a s' h
  cases h
  exact ⟨List.suffix_refl _, inferInstance⟩

instance {b : Bool} : ReadsPlain (require b) := by
  unfold require
  infer_instance

theorem deeper (hp : ReadsPlain p) : ReadsPlain (Parser.deeper k p) := by
  constructor
  intro s a s' h
  obtain ⟨s₁, s₂, h, hs, hs'⟩ := Parser.deeper_eq_ok h
  rw [← hs, ← hs']
  exact hp.reads h

instance [hp : ReadsPlain p] : ReadsPlain (Parser.deeper k p) := hp.deeper

theorem operand (hp : ReadsPlain p) : ReadsPlain (Parser.operand p) := by
  constructor
  intro s a s' h
  unfold Parser.operand at h
  split at h
  · split at h
    · next hps =>
      cases h
      exact ⟨(hp.reads hps).1, (hp.reads hps).2⟩
    · cases h
  · exact hp.reads h

instance [hp : ReadsPlain p] : ReadsPlain (Parser.operand p) := hp.operand

instance [hp : ReadsPlain p] : ReadsPlain (Parser.maybeTarget k p) := by
  constructor
  intro s a s' h
  change p { s with target := (s.left, s.level + k) } = _ at h
  exact ⟨(hp.reads h).1, (hp.reads h).2⟩

instance [hp : ReadsPlain p] : ReadsPlain (Parser.attempt p) := by
  constructor
  intro s a s' h
  unfold Parser.attempt at h
  split at h
  · next hps =>
    cases h
    have := (hp.reads hps).2
    exact ⟨(hp.reads hps).1, inferInstance⟩
  · cases h
    exact ⟨List.suffix_refl _, inferInstance⟩
  · cases h

instance : ReadsPlain (Parser.notAhead p) := by
  constructor
  intro s a s' h
  unfold Parser.notAhead at h
  split at h
  · cases h
  · cases h
    exact ⟨List.suffix_refl _, inferInstance⟩
  · cases h

theorem many (hp : ReadsPlain p) : ReadsPlain (Parser.many p) := by
  constructor
  intro s as s' h
  refine Parser.many_induction (R := fun as s' => s'.tokens <:+ s.tokens ∧
    Plain as) ?_ ⟨List.suffix_refl _, inferInstance⟩ h
  rintro as s₁ a s₂ ⟨hsuffix, has⟩ hps
  obtain ⟨hmore, ha⟩ := hp.reads hps
  exact ⟨hmore.trans hsuffix, inferInstance⟩

instance [hp : ReadsPlain p] : ReadsPlain (Parser.many p) := hp.many

instance [ReadsPlain p] : ReadsPlain (Parser.many1 p) := by
  unfold Parser.many1
  infer_instance

theorem mapM {γ : Type} {f : γ → Parser α} (hf : ∀ c, ReadsPlain (f c)) (l : List γ) : ReadsPlain (l.mapM f) := by
  induction l with
  | nil =>
    rw [List.mapM_nil]
    infer_instance
  | cons c l ih =>
    rw [List.mapM_cons]
    exact (hf c).bind fun a _ => ih.bind fun as _ => inferInstance

theorem liftM {x : Except Stop α} (hx : ∀ a, x = .ok a → Plain a) : ReadsPlain (liftM x : Parser α) := by
  constructor
  intro s a s' h
  cases x with
  | error e => cases h
  | ok b =>
    cases h
    exact ⟨List.suffix_refl _, hx _ rfl⟩

/-! ## Single tokens -/

instance : ReadsPlain Parser.peek := by
  unfold Parser.peek
  refine bind inferInstance fun s _ => ?_
  split <;> infer_instance

instance : ReadsPlain Parser.next := by
  constructor
  intro s t s' h
  rw [Parser.next_eq_ok h]
  exact ⟨List.suffix_cons t _, inferInstance⟩

instance : ReadsPlain Parser.line := by
  unfold Parser.line
  infer_instance

instance : ReadsPlain (Parser.atOp o) := by
  unfold Parser.atOp
  refine bind inferInstance fun t _ => ?_
  split <;> infer_instance

instance : ReadsPlain (Parser.atKeyword o) := by
  unfold Parser.atKeyword
  refine bind inferInstance fun t _ => ?_
  split <;> infer_instance

instance : ReadsPlain (Parser.atWord o) := by
  unfold Parser.atWord
  refine bind inferInstance fun t _ => ?_
  split <;> infer_instance

instance : ReadsPlain (Parser.op o) := by
  unfold Parser.op
  infer_instance

instance : ReadsPlain (Parser.keyword o) := by
  unfold Parser.keyword
  infer_instance

instance : ReadsPlain (Parser.softKeyword o) := by
  unfold Parser.softKeyword
  infer_instance

instance : ReadsPlain (Parser.tryOp o) := by
  unfold Parser.tryOp
  infer_instance

instance : ReadsPlain (Parser.tryKeyword o) := by
  unfold Parser.tryKeyword
  infer_instance

instance : ReadsPlain Parser.name := by
  unfold Parser.name
  refine bind inferInstance fun t _ => ?_
  split <;> infer_instance

instance : ReadsPlain Parser.newline := by
  unfold Parser.newline
  refine bind inferInstance fun t _ => ?_
  split <;> infer_instance

instance [ReadsPlain p] : ReadsPlain (Parser.sepBy1 k p o) := by
  unfold Parser.sepBy1
  infer_instance

end ReadsPlain

end CodeSurvey.Python
