/-
Expressions, patterns and simple statements hold no definitions, whatever the rules below them are, as long as these
find none either (`readsPlain_ruleOver`).
-/
import CodeSurvey.Proofs.Python.Reading

namespace CodeSurvey.Python.Below

open CodeSurvey.Python.Parser

set_option synthInstance.maxSize 20000

/-- The rules of expressions and patterns find no definitions. -/
class FindsPlain (g : Below) : Prop where
  readsPlain : ∀ r, r ≠ .block → r ≠ .statement → ReadsPlain (g r)

variable {g : Below} [hg : FindsPlain g]

instance : ReadsPlain (g .expression) := hg.readsPlain _ (by simp) (by simp)

instance : ReadsPlain (g .namedExpression) := hg.readsPlain _ (by simp) (by simp)

instance : ReadsPlain (g .starExpressions) := hg.readsPlain _ (by simp) (by simp)

instance : ReadsPlain (g .yieldExpression) := hg.readsPlain _ (by simp) (by simp)

instance : ReadsPlain (g .inversion) := hg.readsPlain _ (by simp) (by simp)

instance : ReadsPlain (g .factor) := hg.readsPlain _ (by simp) (by simp)

instance : ReadsPlain (g .disjunction) := hg.readsPlain _ (by simp) (by simp)

instance : ReadsPlain (g .bitwiseOr) := hg.readsPlain _ (by simp) (by simp)

instance : ReadsPlain (g .pattern) := hg.readsPlain _ (by simp) (by simp)

instance {p : Parser (List Node)} [hp : ReadsPlain p] : ReadsPlain (sole p) := by
  unfold sole
  refine hp.bind fun ns hns => ?_
  split
  · next n =>
    have := (plain_cons_iff.1 hns).1
    infer_instance
  · infer_instance

instance : ReadsPlain g.expression := by
  unfold expression
  infer_instance

instance : ReadsPlain g.namedExpression := by
  unfold namedExpression
  infer_instance

instance : ReadsPlain g.starExpressions := by
  unfold starExpressions
  infer_instance

instance : ReadsPlain g.yieldExpression := by
  unfold yieldExpression
  infer_instance

instance : ReadsPlain g.pattern := by
  unfold pattern
  infer_instance

instance : ReadsPlain g.yieldOrExpressions := by
  unfold yieldOrExpressions
  infer_instance

/-! ## Parameters -/

instance {annotated star : Bool} : ReadsPlain (g.parameter annotated star) := by
  unfold parameter
  infer_instance

instance {annotated : Bool} : ReadsPlain (g.parameterWithDefault annotated) := by
  unfold parameterWithDefault
  infer_instance

-- The branches of this rule share what follows them, and the size of an instance is counted without sharing.
set_option synthInstance.maxSize 1000000000 in
instance {annotated : Bool} {close : String} : ReadsPlain (g.parameters annotated close) := by
  unfold parameters
  infer_instance

/-! ## Atoms -/

instance {α : Type} [ParseResult α] {k : Nat} {p : Parser α} [ReadsPlain p] : ReadsPlain (commaList k p) := by
  unfold commaList
  infer_instance

instance : ReadsPlain g.starNamed := by
  unfold starNamed
  infer_instance

instance : ReadsPlain g.starTarget := by
  unfold starTarget
  infer_instance

instance : ReadsPlain g.targets := by
  unfold targets
  refine .bind inferInstance fun l _ => .bind inferInstance fun ⟨ts, isTuple⟩ hpair => ?_
  obtain ⟨hts, -⟩ := plain_mk_iff.1 hpair
  dsimp only
  split
  · have := (plain_cons_iff.1 hts).1
    infer_instance
  · infer_instance

instance : ReadsPlain g.clauses := by
  unfold clauses
  infer_instance

instance : ReadsPlain (atClauses) := by
  unfold atClauses
  infer_instance

instance {l : Nat} : ReadsPlain (g.parenthesized l) := by
  unfold parenthesized
  infer_instance

instance {l : Nat} : ReadsPlain (g.bracketed l) := by
  unfold bracketed
  infer_instance

instance : ReadsPlain (atNaming) := by
  unfold atNaming
  refine .bind inferInstance fun s _ => ?_
  split
  · split <;> infer_instance
  · infer_instance

instance : ReadsPlain g.entry := by
  unfold entry
  infer_instance

instance {l : Nat} {first : List Node × Node} [Plain first] : ReadsPlain (g.dictionaryRest l first) := by
  unfold dictionaryRest
  infer_instance

instance {l : Nat} {first : Node} [Plain first] : ReadsPlain (g.setRest l first) := by
  unfold setRest
  infer_instance

instance {l : Nat} : ReadsPlain (g.braced l) := by
  unfold braced
  infer_instance

/-! ## Strings -/

theorem plain_of_fieldExpression {text : List Char} {l : Nat} {n : Node} (h : g.fieldExpression text l = .ok n) :
    Plain n := by
  unfold fieldExpression at h
  split at h
  · cases h
  · split at h
    · cases h
    · next ts _ =>
      cases hparse : deeper 1 g.starExpressions { tokens := ts, left := ts.length, lastLine := l } with
      | error e =>
        rw [hparse] at h
        cases h
      | ok x =>
        rw [hparse] at h
        cases h
        exact (ReadsPlain.reads hparse).2

theorem plain_of_pieceNodes {isRaw : Bool} {l : Nat} {pieces : List Piece} {ns : List Node}
    (h : g.pieceNodes isRaw l pieces = .ok ns) : Plain ns := by
  fun_induction pieceNodes g isRaw l pieces generalizing ns with
  | case1 =>
    cases h
    infer_instance
  | case2 => cases h
  | case3 =>
    rename_i ih
    obtain ⟨others, hothers, h⟩ := CodeSurvey.bind_eq_ok_iff.1 h
    cases h
    have := ih hothers
    infer_instance
  | case4 text offset format rest ihFormat ihRest =>
    obtain ⟨value, hvalue, h⟩ := CodeSurvey.bind_eq_ok_iff.1 h
    obtain ⟨inner, hinner, h⟩ := CodeSurvey.bind_eq_ok_iff.1 h
    obtain ⟨others, hothers, h⟩ := CodeSurvey.bind_eq_ok_iff.1 h
    cases h
    have := plain_of_fieldExpression hvalue
    have := ihFormat hinner
    have := ihRest hothers
    infer_instance

instance : ReadsPlain g.strings := by
  unfold strings
  have hcharacters : ∀ l : List Char, Plain l := fun l => ⟨fun _ _ => trivial⟩
  have htext : ReadsPlain (do
      let t ← peek
      match t.kind with
      | .text s =>
        discard next
        pure (s, t.line)
      | _ => failure) := by
    refine .bind inferInstance fun t _ => ?_
    split <;> infer_instance
  refine .bind inferInstance fun l _ => .bind inferInstance fun parts _ => .bind inferInstance fun _ _ => ?_
  split
  · refine .bind (.mapM (fun ⟨s, l⟩ => ?_) parts) fun nodes _ => inferInstance
    dsimp only
    split
    · split
      · infer_instance
      · exact .liftM fun ns hns => plain_of_pieceNodes hns
    · split <;> infer_instance
  · refine .bind (.mapM (fun ⟨s, l⟩ => ?_) parts) fun values _ => inferInstance
    dsimp only
    split <;> infer_instance

instance : ReadsPlain g.atom := by
  unfold atom
  refine .deeper (.bind inferInstance fun t _ => ?_)
  split <;> infer_instance

/-! ## Calls, subscripts and attributes -/

instance : ParseResult Argument where
  IsPlain
    | .positional n | .starred n | .named n | .doubleStarred n => ParseResult.IsPlain n

instance {n : Node} [h : Plain n] : Plain (Argument.positional n) := ⟨h.isPlain⟩

instance {n : Node} [h : Plain n] : Plain (Argument.starred n) := ⟨h.isPlain⟩

instance {n : Node} [h : Plain n] : Plain (Argument.named n) := ⟨h.isPlain⟩

instance {n : Node} [h : Plain n] : Plain (Argument.doubleStarred n) := ⟨h.isPlain⟩

instance : ParseResult Trailer where
  IsPlain
    | .attribute _ => True
    | .arguments ns => ParseResult.IsPlain ns
    | .subscript n => ParseResult.IsPlain n

instance {s : String} : Plain (Trailer.attribute s) := ⟨trivial⟩

instance {ns : List Node} [h : Plain ns] : Plain (Trailer.arguments ns) := ⟨h.isPlain⟩

instance {n : Node} [h : Plain n] : Plain (Trailer.subscript n) := ⟨h.isPlain⟩

instance {k positional : Nat} : ReadsPlain (g.argument k positional) := by
  unfold argument
  refine .bind inferInstance fun l _ => .bind inferInstance fun star _ => ?_
  split
  · infer_instance
  · refine .bind inferInstance fun stars _ => ?_
    split
    · infer_instance
    · refine .bind inferInstance fun named hnamed => ?_
      split
      · have := plain_some_iff.1 hnamed
        infer_instance
      · infer_instance

instance {generator : Bool} : ReadsPlain (g.callArguments generator) := by
  unfold callArguments
  refine .bind inferInstance fun _ _ => .bind inferInstance fun closed _ => ?_
  split
  · infer_instance
  · refine .bind inferInstance fun l _ => .bind inferInstance fun first _ => ?_
    have hposition : ∀ a : PlainResult Argument, Plain (match a.val with
        | .positional n | .starred n => some n
        | _ => none) := by
      rintro ⟨a, ha⟩
      cases a with
      | positional n | starred n => exact ⟨fun _ hb => Option.some.inj hb ▸ ha⟩
      | named n | doubleStarred n => infer_instance
    have hname : ∀ a : PlainResult Argument, Plain (match a.val with
        | .named n | .doubleStarred n => some n
        | _ => none) := by
      rintro ⟨a, ha⟩
      cases a with
      | positional n | starred n => infer_instance
      | named n | doubleStarred n => exact ⟨fun _ hb => Option.some.inj hb ▸ ha⟩
    cases first with
    | positional e =>
      have : Plain e := ⟨Plain.isPlain (a := Argument.positional e)⟩
      infer_instance
    | _ => infer_instance

instance : ReadsPlain g.sliceItem := by
  unfold sliceItem
  refine .bind inferInstance fun l _ => .bind inferInstance fun star _ => ?_
  split
  · infer_instance
  · refine .bind inferInstance fun naming _ => ?_
    split
    · infer_instance
    · refine .bind inferInstance fun lower hlower => .bind inferInstance fun colon _ => ?_
      split
      · infer_instance
      · split
        · have := (plain_cons_iff.1 hlower).1
          infer_instance
        · infer_instance

instance : ReadsPlain g.slices := by
  unfold slices
  refine .bind inferInstance fun l _ => .bind inferInstance fun ⟨items, isTuple⟩ hpair => ?_
  obtain ⟨hitems, -⟩ := plain_mk_iff.1 hpair
  dsimp only
  split
  · have := (plain_cons_iff.1 hitems).1
    split <;> infer_instance
  · infer_instance

instance : ReadsPlain g.trailer := by
  unfold trailer
  infer_instance

instance : ReadsPlain g.primary := by
  unfold primary
  have htrailer : ∀ (l : Nat) (n : PlainResult Node) (t : PlainResult Trailer), Plain (match t.val with
      | .attribute s => Node.mk (.attribute s) l [n.val]
      | .arguments ns => .mk .call l (n.val :: ns)
      | .subscript s => .mk .subscript l [n.val, s]) := by
    rintro l n ⟨t, ht⟩
    match t, ht with
    | .attribute s, _ => infer_instance
    | .arguments ns, ht =>
      have : Plain ns := ⟨ht⟩
      infer_instance
    | .subscript s, ht =>
      have : Plain s := ⟨ht⟩
      infer_instance
  infer_instance

instance : ReadsPlain g.awaited := by
  unfold awaited
  infer_instance

/-! ## Operators -/

instance : ReadsPlain g.factor := by
  unfold factor
  infer_instance

instance {p : Parser Node} {ops : List String} [ReadsPlain p] : ReadsPlain (leftChain p ops) := by
  unfold leftChain
  have hrest : ReadsPlain (do
      match (← peek).kind with
      | .op o => if ops.contains o then discard next else failure
      | _ => failure
      p) := by
    refine .bind inferInstance fun t _ => ?_
    split <;> infer_instance
  infer_instance

instance : ReadsPlain g.term := by
  unfold term
  infer_instance

instance : ReadsPlain g.sum := by
  unfold sum
  infer_instance

instance : ReadsPlain g.shift := by
  unfold shift
  infer_instance

instance : ReadsPlain g.bitwiseAnd := by
  unfold bitwiseAnd
  infer_instance

instance : ReadsPlain g.bitwiseXor := by
  unfold bitwiseXor
  infer_instance

instance : ReadsPlain g.bitwiseOr := by
  unfold bitwiseOr
  infer_instance

instance : ReadsPlain (comparisonOperator) := by
  unfold comparisonOperator
  refine .bind inferInstance fun t _ => ?_
  split <;> infer_instance

instance : ReadsPlain g.comparison := by
  unfold comparison
  infer_instance

instance : ReadsPlain g.inversion := by
  unfold inversion
  infer_instance

instance {p : Parser Node} {k : String} [ReadsPlain p] : ReadsPlain (booleanChain p k) := by
  unfold booleanChain
  infer_instance

instance : ReadsPlain g.conjunction := by
  unfold conjunction
  infer_instance

instance : ReadsPlain g.disjunction := by
  unfold disjunction
  infer_instance

instance {l : Nat} : ReadsPlain (g.lambda l) := by
  unfold lambda
  infer_instance

instance : ReadsPlain g.fullExpression := by
  unfold fullExpression
  infer_instance

instance : ReadsPlain g.fullNamedExpression := by
  unfold fullNamedExpression
  refine .deeper (.bind inferInstance fun l _ => .bind inferInstance fun naming _ => ?_)
  split <;> infer_instance

instance : ReadsPlain g.fullStarExpressions := by
  unfold fullStarExpressions
  refine .deeper (.bind inferInstance fun l _ => .bind inferInstance fun ⟨es, isTuple⟩ hpair => ?_)
  obtain ⟨hes, -⟩ := plain_mk_iff.1 hpair
  dsimp only
  split
  · have := (plain_cons_iff.1 hes).1
    infer_instance
  · infer_instance

instance : ReadsPlain g.fullYield := by
  unfold fullYield
  infer_instance

instance : ReadsPlain g.assignment := by
  unfold assignment
  refine .bind inferInstance fun l _ => .bind inferInstance fun first _ => .bind inferInstance fun t _ => ?_
  dsimp only
  split <;> infer_instance

instance : ReadsPlain (dottedName) := by
  unfold dottedName
  infer_instance

instance : ReadsPlain (asName) := by
  unfold asName
  infer_instance

instance : ReadsPlain (importedNames) := by
  unfold importedNames
  infer_instance

instance {l : Nat} : ReadsPlain (importStatement l) := by
  unfold importStatement
  infer_instance

instance : ReadsPlain g.simpleStatement := by
  unfold simpleStatement
  refine .bind inferInstance fun l _ => .bind inferInstance fun t _ => ?_
  split
  · split
    case h_4 =>
      refine .bind inferInstance fun _ _ => .bind inferInstance fun raised hraised => ?_
      split
      · infer_instance
      · have := plain_some_iff.1 hraised
        infer_instance
    all_goals infer_instance
  · infer_instance

instance : ReadsPlain g.simpleStatements := by
  unfold simpleStatements
  infer_instance

instance : ReadsPlain g.withItem := by
  unfold withItem
  infer_instance

/-! ## Patterns -/

instance : ReadsPlain (patternNumber) := by
  unfold patternNumber
  have hnumber : ReadsPlain (do
      discard (tryOp "-")
      match (← next).kind with
      | .number i => pure i
      | _ => failure) := by
    refine .bind inferInstance fun _ _ => .bind inferInstance fun t _ => ?_
    split <;> infer_instance
  have himaginary : ∀ (l : Nat) (t : PlainResult Token), ReadsPlain (match t.val.kind with
      | .number j => do
        require j
        return Node.mk .expression l [.mk .expression l [], .mk .expression l []]
      | _ => do
        failure
        return .mk .expression l [.mk .expression l [], .mk .expression l []]) := by
    intro l t
    split <;> infer_instance
  refine .bind inferInstance fun l _ => .bind hnumber fun i _ => ?_
  infer_instance

instance : ReadsPlain (namePath) := by
  unfold namePath
  infer_instance

instance : ReadsPlain g.mappingKey := by
  unfold mappingKey
  refine .bind inferInstance fun l _ => .bind inferInstance fun t _ => ?_
  split <;> infer_instance

instance : ReadsPlain g.mappingItem := by
  unfold mappingItem
  infer_instance

instance : ReadsPlain g.classPatternItem := by
  unfold classPatternItem
  refine .bind inferInstance fun named hnamed => ?_
  split
  · have := plain_some_iff.1 hnamed
    infer_instance
  · infer_instance

instance : ReadsPlain g.maybeStarPattern := by
  unfold maybeStarPattern
  infer_instance

instance : ReadsPlain g.closedPattern := by
  unfold closedPattern
  refine .bind inferInstance fun l _ => .bind inferInstance fun t _ => ?_
  split
  case h_6 =>
    refine .bind inferInstance fun _ _ => .bind inferInstance fun closed _ => ?_
    split
    · infer_instance
    · refine .bind inferInstance fun starred _ => .bind inferInstance fun ⟨ps, isTuple⟩ hpair => .bind
        inferInstance fun _ _ => ?_
      obtain ⟨hps, -⟩ := plain_mk_iff.1 hpair
      split
      · have := (plain_cons_iff.1 hps).1
        infer_instance
      · infer_instance
  all_goals infer_instance

instance : ReadsPlain g.fullPattern := by
  unfold fullPattern
  refine .bind inferInstance fun l _ => .bind inferInstance fun ps hps => ?_
  dsimp only
  split
  · have := (plain_cons_iff.1 hps).1
    infer_instance
  · infer_instance

instance : ReadsPlain g.casePatterns := by
  unfold casePatterns
  refine .bind inferInstance fun l _ => .bind inferInstance fun starred _ => .bind inferInstance
    fun ⟨ps, isTuple⟩ hpair => ?_
  obtain ⟨hps, -⟩ := plain_mk_iff.1 hpair
  dsimp only
  split
  · have := (plain_cons_iff.1 hps).1
    infer_instance
  · infer_instance

end CodeSurvey.Python.Below

namespace CodeSurvey.Python

open Below

theorem readsPlain_ruleOver {g : Below} [FindsPlain g] {r : Rule} (hblock : r ≠ .block) (hstatement : r ≠ .statement) :
    ReadsPlain (ruleOver g r) := by
  cases r with
  | block => exact absurd rfl hblock
  | statement => exact absurd rfl hstatement
  | _ =>
    unfold ruleOver
    infer_instance

instance {fuel : Nat} : FindsPlain (rules fuel) := by
  induction fuel with
  | zero => exact ⟨fun r _ _ => inferInstanceAs (ReadsPlain failure)⟩
  | succ fuel ih => exact ⟨fun r hblock hstatement => readsPlain_ruleOver hblock hstatement⟩

end CodeSurvey.Python
