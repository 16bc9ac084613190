/-
What is read off import statements, one on each line. The pattern is tried at the start of a line, and a match ends on
its line; so a source gives what its statements give one by one (`map_importedModule_findAll`). What a statement gives
is `Statement.reported?`: of several modules the first one alone, as far as it and its alias are spelled with the
characters of a list, and of the members of a module only those that begin with such a character.
-/
import CodeSurvey.Proofs.CallGraph.Records
import CodeSurvey.Proofs.Pattern.Linewise
import CodeSurvey.Proofs.Text.Piece
import Mathlib.Data.List.TakeWhile

namespace CodeSurvey.Imports

open Pattern Text

/-! ## Statements -/

/-- Blanks on a line. -/
def IsGap (g : List Char) : Prop := ∀ c ∈ g, isBlank c = true ∧ c ≠ '\n'

instance (g : List Char) : Decidable (IsGap g) := List.decidableBAll _ g

/-- Blanks between two words of a line. -/
def IsBreak (g : List Char) : Prop := g ≠ [] ∧ IsGap g

instance (g : List Char) : Decidable (IsBreak g) := inferInstanceAs (Decidable (g ≠ [] ∧ IsGap g))

/-- A name, dotted or not; all that is asked of it is that no blank and no comma is in it. -/
def IsName (n : List Char) : Prop := n ≠ [] ∧ ∀ c ∈ n, isBlank c = false ∧ c ≠ ','

instance (n : List Char) : Decidable (IsName n) := @instDecidableAnd _ _ _ (List.decidableBAll _ n)

/-- What may follow a name: blanks, or an alias with blanks around it. -/
inductive IsTrail : List Char → Prop
  | blanks {g : List Char} : IsGap g → IsTrail g
  | renamed {g₁ g₂ x g₃ : List Char} : IsBreak g₁ → IsBreak g₂ → IsName x → IsGap g₃ →
    IsTrail (g₁ ++ ("as".toList ++ (g₂ ++ (x ++ g₃))))

/-- A name in a list, with what follows it up to the comma. -/
structure Item where
  name : List Char
  trail : List Char

def Item.text (i : Item) : List Char := i.name ++ i.trail

structure Item.IsWritten (i : Item) : Prop where
  name : IsName i.name
  trail : IsTrail i.trail

/-- The items behind the first one of a list, each with the blanks in front of it. -/
def moreText (l : List (List Char × Item)) : List Char := l.flatMap fun p => ',' :: (p.1 ++ p.2.text)

/-- What is imported from a module. -/
inductive Members where
  | all (trail : List Char)
  | list (first : Item) (more : List (List Char × Item))
  | bracketed (inside trail : List Char)

namespace Members

def text : Members → List Char
  | all g => '*' :: g
  | list first more => first.text ++ moreText more
  | bracketed inside g => '(' :: (inside ++ ')' :: g)

def IsWritten : Members → Prop
  | all g => IsGap g
  | list first more => first.IsWritten ∧ ∀ p ∈ more, IsGap p.1 ∧ p.2.IsWritten
  | bracketed inside g => '\n' ∉ inside ∧ IsGap g

end Members

/-- An import of modules, or of members of a module, with the blanks between the words. -/
inductive Statement where
  | modules (gap : List Char) (first : Item) (more : List (List Char × Item))
  | members (gap₁ module gap₂ gap₃ : List Char) (names : Members)

/-- The characters of the name of a module behind `from`. -/
def isModuleChar (c : Char) : Bool := c.isAlphanum || c == '_' || c == '.'

/-- The characters of a list behind `import`. -/
def isListChar (c : Char) : Bool := c.isAlphanum || c == '_' || c == ',' || c == ' '

/-- Can a list be found behind `import`? It begins with the text, or with a space behind the first of the blanks. -/
def listed (gap text : List Char) : Bool := text.head?.any isListChar || gap.tail.contains ' '

namespace Statement

def text : Statement → List Char
  | modules g first more => "import".toList ++ (g ++ (first.text ++ moreText more))
  | members g₁ m g₂ g₃ names => "from".toList ++ (g₁ ++ (m ++ (g₂ ++ ("import".toList ++ (g₃ ++ names.text)))))

-- by `unfold`: the unifier would spell the words out before it unfolds `text`
theorem text_modules (g : List Char) (first : Item) (more : List (List Char × Item)) :
    (modules g first more).text = "import".toList ++ (g ++ (first.text ++ moreText more)) := by unfold text; rfl

theorem text_members (g₁ m g₂ g₃ : List Char) (names : Members) : (members g₁ m g₂ g₃ names).text =
    "from".toList ++ (g₁ ++ (m ++ (g₂ ++ ("import".toList ++ (g₃ ++ names.text))))) := by unfold text; rfl

def IsWritten : Statement → Prop
  | modules g first more => IsBreak g ∧ first.IsWritten ∧ ∀ p ∈ more, IsGap p.1 ∧ p.2.IsWritten
  | members g₁ m g₂ g₃ names => IsBreak g₁ ∧ IsName m ∧ IsBreak g₂ ∧ IsBreak g₃ ∧ names.IsWritten

def imported : Statement → List (List Char)
  | modules _ first more => first.name :: more.map (·.2.name)
  | members _ m _ _ _ => [m]

def reported? : Statement → Option (List Char)
  | modules g first _ => if listed g first.text then some (strip (first.text.takeWhile isListChar)) else none
  | members _ m _ g₃ names => if m.all isModuleChar && listed g₃ names.text then some m else none

/-- A single module under its own name, which is not dotted, or a list without brackets; and all is spelled in ASCII. -/
def IsPlain : Statement → Prop
  | modules _ first more => more = [] ∧ IsGap first.trail ∧ ∀ c ∈ first.name, isListChar c = true
  | members _ m _ _ names => (∀ c ∈ m, isModuleChar c = true) ∧
    ∃ first more, names = .list first more ∧ ∀ c ∈ first.name, isListChar c = true

end Statement

/-- A source of statements, one on each line; the last line need not be ended. -/
inductive IsSource : List Statement → List Char → Prop
  | nil : IsSource [] []
  | last (s : Statement) : IsSource [s] s.text
  | cons (s : Statement) {ss : List Statement} {t : List Char} : IsSource ss t →
    IsSource (s :: ss) (s.text ++ '\n' :: t)

/-! ## Characters -/

theorem isModuleChar_of_isBlank {c : Char} (h : isBlank c = true) : isModuleChar c = false := by
  have hnone := of_isBlank (p := fun c => !isModuleChar c) (by decide) h
  simpa using hnone

/-- Of the blanks, the space alone is a character of a list. -/
theorem eq_space_of_isListChar {c : Char} (h : isBlank c = true) (hc : isListChar c = true) : c = ' ' := by
  have hspace := of_isBlank (p := fun c => !isListChar c || c == ' ') (by decide) h
  simpa [hc] using hspace

/-- A run of a class ends where a character of another kind stands. -/
theorem exists_of_append_eq {p : Char → Bool} {g w r r' : List Char} {x : Char} (h : g ++ x :: r = w ++ r')
    (hw : ∀ a ∈ w, p a = true) (hx : p x = false) : ∃ g', g = w ++ g' ∧ r' = g' ++ x :: r := by
  rcases List.append_eq_append_iff.1 h with ⟨a, rfl, ha⟩ | ⟨a, rfl, ha⟩
  · cases a with
    | nil => exact ⟨[], by simp, by simpa using ha.symm⟩
    | cons y a =>
      obtain ⟨rfl, -⟩ := List.cons.inj ha
      have := hw x (by simp)
      simp [hx] at this
  · exact ⟨a, rfl, ha⟩

/-- Between two characters of the right kinds there is one run only. -/
theorem eq_of_append_eq {p q : Char → Bool} {a w r s : List Char} {b y : Char} (h : a ++ b :: r = w ++ y :: s)
    (hw : ∀ c ∈ w, p c = true) (hb : p b = false) (ha : ∀ c ∈ a, q c = false) (hy : q y = true) : w = a ∧
      y :: s = b :: r := by
  obtain ⟨g, rfl, hs⟩ := exists_of_append_eq h hw hb
  cases g with
  | nil => exact ⟨by simp, hs⟩
  | cons z g =>
    obtain ⟨rfl, -⟩ := List.cons.inj hs
    have := ha y (by simp)
    simp [hy] at this

theorem IsBreak.isBlank {g : List Char} (h : IsBreak g) : ∀ c ∈ g, isBlank c = true := fun c hc => (h.2 c hc).1

/-- Where the blanks, the name and the blanks behind it end is told by what stands there. -/
theorem eq_of_words {g₁ m g₂ z w₁ w w₂ r : List Char} {i : Char} (hg₁ : IsBreak g₁) (hm : IsName m) (hg₂ : IsBreak g₂)
    (hi : isBlank i = false) (hw₁ : ∀ c ∈ w₁, isBlank c = true) (hne : w ≠ []) (hw : ∀ c ∈ w, isModuleChar c = true)
    (hne' : w₂ ≠ []) (hw₂ : ∀ c ∈ w₂, isBlank c = true)
    (h : g₁ ++ (m ++ (g₂ ++ i :: z)) = w₁ ++ (w ++ (w₂ ++ i :: r))) :
    w₁ = g₁ ∧ w = m ∧ w₂ = g₂ ∧ r = z := by
  obtain ⟨a, m, rfl⟩ := List.exists_cons_of_ne_nil hm.1
  obtain ⟨b, g₂, rfl⟩ := List.exists_cons_of_ne_nil hg₂.1
  obtain ⟨a', w, rfl⟩ := List.exists_cons_of_ne_nil hne
  obtain ⟨b', w₂, rfl⟩ := List.exists_cons_of_ne_nil hne'
  obtain ⟨h₁, h⟩ :=
    eq_of_append_eq h hw₁ (hm.2 a List.mem_cons_self).1 (fun y hy => isModuleChar_of_isBlank (hg₁.isBlank y hy))
    (hw a' List.mem_cons_self)
  obtain ⟨h₂, h⟩ :=
    eq_of_append_eq (a := a :: m) (w := a' :: w) h.symm hw (isModuleChar_of_isBlank (hg₂.isBlank b List.mem_cons_self))
    (fun y hy => (hm.2 y hy).1) (hw₂ b' List.mem_cons_self)
  obtain ⟨h₃, h⟩ := eq_of_append_eq (a := b :: g₂) (w := b' :: w₂) (q := (!isBlank ·)) h.symm hw₂ hi
    (fun y hy => by rw [hg₂.isBlank y hy]; rfl) (by rw [hi]; rfl)
  exact ⟨h₁, h₂, h₃, (List.cons.inj h).2⟩

def IsInner (t : List Char) : Prop := ∀ c ∈ t, c ≠ '\n' ∧ c ≠ ','

theorem IsInner.append {t u : List Char} (ht : IsInner t) (hu : IsInner u) : IsInner (t ++ u) :=
  fun c hc => (List.mem_append.1 hc).elim (ht c) (hu c)

theorem IsGap.isInner {g : List Char} (h : IsGap g) : IsInner g :=
  fun c hc => ⟨(h c hc).2, fun hcomma => absurd (hcomma ▸ (h c hc).1) (by decide)⟩

theorem IsName.isInner {n : List Char} (h : IsName n) : IsInner n :=
  fun c hc => ⟨fun hfeed => absurd (hfeed ▸ (h.2 c hc).1) (by decide), (h.2 c hc).2⟩

theorem IsTrail.isInner {t : List Char} (h : IsTrail t) : IsInner t := by
  cases h with
  | blanks hg => exact hg.isInner
  | renamed hg₁ hg₂ hx hg₃ =>
    have has : IsInner "as".toList := by simp [IsInner]
    exact hg₁.2.isInner.append (has.append (hg₂.2.isInner.append (hx.isInner.append hg₃.isInner)))

theorem Item.IsWritten.isInner {i : Item} (h : i.IsWritten) : IsInner i.text := h.name.isInner.append h.trail.isInner

theorem Item.IsWritten.exists_cons {i : Item} (h : i.IsWritten) : ∃ x r, i.text = x :: r ∧ isBlank x = false := by
  obtain ⟨⟨hne, hname⟩, -⟩ := h
  obtain ⟨x, r, hx⟩ := List.exists_cons_of_ne_nil hne
  exact ⟨x, r ++ i.trail, by rw [Item.text, hx, List.cons_append], (hname x (by simp [hx])).1⟩

theorem Members.IsWritten.exists_cons {names : Members} (h : names.IsWritten) :
    ∃ x r, names.text = x :: r ∧ isBlank x = false := by
  cases names with
  | all g => exact ⟨'*', g, rfl, by decide⟩
  | list first more =>
    obtain ⟨x, r, hx, hblank⟩ := h.1.exists_cons
    exact ⟨x, r ++ moreText more, by rw [Members.text, hx, List.cons_append], hblank⟩
  | bracketed inside g => exact ⟨'(', _, rfl, by decide⟩

theorem feed_not_mem_moreText {more : List (List Char × Item)} (h : ∀ p ∈ more, IsGap p.1 ∧ p.2.IsWritten) :
    '\n' ∉ moreText more := by
  rw [moreText, List.mem_flatMap]
  rintro ⟨p, hp, hmem⟩
  have hinner := (h p hp).1.isInner.append (h p hp).2.isInner
  exact (List.mem_cons.1 hmem).elim (by decide) fun hmem => (hinner '\n' hmem).1 rfl

theorem Members.IsWritten.feed_not_mem {names : Members} (h : names.IsWritten) : '\n' ∉ names.text := by
  cases names with
  | all g => simpa [text] using fun hmem => (IsGap.isInner h '\n' hmem).1 rfl
  | list first more =>
    simpa [text] using ⟨fun hmem => (h.1.isInner '\n' hmem).1 rfl, feed_not_mem_moreText h.2⟩
  | bracketed inside g => simpa [text] using ⟨h.1, fun hmem => (h.2.isInner '\n' hmem).1 rfl⟩

theorem Statement.IsWritten.feed_not_mem {s : Statement} (h : s.IsWritten) : '\n' ∉ s.text := by
  have hgap : ∀ {g : List Char}, IsGap g → '\n' ∉ g := fun hg hmem => (hg.isInner '\n' hmem).1 rfl
  cases s with
  | modules g first more =>
    obtain ⟨hg, hfirst, hmore⟩ := h
    simpa [text_modules] using ⟨hgap hg.2, fun hmem => (hfirst.isInner '\n' hmem).1 rfl, feed_not_mem_moreText hmore⟩
  | members g₁ m g₂ g₃ names =>
    obtain ⟨hg₁, hm, hg₂, hg₃, hnames⟩ := h
    simpa [text_members] using ⟨hgap hg₁.2, fun hmem =>
      (hm.isInner '\n' hmem).1 rfl, hgap hg₂.2, hgap hg₃.2, hnames.feed_not_mem⟩

/-! ## Matches of the pattern -/

def importFrom : Pattern := lit "from" ++ blanks1 ++ group 1 (plus isModuleChar) ++ blanks1

def importList : Pattern := lit "import" ++ (blanks1 ++ group 2 (plus isListChar))

theorem reaches_pythonImport_iff {c d : Cursor} : pythonImport.Reaches c d ↔ c.atLineStart = true ∧
    ∃ e₁ e₂, blanks.Reaches c e₁ ∧ (importFrom.Reaches e₁ e₂ ∨ e₂ = e₁) ∧ importList.Reaches e₂ d := by
  constructor
  · rintro ⟨e₅, ⟨e₄, ⟨e₂, ⟨e₁, ⟨_, ⟨hstart, rfl⟩, hblanks⟩, hfrom⟩, hword⟩, hgap⟩, hlist⟩
    exact ⟨hstart, e₁, e₂, hblanks, hfrom, e₄, hword, e₅, hgap, hlist⟩
  · rintro ⟨hstart, e₁, e₂, hblanks, hfrom, e₄, hword, e₅, hgap, hlist⟩
    exact ⟨e₅, ⟨e₄, ⟨e₂, ⟨e₁, ⟨c, ⟨hstart, rfl⟩, hblanks⟩, hfrom⟩, hword⟩, hgap⟩, hlist⟩

theorem reaches_blanks_iff {c e : Cursor} {x : Char} {r : List Char} (hc : c.after = x :: r) (hx : isBlank x = false) :
    blanks.Reaches c e ↔ e = c := by
  constructor
  · rintro ⟨w, r', hw, hblank, rfl⟩
    obtain ⟨g, hnil, rfl⟩ := exists_of_append_eq (g := []) (hc.symm.trans hw) hblank hx
    obtain ⟨rfl, rfl⟩ := List.append_eq_nil_iff.1 hnil.symm
    rw [List.nil_append, ← hc, Cursor.past_nil]
  · rintro rfl
    exact ⟨[], _, rfl, by simp, rfl⟩

section

variable {e d : Cursor} {g r : List Char} {x : Char} (hg : IsBreak g) (hx : isBlank x = false)
  (he : e.after = "import".toList ++ (g ++ x :: r))

include hg hx he

theorem reaches_importList_iff :
    importList.Reaches e d ↔ ∃ w₁ g' w₂ r', g = w₁ ++ g' ∧ w₁ ≠ [] ∧ g' ++ x :: r = w₂ ++ r' ∧ w₂ ≠ [] ∧
    (∀ c ∈ w₂, isListChar c = true) ∧
      d = { e.past ("import".toList ++ (w₁ ++ w₂)) r' with groups := (2, w₂) :: e.groups } := by
  constructor
  · rintro ⟨e₁, hword, e₂, hgap, hlist⟩
    obtain ⟨_, r₁, h₁, rfl, rfl⟩ := (spells_lit _ _ _).1 hword
    obtain rfl : g ++ x :: r = r₁ := List.append_cancel_left (he.symm.trans h₁)
    obtain ⟨w₁, r₂, h₂, ⟨hne₁, hblank⟩, rfl⟩ := (spells_plus _ _ _).1 hgap
    obtain ⟨g', rfl, rfl⟩ := exists_of_append_eq h₂ hblank hx
    obtain ⟨w₂, r', h₃, ⟨hne₂, hlisted⟩, rfl⟩ := (spells_plus _).reaches_group_iff.1 hlist
    exact ⟨w₁, g', w₂, r', rfl, hne₁, h₃, hne₂, hlisted, by simp⟩
  · rintro ⟨w₁, g', w₂, r', rfl, hne₁, h₃, hne₂, hlisted, rfl⟩
    refine ⟨e.past "import".toList (w₁ ++ (g' ++ x :: r)),
      (spells_lit _ _ _).2 ⟨_, _, by rw [he, List.append_assoc], rfl, rfl⟩,
      e.past ("import".toList ++ w₁) (g' ++ x :: r), (spells_plus _ _ _).2 ⟨w₁, _, rfl, ⟨hne₁, ?_⟩, by simp⟩,
      (spells_plus _).reaches_group_iff.2 ⟨w₂, r', h₃, ⟨hne₂, hlisted⟩, by simp⟩⟩
    exact fun c hc => hg.isBlank c (List.mem_append_left _ hc)

theorem exists_reaches_importList_iff : (∃ d, importList.Reaches e d) ↔ listed g (x :: r) = true := by
  simp only [reaches_importList_iff hg hx he, listed, List.head?_cons, Option.any_some, Bool.or_eq_true,
    List.contains_iff_mem]
  constructor
  · rintro ⟨d, w₁, g', w₂, r', rfl, hne₁, h₃, hne₂, hlisted, -⟩
    obtain ⟨a, w₁, rfl⟩ := List.exists_cons_of_ne_nil hne₁
    obtain ⟨b, w₂, rfl⟩ := List.exists_cons_of_ne_nil hne₂
    cases g' with
    | nil =>
      obtain ⟨rfl, -⟩ := List.cons.inj h₃
      exact .inl (hlisted x List.mem_cons_self)
    | cons y g' =>
      obtain ⟨rfl, -⟩ := List.cons.inj h₃
      have hy := eq_space_of_isListChar (hg.isBlank y (by simp)) (hlisted y List.mem_cons_self)
      exact .inr (by simp [hy])
  · rintro (hlist | hspace)
    · exact ⟨_, g, [], [x], r, by simp, hg.1, rfl, by simp, by simpa using hlist, rfl⟩
    · obtain ⟨a, t, rfl⟩ := List.exists_cons_of_ne_nil hg.1
      obtain ⟨u, v, rfl⟩ := List.append_of_mem hspace
      exact ⟨_, a :: u, ' ' :: v, [' '], v ++ x :: r, rfl, by simp, rfl, by simp,
        List.forall_mem_singleton.2 (by decide), rfl⟩

/-- A match goes beyond the start, and not beyond the line. -/
theorem exists_of_reaches_importList {t v : List Char} (hr : r = t ++ v) (hv : AtFeed v) (h : importList.Reaches e d) :
    e.index < d.index ∧ ∃ y, d.after = y ++ v := by
  obtain ⟨w₁, g', w₂, r', -, hne₁, h₃, -, hlisted, rfl⟩ := (reaches_importList_iff hg hx he).1 h
  refine ⟨by simp [Cursor.past], ?_⟩
  cases v with
  | nil => exact ⟨r', by simp⟩
  | cons a v =>
    obtain rfl := hv a rfl
    have hsplit : (g' ++ x :: t) ++ '\n' :: v = w₂ ++ r' := by simpa [hr] using h₃
    obtain ⟨y, -, hy⟩ := exists_of_append_eq hsplit hlisted (by decide)
    exact ⟨y, hy⟩

end

theorem head?_of_reaches_importList {e d : Cursor} (h : importList.Reaches e d) : e.after.head? = some 'i' := by
  obtain ⟨e₁, hword, -⟩ := h
  obtain ⟨_, r, he, rfl, -⟩ := (spells_lit _ _ _).1 hword
  rw [he]
  rfl

section

variable {c e d : Cursor} {g₁ m g₂ z : List Char} (hg₁ : IsBreak g₁) (hm : IsName m) (hg₂ : IsBreak g₂)
  (hz : z.head? = some 'i')
  (hc : c.after = "from".toList ++ (g₁ ++ (m ++ (g₂ ++ z))))

include hg₁ hm hg₂ hz hc

/-- What leads from the start of the line to a list of members: all of the module, in characters of such names. -/
theorem reaches_importFrom_iff : importFrom.Reaches c e ∧ e.after.head? = some 'i' ↔ (∀ a ∈ m, isModuleChar a = true) ∧
    e = { c.past ("from".toList ++ (g₁ ++ (m ++ g₂))) z with groups := (1, m) :: c.groups } := by
  obtain ⟨z, rfl⟩ := List.head?_eq_some_iff.1 hz
  constructor
  · rintro ⟨⟨e₃, ⟨e₂, ⟨e₁, hword, hgap⟩, hmodule⟩, hgap'⟩, hi⟩
    obtain ⟨s, hs⟩ := List.head?_eq_some_iff.1 hi
    obtain ⟨_, r₁, h₁, rfl, rfl⟩ := (spells_lit _ _ _).1 hword
    obtain rfl : g₁ ++ (m ++ (g₂ ++ 'i' :: z)) = r₁ := List.append_cancel_left (hc.symm.trans h₁)
    obtain ⟨w₁, _, h₂, ⟨-, hw₁⟩, rfl⟩ := (spells_plus _ _ _).1 hgap
    obtain ⟨w, _, rfl, ⟨hne, hw⟩, rfl⟩ := (spells_plus _).reaches_group_iff.1 hmodule
    obtain ⟨w₂, _, rfl, ⟨hne', hw₂⟩, rfl⟩ := (spells_plus _ _ _).1 hgap'
    obtain rfl := hs
    obtain ⟨rfl, rfl, rfl, rfl⟩ := eq_of_words hg₁ hm hg₂ (by decide) hw₁ hne hw hne' hw₂ h₂
    exact ⟨hw, by simp +arith [Cursor.past]⟩
  · rintro ⟨hw, rfl⟩
    refine ⟨⟨{ c.past ("from".toList ++ (g₁ ++ m)) (g₂ ++ 'i' :: z) with groups := (1, m) :: c.groups },
      ⟨c.past ("from".toList ++ g₁) (m ++ (g₂ ++ 'i' :: z)), ⟨c.past "from".toList (g₁ ++ (m ++ (g₂ ++ 'i' :: z))),
        (spells_lit _ _ _).2 ⟨_, _, hc, rfl, rfl⟩, (spells_plus _ _ _).2 ⟨g₁, _, rfl, ⟨hg₁.1, hg₁.isBlank⟩, by simp⟩⟩,
        (spells_plus _).reaches_group_iff.2 ⟨m, _, rfl, ⟨hm.1, hw⟩, by simp⟩⟩,
      (spells_plus _ _ _).2 ⟨g₂, _, rfl, ⟨hg₂.1, hg₂.isBlank⟩, ?_⟩⟩, rfl⟩
    simp +arith [Cursor.past]

theorem reaches_members_iff : pythonImport.Reaches c d ↔ c.atLineStart = true ∧ (∀ a ∈ m, isModuleChar a = true) ∧
    importList.Reaches { c.past ("from".toList ++ (g₁ ++ (m ++ g₂))) z with groups := (1, m) :: c.groups } d := by
  have hblanks : ∀ {e : Cursor}, blanks.Reaches c e ↔ e = c := reaches_blanks_iff hc (by decide)
  have hfrom := fun e => reaches_importFrom_iff (e := e) hg₁ hm hg₂ hz hc
  rw [reaches_pythonImport_iff]
  refine and_congr_right fun _ => ⟨?_, fun h => ⟨c, _, hblanks.2 rfl, .inl ((hfrom _).2 ⟨h.1, rfl⟩).1, h.2⟩⟩
  rintro ⟨e₁, e₂, h₁, h, h₂⟩
  obtain rfl := hblanks.1 h₁
  have hi := head?_of_reaches_importList h₂
  rcases h with h | rfl
  · obtain ⟨hchars, rfl⟩ := (hfrom e₂).1 ⟨h, hi⟩
    exact ⟨hchars, h₂⟩
  · rw [hc] at hi
    exact absurd (Option.some.inj hi) (by decide)

end

/-! ## Matches at a statement -/

theorem reaches_modules_iff {c d : Cursor} {r : List Char} (hc : c.after = "import".toList ++ r) :
    pythonImport.Reaches c d ↔ c.atLineStart = true ∧ importList.Reaches c d := by
  have hblanks : ∀ {e : Cursor}, blanks.Reaches c e ↔ e = c := reaches_blanks_iff hc (by decide)
  rw [reaches_pythonImport_iff]
  refine and_congr_right fun _ => ⟨?_, fun h => ⟨c, c, hblanks.2 rfl, .inr rfl, h⟩⟩
  rintro ⟨e₁, e₂, h₁, hfrom | rfl, h₂⟩
  · obtain rfl := hblanks.1 h₁
    obtain ⟨_, ⟨_, ⟨_, hword, -⟩, -⟩, -⟩ := hfrom
    obtain ⟨_, r', he, rfl, -⟩ := (spells_lit _ _ _).1 hword
    exact absurd (List.cons.inj (hc.symm.trans he)).1 (by decide)
  · exact hblanks.1 h₁ ▸ h₂

/-- The list is taken as far as it goes if it can begin where the blanks end. -/
theorem exists_matchAt?_modules {c : Cursor} {g r : List Char} {x : Char} (hstart : c.atLineStart = true)
    (hg : IsBreak g) (hx : isBlank x = false) (hlist : isListChar x = true)
    (hc : c.after = "import".toList ++ (g ++ x :: r)) :
    ∃ d, pythonImport.matchAt? c = some d ∧ d.groups = (2, (x :: r).takeWhile isListChar) :: c.groups := by
  have hblank := hg.isBlank
  obtain ⟨b, g', hb⟩ := List.exists_cons_of_ne_nil hg.1
  have htake : (x :: r).take ((x :: r).takeWhile isListChar).length = (x :: r).takeWhile isListChar :=
    (List.prefix_iff_eq_take.1 (List.takeWhile_prefix _)).symm
  let e := c.past ("import".toList ++ g) (x :: r)
  let d := { e.past ((x :: r).takeWhile isListChar) ((x :: r).dropWhile isListChar) with
    groups := (2, (x :: r).takeWhile isListChar) :: c.groups }
  have hgroup : (group 2 (plus isListChar)).run some e = some d := by
    refine run_plus_of_some (c := e) rfl hlist ?_
    simp [d, e, Cursor.past, htake]
  have hgap : blanks1.run (fun f => (group 2 (plus isListChar)).run some f) (c.past "import".toList (g ++ x :: r)) =
      some d := by
    refine run_plus_of_some (c := c.past _ _) (by rw [Cursor.after_past, hb, List.cons_append])
      (hblank b (by simp [hb])) ?_
    have hnot : ¬ isBlank x = true := by simp [hx]
    rw [Cursor.after_past, List.takeWhile_append_of_pos hblank, List.dropWhile_append_of_pos hblank,
      List.takeWhile_cons_of_neg hnot, List.dropWhile_cons_of_neg hnot, List.append_nil, Cursor.past_past]
    exact hgroup
  have hword : (lit "import").run (fun f => blanks1.run (fun f => (group 2 (plus isListChar)).run some f) f) c =
      some d := by
    rw [lit, run_ofChars, if_pos (by simp [hc]), hc, List.drop_left]
    exact hgap
  -- the `from` is tried first, in vain; and no blanks are there to be given back
  have hfrom : ∀ k, importFrom.run k c = none := fun k => (run_ofChars _ _ c).trans (if_neg (by simp [hc]))
  have hnone : c.after.takeWhile isBlank = [] ∧ c.after.dropWhile isBlank = c.after := by rw [hc]; exact ⟨rfl, rfl⟩
  refine ⟨d, (if_pos hstart).trans (run_star_of_some ?_), rfl⟩
  rw [hnone.1, hnone.2, Cursor.past_nil]
  exact (run_optional_of_none (hfrom _)).trans hword

def moduleOf (groups : List (Nat × List Char)) : List Char := importedModule ⟨0, [], groups⟩

/-- Up to the first comma, a list goes on as long as the text before the comma does. -/
theorem upToFirst_takeWhile {t s : List Char} (ht : ',' ∉ t) (hs : ∀ c ∈ s.head?, c = ',' ∨ isListChar c = false) :
    upToFirst [','] ((t ++ s).takeWhile isListChar) = t.takeWhile isListChar := by
  induction t with
  | nil =>
    cases s with
    | nil => rfl
    | cons c s =>
      rcases hs c rfl with rfl | hc
      · rw [List.nil_append, List.takeWhile_cons_of_pos (by decide), upToFirst_cons]
        simp
      · rw [List.nil_append, List.takeWhile_cons_of_neg (by simp [hc])]
        rfl
  | cons a t ih =>
    have ha : ',' ≠ a := List.ne_of_not_mem_cons ht
    rw [List.cons_append]
    by_cases hlist : isListChar a = true
    · rw [List.takeWhile_cons_of_pos hlist, List.takeWhile_cons_of_pos hlist, upToFirst_cons, if_neg (by simp [ha]),
        ih (List.not_mem_of_not_mem_cons ht)]
    · rw [List.takeWhile_cons_of_neg hlist, List.takeWhile_cons_of_neg hlist]
      rfl

theorem strip_of_blank {t : List Char} (h : ∀ c ∈ t, isBlank c = true) : strip t = [] := by
  rw [strip, stripBy, stripLeftBy, List.dropWhile_eq_nil_iff.2 h]
  rfl

theorem head?_moreText_append {more : List (List Char × Item)} {v : List Char} (hv : AtFeed v) :
    ∀ c ∈ (moreText more ++ v).head?, c = ',' ∨ isListChar c = false := by
  intro c hc
  cases more with
  | nil =>
    obtain rfl := hv c hc
    exact .inr (by decide)
  | cons p more => exact .inl (Option.some.inj hc).symm

theorem map_matchAt?_modules {c : Cursor} {v g : List Char} {first : Item} {more : List (List Char × Item)}
    (hstart : c.atLineStart = true) (hgroups : c.groups = []) (hv : AtFeed v)
    (hs : (Statement.modules g first more).IsWritten)
    (hc : c.after = (Statement.modules g first more).text ++ v) :
    (pythonImport.matchAt? c).map (moduleOf ·.groups) = (Statement.modules g first more).reported? := by
  obtain ⟨hg, hfirst, -⟩ := hs
  obtain ⟨x, r, hx, hblank⟩ := hfirst.exists_cons
  have hafter : c.after = "import".toList ++ (g ++ x :: (r ++ (moreText more ++ v))) := by
    simpa [Statement.text_modules, hx] using hc
  have hlisted : listed g (x :: (r ++ (moreText more ++ v))) = listed g first.text := by simp [listed, hx]
  rw [Statement.reported?]
  by_cases hlist : isListChar x = true
  · obtain ⟨d, hd, hgroup⟩ := exists_matchAt?_modules hstart hg hblank hlist hafter
    have hcomma : ',' ∉ first.text := fun hmem => (hfirst.isInner ',' hmem).2 rfl
    have hmodule : moduleOf d.groups = strip (first.text.takeWhile isListChar) := by
      rw [hgroup, hgroups, ← upToFirst_takeWhile hcomma (head?_moreText_append hv), hx]
      rfl
    rw [hd, Option.map_some, hmodule, if_pos (by simp [listed, hx, hlist])]
  · -- the list can only begin among the blanks, and then ends there
    have hlist : isListChar x = false := by simpa using hlist
    have hstrip : strip (first.text.takeWhile isListChar) = [] := by
      rw [hx, List.takeWhile_cons_of_neg (by simp [hlist])]
      rfl
    have hexists := exists_reaches_importList_iff hg hblank hafter
    rw [hlisted] at hexists
    rw [hstrip]
    cases hd : pythonImport.matchAt? c with
    | none =>
      have hnone := matchAt?_eq_none_iff.1 hd
      rw [Option.map_none, if_neg]
      rintro hlisted
      obtain ⟨d, hd⟩ := hexists.2 hlisted
      exact hnone d ((reaches_modules_iff hafter).2 ⟨hstart, hd⟩)
    | some d =>
      have hreach := ((reaches_modules_iff hafter).1 (reaches_of_matchAt? hd)).2
      rw [Option.map_some, if_pos (hexists.1 ⟨d, hreach⟩)]
      obtain ⟨w₁, g', w₂, r', rfl, -, h, -, hw, rfl⟩ := (reaches_importList_iff hg hblank hafter).1 hreach
      obtain ⟨g'', rfl, -⟩ := exists_of_append_eq h hw hlist
      have hblanks : ∀ a ∈ w₂, isBlank a = true := fun a ha => hg.isBlank a (by simp [ha])
      have hcomma : ',' ∉ w₂ := fun hmem => absurd (hblanks _ hmem) (by decide)
      have hinfix : ¬ [','] <:+: w₂ := fun hp => hcomma (hp.subset List.mem_cons_self)
      rw [hgroups]
      show some (strip (upToFirst [','] w₂)) = some []
      rw [upToFirst_of_not_isInfix hinfix, strip_of_blank hblanks]

theorem map_matchAt?_members {c : Cursor} {v g₁ m g₂ g₃ : List Char} {names : Members} (hstart : c.atLineStart = true)
    (hs : (Statement.members g₁ m g₂ g₃ names).IsWritten)
    (hc : c.after = (Statement.members g₁ m g₂ g₃ names).text ++ v) :
    (pythonImport.matchAt? c).map (moduleOf ·.groups) = (Statement.members g₁ m g₂ g₃ names).reported? := by
  obtain ⟨hg₁, hm, hg₂, hg₃, hnames⟩ := hs
  obtain ⟨x, r, hx, hblank⟩ := hnames.exists_cons
  have hafter : c.after = "from".toList ++ (g₁ ++ (m ++ (g₂ ++ ("import".toList ++ (g₃ ++ x :: (r ++ v)))))) := by
    simpa [Statement.text_members, hx] using hc
  have hlisted : listed g₃ (x :: (r ++ v)) = listed g₃ names.text := by simp [listed, hx]
  have hreach := fun d => reaches_members_iff (d := d) hg₁ hm hg₂ rfl hafter
  have hexists := exists_reaches_importList_iff (e := { c.past ("from".toList ++ (g₁ ++ (m ++ g₂)))
    ("import".toList ++ (g₃ ++ x :: (r ++ v))) with groups := (1, m) :: c.groups }) hg₃ hblank rfl
  rw [hlisted] at hexists
  rw [Statement.reported?]
  cases hd : pythonImport.matchAt? c with
  | none =>
    have hnone := matchAt?_eq_none_iff.1 hd
    rw [Option.map_none, if_neg]
    rw [Bool.and_eq_true, List.all_eq_true]
    rintro ⟨hchars, hlist⟩
    obtain ⟨d, hd⟩ := hexists.2 hlist
    exact hnone d ((hreach d).2 ⟨hstart, hchars, hd⟩)
  | some d =>
    obtain ⟨-, hchars, hlist⟩ := (hreach d).1 (reaches_of_matchAt? hd)
    rw [Option.map_some, if_pos (by rw [hexists.1 ⟨d, hlist⟩, List.all_eq_true.2 hchars]; rfl)]
    obtain ⟨-, -, w₂, -, -, -, -, -, -, rfl⟩ := (reaches_importList_iff hg₃ hblank rfl).1 hlist
    obtain ⟨a, m', rfl⟩ := List.exists_cons_of_ne_nil hm.1
    rfl

theorem map_matchAt? {c : Cursor} {v : List Char} {s : Statement} (hstart : c.atLineStart = true)
    (hgroups : c.groups = []) (hv : AtFeed v) (hs : s.IsWritten) (hc : c.after = s.text ++ v) :
    (pythonImport.matchAt? c).map (moduleOf ·.groups) = s.reported? := by
  cases s with
  | modules => exact map_matchAt?_modules hstart hgroups hv hs hc
  | members => exact map_matchAt?_members hstart hs hc

theorem exists_of_reaches {c d : Cursor} {v : List Char} {s : Statement} (hv : AtFeed v) (hs : s.IsWritten)
    (hc : c.after = s.text ++ v) (h : pythonImport.Reaches c d) : c.index < d.index ∧ ∃ y, d.after = y ++ v := by
  cases s with
  | modules g first more =>
    obtain ⟨hg, hfirst, -⟩ := hs
    obtain ⟨x, r, hx, hblank⟩ := hfirst.exists_cons
    have hafter : c.after = "import".toList ++ (g ++ x :: ((r ++ moreText more) ++ v)) := by
      simpa [Statement.text_modules, hx] using hc
    exact exists_of_reaches_importList hg hblank hafter rfl hv ((reaches_modules_iff hafter).1 h).2
  | members g₁ m g₂ g₃ names =>
    obtain ⟨hg₁, hm, hg₂, hg₃, hnames⟩ := hs
    obtain ⟨x, r, hx, hblank⟩ := hnames.exists_cons
    have hafter : c.after = "from".toList ++ (g₁ ++ (m ++ (g₂ ++ ("import".toList ++ (g₃ ++ x :: (r ++ v)))))) := by
      simpa [Statement.text_members, hx] using hc
    obtain ⟨-, -, hlist⟩ := (reaches_members_iff hg₁ hm hg₂ rfl hafter).1 h
    obtain ⟨hindex, hafter⟩ := exists_of_reaches_importList hg₃ hblank rfl rfl hv hlist
    exact ⟨(Nat.le_add_right _ _).trans_lt hindex, hafter⟩

/-! ## Matches in a source -/

theorem matchAt?_of_not_start {a : Char} (ha : a ≠ '\n') (before after : List Char) (index : Nat)
    (groups : List (Nat × List Char)) :
    pythonImport.matchAt? ⟨a :: before, after, index, groups⟩ = none :=
  matchAt?_eq_none_iff.2 fun _ hd => ha (by simpa [Cursor.atLineStart] using (reaches_pythonImport_iff.1 hd).1)

/-- Behind the start of a line nothing is found until the line ends. -/
theorem collect_passes {a : Char} {before u v : List Char} {index skip : Nat} {acc : List Found} (ha : a ≠ '\n')
    (hu : '\n' ∉ u) (hskip : skip ≤ u.length) : pythonImport.collect (a :: before) index skip acc (u ++ v) =
      pythonImport.collect (u.reverse ++ a :: before) (index + u.length) 0 acc v := by
  induction u generalizing a before index skip with
  | nil =>
    obtain rfl := Nat.le_zero.1 hskip
    rfl
  | cons b u ih =>
    have hnext : ∀ skip ≤ u.length, pythonImport.collect (b :: a :: before) (index + 1) skip acc (u ++ v) =
        pythonImport.collect ((b :: u).reverse ++ a :: before) (index + (b :: u).length) 0 acc v := by
      intro skip hskip
      rw [ih (List.ne_of_not_mem_cons hu).symm (List.not_mem_of_not_mem_cons hu) hskip]
      simp [Nat.add_assoc, Nat.add_comm 1]
    cases skip with
    | succ n => exact hnext n (Nat.le_of_succ_le_succ hskip)
    | zero =>
      rw [List.cons_append, collect, matchAt?_of_not_start ha]
      exact hnext 0 (Nat.zero_le _)

/-- The walk over a statement finds what is reported for it. -/
theorem exists_collect_statement {s : Statement} {before v : List Char} (hs : s.IsWritten) (hv : AtFeed v)
    (hstart : ∀ a ∈ before.head?, a = '\n') (index : Nat) (acc : List Found) :
    ∃ found : List Found, found.map importedModule = s.reported?.toList ∧
      pythonImport.collect before index 0 acc (s.text ++ v) =
      pythonImport.collect (s.text.reverse ++ before) (index + s.text.length) 0 (found ++ acc) v := by
  have hfeed := hs.feed_not_mem
  have hstart : ∀ after, Cursor.atLineStart ⟨before, after, index, []⟩ = true := fun after => by
    cases before with
    | nil => rfl
    | cons a before => simpa [Cursor.atLineStart] using hstart a rfl
  have hmodule := map_matchAt? (c := ⟨before, s.text ++ v, index, []⟩) (hstart _) rfl hv hs rfl
  have hend := fun d => exists_of_reaches (c := ⟨before, s.text ++ v, index, []⟩) (d := d) hv hs rfl
  obtain ⟨a, u, hu⟩ : ∃ a u, s.text = a :: u := by cases s <;> exact ⟨_, _, rfl⟩
  rw [hu] at hfeed hmodule hend ⊢
  have ha : a ≠ '\n' := (List.ne_of_not_mem_cons hfeed).symm
  -- whatever is found at the start of the line, what is skipped for it ends on the line
  have hpass : ∀ skip ≤ u.length, ∀ found, pythonImport.collect (a :: before) (index + 1) skip found (u ++ v) =
      pythonImport.collect ((a :: u).reverse ++ before) (index + (a :: u).length) 0 found v := by
    intro skip hskip found
    rw [collect_passes ha (List.not_mem_of_not_mem_cons hfeed) hskip]
    simp [Nat.add_assoc, Nat.add_comm 1]
  rw [List.cons_append] at hmodule hend ⊢
  rw [← hmodule, collect]
  cases hd : pythonImport.matchAt? ⟨before, a :: (u ++ v), index, []⟩ with
  | none => exact ⟨[], rfl, hpass 0 (Nat.zero_le _) acc⟩
  | some d =>
    have hreach := reaches_of_matchAt? hd
    obtain ⟨hindex, y, hy⟩ := hend d hreach
    obtain ⟨w, hw, hlength⟩ := hreach.exists_past
    have hwy : a :: u = w ++ y := by
      rw [hy, ← List.append_assoc] at hw
      exact List.append_cancel_right hw
    have hcount := congrArg List.length hwy
    simp only [List.length_cons, List.length_append] at hcount
    simp only at hindex hlength
    obtain ⟨n, hn⟩ : ∃ n, d.index - index = n + 1 := ⟨d.index - index - 1, by omega⟩
    simp only [hn]
    exact ⟨[⟨index, _, d.groups⟩], rfl, hpass n (by omega) _⟩

theorem map_importedModule_collect {ss : List Statement} {t : List Char} (ht : IsSource ss t)
    (hs : ∀ s ∈ ss, s.IsWritten) (before : List Char) (index : Nat) (acc : List Found)
    (hstart : ∀ a ∈ before.head?, a = '\n') :
    (pythonImport.collect before index 0 acc t).map importedModule = (ss.filterMap (·.reported?)).reverse ++
      acc.map importedModule := by
  -- along the source; each statement is met at the start of its line
  induction ht generalizing before index acc with
  | nil => rfl
  | last s =>
    obtain ⟨found, hfound, hcollect⟩ :=
      exists_collect_statement (v := []) (hs s List.mem_cons_self) (by simp [AtFeed]) hstart
      index acc
    rw [List.append_nil] at hcollect
    rw [hcollect, collect, List.map_append, hfound]
    cases h : s.reported? <;> simp [h]
  | @cons s ss t _ ih =>
    obtain ⟨found, hfound, hcollect⟩ :=
      exists_collect_statement (v := '\n' :: t) (hs s List.mem_cons_self) (by simp [AtFeed])
      hstart index acc
    have hne : s.text.reverse ≠ [] := by cases s <;> simp [Statement.text_modules, Statement.text_members]
    obtain ⟨b, u, hu⟩ := List.exists_cons_of_ne_nil hne
    have hb : b ≠ '\n' := fun hb => (hs s List.mem_cons_self).feed_not_mem (by rw [← hb, ← List.mem_reverse, hu]; simp)
    have hfeed : pythonImport.collect (s.text.reverse ++ before) (index + s.text.length) 0 (found ++ acc) ('\n' :: t) =
        pythonImport.collect ('\n' :: (s.text.reverse ++ before)) (index + s.text.length + 1) 0 (found ++ acc) t := by
      rw [hu, List.cons_append, collect, matchAt?_of_not_start hb]
    rw [hcollect, hfeed, ih (fun s' h => hs s' (List.mem_cons_of_mem _ h)) _ _ _ (by simp), List.map_append, hfound]
    cases h : s.reported? <;> simp [h]

/-- What a source gives is what its statements give one by one. -/
theorem map_importedModule_findAll {ss : List Statement} {t : List Char} (ht : IsSource ss t)
    (hs : ∀ s ∈ ss, s.IsWritten) :
    (pythonImport.findAll t).map importedModule = ss.filterMap (·.reported?) := by
  rw [findAll, List.map_reverse, map_importedModule_collect ht hs [] 0 [] (by simp)]
  simp

theorem reported?_of_isPlain {s : Statement} (hs : s.IsWritten) (h : s.IsPlain) :
    ∃ m, s.reported? = some m ∧ s.imported = [m] := by
  have hlisted : ∀ {i : Item} {g t : List Char}, i.IsWritten → (∀ c ∈ i.name, isListChar c = true) →
      listed g (i.text ++ t) = true := by
    intro i g t hi hchars
    obtain ⟨x, r, hx⟩ := List.exists_cons_of_ne_nil hi.name.1
    simp [listed, Item.text, hx, hchars x (by simp [hx])]
  cases s with
  | modules g first more =>
    obtain ⟨-, hfirst, -⟩ := hs
    obtain ⟨rfl, htrail, hchars⟩ := h
    have hlist := hlisted (g := g) (t := []) hfirst hchars
    rw [List.append_nil] at hlist
    refine ⟨first.name, ?_, rfl⟩
    have hblank : ∀ c ∈ first.trail.takeWhile isListChar, isBlank c = true :=
      fun c hc => (htrail c ((List.takeWhile_prefix _).subset hc)).1
    have hleft : stripLeftBy isBlank (first.name ++ first.trail.takeWhile isListChar) =
        first.name ++ first.trail.takeWhile isListChar := by
      obtain ⟨x, r, hx⟩ := List.exists_cons_of_ne_nil hfirst.name.1
      rw [hx, List.cons_append]
      exact List.dropWhile_cons_of_neg (by simp [(hfirst.name.2 x (by simp [hx])).1])
    rw [Statement.reported?, if_pos hlist, Item.text, List.takeWhile_append_of_pos hchars, strip, stripBy, hleft,
      stripRightBy_append (fun c hc => (hfirst.name.2 c (List.mem_of_getLast? hc)).1) hblank]
  | members g₁ m g₂ g₃ names =>
    obtain ⟨-, -, -, -, hnames⟩ := hs
    obtain ⟨hm, first, more, rfl, hchars⟩ := h
    refine ⟨m, ?_, rfl⟩
    rw [Statement.reported?, if_pos]
    rw [Members.text, hlisted hnames.1 hchars, List.all_eq_true.2 hm]
    rfl

/-- Of a source of import statements, each module that is reported for a statement is returned once, and nothing else.
The modules that are imported are all returned if each statement is plain. -/
theorem ofSource_python_statements {ss : List Statement} {t : List Char} (hs : ∀ s ∈ ss, s.IsWritten)
    (ht : IsSource ss t) :
    (ofSource .python t).Nodup ∧
      (∀ name, name ∈ ofSource .python t ↔ ∃ s ∈ ss, s.reported? = some name.toList) ∧
      ((∀ s ∈ ss, s.IsPlain) → ∀ name, name ∈ ofSource .python t ↔ ∃ s ∈ ss, name.toList ∈ s.imported) := by
  have hmem : ∀ name, name ∈ ofSource .python t ↔ ∃ s ∈ ss, s.reported? = some name.toList := by
    intro name
    simp only [ofSource, map_importedModule_findAll ht hs, List.mem_eraseDups, List.mem_map, List.mem_filterMap]
    constructor
    · rintro ⟨m, ⟨s, hmem, hm⟩, rfl⟩
      exact ⟨s, hmem, by rw [hm, String.toList_ofList]⟩
    · rintro ⟨s, hmem, hm⟩
      exact ⟨name.toList, ⟨s, hmem, hm⟩, String.ofList_toList⟩
  refine ⟨CallGraph.nodup_eraseDups _, hmem, fun hplain name => (hmem name).trans ?_⟩
  refine exists_congr fun s => and_congr_right fun hmem => ?_
  obtain ⟨m, hm, himported⟩ := reported?_of_isPlain (hs s hmem) (hplain s hmem)
  rw [hm, himported, List.mem_singleton, Option.some.injEq, eq_comm]

/-- Two modules in one statement, and all members of a third. -/
def severalModules : List Statement :=
  [.modules [' '] ⟨"os".toList, []⟩ [([' '], ⟨"sys".toList, []⟩)], .members [' '] "m".toList [' '] [' '] (.all [])]

/-- Of three modules that are imported, the first alone is returned. -/
theorem ofSource_python_statements_severalModules :
    (∀ s ∈ severalModules, s.IsWritten) ∧ IsSource severalModules "import os, sys\nfrom m import *".toList ∧
      (severalModules.flatMap (·.imported)).map String.ofList = ["os", "sys", "m"] ∧
      ∀ name, name ∈ ofSource .python "import os, sys\nfrom m import *".toList ↔ name = "os" := by
  have hs : ∀ s ∈ severalModules, s.IsWritten := by
    have hgap : IsBreak [' '] := by decide
    have hitem : ∀ {n : List Char}, IsName n → Item.IsWritten ⟨n, []⟩ := fun hn => ⟨hn, .blanks (by simp [IsGap])⟩
    intro s hmem
    rcases List.mem_cons.1 hmem with rfl | hmem
    · refine ⟨hgap, hitem (by decide), fun p hp => ?_⟩
      obtain rfl := List.mem_singleton.1 hp
      exact ⟨hgap.2, hitem (by decide)⟩
    · obtain rfl := List.mem_singleton.1 hmem
      exact ⟨hgap, by decide, hgap, hgap, (by decide : IsGap [])⟩
  have ht : IsSource severalModules "import os, sys\nfrom m import *".toList := .cons _ (.last _)
  have hreported : severalModules.map (·.reported?) = [some "os".toList, none] := by decide
  refine ⟨hs, ht, by decide, fun name => ?_⟩
  rw [(ofSource_python_statements hs ht).2.1, ← List.mem_map (f := fun s : Statement => s.reported?), hreported]
  simp only [List.mem_cons, Option.some.injEq, String.toList_inj, reduceCtorEq, List.not_mem_nil, or_false]

end CodeSurvey.Imports
