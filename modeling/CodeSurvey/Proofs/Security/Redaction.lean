/-
What the finding of a secret shows of it. The rules that find secrets capture their texts, and the line is shown with
quoted texts of twelve plain characters or more blotted out. The two do not agree: a secret that is no such text is
shown in full (`scan_snippet_secret`).
-/
import CodeSurvey.Proofs.Pattern.Cut
import CodeSurvey.Proofs.Security.Located

namespace CodeSurvey.Security

open Pattern

/-! ## What is blotted out -/

/-- The characters of a text that is blotted out. -/
def isPlain (c : Char) : Bool := c.isAlphanum || c == '_' || c == '-'

/-- Would the text be blotted out in quotes? -/
def isLongPlain (s : List Char) : Bool := decide (12 ≤ s.length) && s.all isPlain

/-- A long plain text in quotes. -/
def IsBlotted (w : List Char) : Prop :=
  ∃ q s q', w = q :: (s ++ [q']) ∧ isQuote q = true ∧ isQuote q' = true ∧ isLongPlain s = true

def mark : List Char := "***REDACTED***".toList

theorem isLongPlain_iff {s : List Char} : isLongPlain s = true ↔ 12 ≤ s.length ∧ ∀ c ∈ s, isPlain c = true := by
  simp [isLongPlain]

theorem spells_secretText : secretText.Spells IsBlotted := by
  refine (((spells_one isQuote).append (spells_atLeast 12 isPlain)).append (spells_one isQuote)).congr fun w => ?_
  constructor
  · rintro ⟨_, _, rfl, ⟨_, s, rfl, ⟨q, hq, rfl⟩, hs⟩, q', hq', rfl⟩
    exact ⟨q, s, q', rfl, hq, hq', isLongPlain_iff.2 hs⟩
  · rintro ⟨q, s, q', rfl, hq, hq', hs⟩
    exact ⟨q :: s, [q'], rfl, ⟨[q], s, rfl, ⟨q, hq, rfl⟩, isLongPlain_iff.1 hs⟩, q', hq', rfl⟩

theorem IsBlotted.ne_nil {w : List Char} (h : IsBlotted w) : w ≠ [] := by
  obtain ⟨q, s, q', rfl, -⟩ := h
  exact List.cons_ne_nil _ _

theorem isQuote_iff {c : Char} : isQuote c = true ↔ c = '"' ∨ c = '\'' := by
  simp [isQuote]

theorem isPlain_of_isQuote {c : Char} (h : isQuote c = true) : isPlain c = false := by
  rcases isQuote_iff.1 h with rfl | rfl <;> decide

theorem isBlank_of_isQuote {c : Char} (h : isQuote c = true) : Text.isBlank c = false := by
  rcases isQuote_iff.1 h with rfl | rfl <;> decide

theorem isKeyChar_of_isQuote {c : Char} (h : isQuote c = true) : isKeyChar c = false := by
  rcases isQuote_iff.1 h with rfl | rfl <;> decide

theorem isPlain_of_isBlank {c : Char} (h : Text.isBlank c = true) : isPlain c = false := by
  have hnone := Text.of_isBlank (p := fun c => !isPlain c) (by decide) h
  simpa using hnone

theorem not_mem_of_isBlotted {c : Char} (hquote : isQuote c = false) (hplain : isPlain c = false) {w : List Char}
    (h : IsBlotted w) : c ∉ w := by
  obtain ⟨q, s, q', rfl, hq, hq', hs⟩ := h
  rw [List.mem_cons, List.mem_append, List.mem_singleton]
  rintro (rfl | hc | rfl)
  · simp [hq] at hquote
  · simp [(isLongPlain_iff.1 hs).2 c hc] at hplain
  · simp [hq'] at hquote

theorem eq_of_append_quote {s s' y y' : List Char} {q q' : Char} (hs : ∀ c ∈ s, isQuote c = false)
    (hs' : ∀ c ∈ s', isQuote c = false) (hq : isQuote q = true) (hq' : isQuote q' = true)
    (h : s ++ q :: y = s' ++ q' :: y') :
    s = s' ∧ q = q' := by
  induction s generalizing s' with
  | nil =>
    cases s' with
    | nil => exact ⟨rfl, (List.cons.inj h).1⟩
    | cons c s' =>
      obtain ⟨rfl, -⟩ := List.cons.inj h
      simp [hs' q List.mem_cons_self] at hq
  | cons c s ih =>
    cases s' with
    | nil =>
      obtain ⟨rfl, -⟩ := List.cons.inj h
      simp [hs c List.mem_cons_self] at hq'
    | cons c' s' =>
      obtain ⟨rfl, htail⟩ := List.cons.inj h
      obtain ⟨rfl, rfl⟩ :=
        ih (fun a ha => hs a (List.mem_cons_of_mem c ha)) (fun a ha => hs' a (List.mem_cons_of_mem c ha))
        htail
      exact ⟨rfl, rfl⟩

theorem isQuote_of_isPlain {c : Char} (h : isPlain c = true) : isQuote c = false := by
  rw [← Bool.not_eq_true]
  intro hquote
  simp [isPlain_of_isQuote hquote] at h

/-- What is blotted out at a quote ends with the next quote. -/
theorem IsBlotted.eq_of_append {s w y v : List Char} {q q' : Char} (h : IsBlotted w) (hs : ∀ c ∈ s, isQuote c = false)
    (hq' : isQuote q' = true) (heq : q :: (s ++ q' :: y) = w ++ v) : w = q :: (s ++ [q']) ∧ isLongPlain s = true := by
  obtain ⟨a, s', a', rfl, -, ha', hlong⟩ := h
  rw [List.cons_append, List.append_assoc, List.cons.injEq] at heq
  obtain ⟨rfl, heq⟩ := heq
  obtain ⟨rfl, rfl⟩ :=
    eq_of_append_quote hs (fun c hc => isQuote_of_isPlain ((isLongPlain_iff.1 hlong).2 c hc)) hq' ha' heq
  exact ⟨rfl, hlong⟩

/-! ## Where a captured secret stands -/

/-- The secret stands in quotes. -/
def Quoted (line s : List Char) : Prop :=
  ∃ x q q' y, line = x ++ q :: (s ++ q' :: y) ∧ isQuote q = true ∧ isQuote q' = true ∧ ∀ c ∈ s, isQuote c = false

/-- The secret stands in quotes behind an equals sign. -/
def Assigned (line s : List Char) : Prop :=
  ∃ x gap q q' y, line = x ++ '=' :: (gap ++ q :: (s ++ q' :: y)) ∧ (∀ c ∈ gap, Text.isBlank c = true) ∧
    isQuote q = true ∧ isQuote q' = true ∧ ∀ c ∈ s, isQuote c = false

/-- The secret stands between a colon and an at sign. -/
def Connected (line s : List Char) : Prop := ∃ x y, line = x ++ ':' :: (s ++ '@' :: y)

theorem Assigned.quoted {line s : List Char} (h : Assigned line s) : Quoted line s := by
  obtain ⟨x, gap, q, q', y, rfl, -, hq, hq', hs⟩ := h
  exact ⟨x ++ '=' :: gap, q, q', y, by simp, hq, hq', hs⟩

section
variable {key value : Pattern} {K V : List Char → Prop} {line : List Char} {d : Cursor}

theorem quoted_of_search? (hvalue : value.Spells V) (hV : ∀ w, V w → ∀ c ∈ w, isQuote c = false)
    (h : (quote ++ group 1 value ++ quote).search? line = some d) : ∃ s, d.group? 1 = some s ∧ Quoted line s := by
  obtain ⟨u, v, rfl, e₂, ⟨e₁, h₁, h₂⟩, h₃⟩ := reaches_of_searchFrom h
  obtain ⟨_, r₁, hr₁, ⟨q, hq, rfl⟩, rfl⟩ := (spells_one _ _ _).1 h₁
  obtain ⟨s, r₂, hr₂, hs, rfl⟩ := hvalue.reaches_group_iff.1 h₂
  obtain ⟨_, r₃, hr₃, ⟨q', hq', rfl⟩, rfl⟩ := (spells_one _ _ _).1 h₃
  obtain rfl : v = q :: r₁ := hr₁
  obtain rfl : r₁ = s ++ r₂ := hr₂
  obtain rfl : r₂ = q' :: r₃ := hr₃
  exact ⟨s, rfl, u, q, q', r₃, rfl, hq, hq', hV s hs⟩

theorem assigned_of_search? (hkey : key.Spells K) (hvalue : value.Spells V) (hV : ∀ w, V w → ∀ c ∈ w, isQuote c = false)
    (h : (assigned key value).search? line = some d) : ∃ s, d.group? 1 = some s ∧ Assigned line s := by
  obtain ⟨u, v, rfl, e₆, ⟨e₅, ⟨e₄, ⟨e₃, ⟨e₂, ⟨e₁, h₁, h₂⟩, h₃⟩, h₄⟩, h₅⟩, h₆⟩, h₇⟩ := reaches_of_searchFrom h
  obtain ⟨k, r₁, hr₁, -, rfl⟩ := (hkey _ _).1 h₁
  obtain ⟨gap, r₂, hr₂, -, rfl⟩ := (spells_star _ _ _).1 h₂
  obtain ⟨_, r₃, hr₃, rfl, rfl⟩ := (spells_lit _ _ _).1 h₃
  obtain ⟨gap', r₄, hr₄, hgap, rfl⟩ := (spells_star _ _ _).1 h₄
  obtain ⟨_, r₅, hr₅, ⟨q, hq, rfl⟩, rfl⟩ := (spells_one _ _ _).1 h₅
  obtain ⟨s, r₆, hr₆, hs, rfl⟩ := hvalue.reaches_group_iff.1 h₆
  obtain ⟨_, r₇, hr₇, ⟨q', hq', rfl⟩, rfl⟩ := (spells_one _ _ _).1 h₇
  obtain rfl : v = k ++ r₁ := hr₁
  obtain rfl : r₁ = gap ++ r₂ := hr₂
  obtain rfl : r₂ = '=' :: r₃ := hr₃
  obtain rfl : r₃ = gap' ++ r₄ := hr₄
  obtain rfl : r₄ = q :: r₅ := hr₅
  obtain rfl : r₅ = s ++ r₆ := hr₆
  obtain rfl : r₆ = q' :: r₇ := hr₇
  exact ⟨s, rfl, u ++ (k ++ gap), gap', q, q', r₇, by simp, hgap, hq, hq', hV s hs⟩

theorem connected_of_search? (hkey : key.Spells K)
    (h : (key ++ lit "://" ++ plus (· != ':') ++ lit ":" ++ group 2 (plus (· != '@')) ++ lit "@").search? line =
      some d) :
    ∃ s, d.group? 1 = none ∧ d.group? 2 = some s ∧ Connected line s := by
  obtain ⟨u, v, rfl, e₅, ⟨e₄, ⟨e₃, ⟨e₂, ⟨e₁, h₁, h₂⟩, h₃⟩, h₄⟩, h₅⟩, h₆⟩ := reaches_of_searchFrom h
  obtain ⟨k, r₁, hr₁, -, rfl⟩ := (hkey _ _).1 h₁
  obtain ⟨_, r₂, hr₂, rfl, rfl⟩ := (spells_lit _ _ _).1 h₂
  obtain ⟨user, r₃, hr₃, -, rfl⟩ := (spells_plus _ _ _).1 h₃
  obtain ⟨_, r₄, hr₄, rfl, rfl⟩ := (spells_lit _ _ _).1 h₄
  obtain ⟨s, r₅, hr₅, -, rfl⟩ := (spells_plus _).reaches_group_iff.1 h₅
  obtain ⟨_, r₆, hr₆, rfl, rfl⟩ := (spells_lit _ _ _).1 h₆
  obtain rfl : v = k ++ r₁ := hr₁
  obtain rfl : r₁ = "://".toList ++ r₂ := hr₂
  obtain rfl : r₂ = user ++ r₃ := hr₃
  obtain rfl : r₃ = ':' :: r₄ := hr₄
  obtain rfl : r₄ = s ++ r₅ := hr₅
  obtain rfl : r₅ = '@' :: r₆ := hr₆
  exact ⟨s, rfl, rfl, u ++ (k ++ ("://".toList ++ user)), r₆, by simp⟩

end

/-- The text that a rule takes for the secret, captured where its pattern is found first. -/
def Rule.secret? (r : Rule) (line : List Char) : Option (List Char) :=
  (r.pattern.search? line).bind fun c => (c.group? 1).or (c.group? 2)

/-- The rules for secrets that are set to a quoted text. -/
def assignments : List String := ["API Key assignment", "Hardcoded password", "AWS Secret Key", "Hardcoded token"]

/-- The rule for secrets that are told by their length. -/
def bareKey : String := "API Key"

/-- The rule for secrets in an address. -/
def connection : String := "Database password in connection string"

theorem isQuote_of_isKeyChar {c : Char} (h : isKeyChar c = true) : isQuote c = false := by
  rw [← Bool.not_eq_true]
  intro hquote
  simp [isKeyChar_of_isQuote hquote] at h

theorem unquoted_iff {w : List Char} : (∀ c ∈ w, unquoted c = true) ↔ ∀ c ∈ w, isQuote c = false := by
  simp [unquoted]

section
variable {r : Rule} {line s : List Char}

theorem assigned_of_secret?_eq {key value : Pattern} {K V : List Char → Prop} {d : String} {ls : List String}
    (hkey : key.Spells K) (hvalue : value.Spells V) (hV : ∀ w, V w → ∀ c ∈ w, isQuote c = false)
    (hs : Rule.secret? ⟨assigned key value, d, ls⟩ line = some s) : Assigned line s := by
  obtain ⟨c, hc, hgroup⟩ := Option.bind_eq_some_iff.1 hs
  obtain ⟨s', hs', hassigned⟩ := assigned_of_search? hkey hvalue hV hc
  rw [hs', Option.some_or] at hgroup
  exact Option.some.inj hgroup ▸ hassigned

theorem assigned_of_secret? (hr : r ∈ secretRules) (h : r.description ∈ assignments) (hs : r.secret? line = some s) :
    Assigned line s := by
  have hall : ∀ r ∈ secretRules, r.description ∈ assignments → r.secret? line = some s → Assigned line s := by
    rw [secretRules]
    simp only [List.forall_mem_cons]
    simp only [assignments, List.mem_cons, List.not_mem_nil, String.reduceEq, or_false, or_true,
      false_imp_iff, true_imp_iff, true_and, implies_true, and_true]
    have hword := spells_litAnyCase
    have hunquoted : ∀ w : List Char, (∀ c ∈ w, unquoted c = true) → ∀ c ∈ w, isQuote c = false :=
      fun w => unquoted_iff.1
    exact ⟨assigned_of_secret?_eq (((hword _).append (spells_one _).optional).append (hword _)) (spells_plus _)
        fun w hw => hunquoted w hw.2,
      assigned_of_secret?_eq (hword _) (spells_atLeast _ _) fun w hw => hunquoted w hw.2,
      assigned_of_secret?_eq (hword _) (spells_atLeast _ _) fun w hw => hunquoted w hw.2,
      assigned_of_secret?_eq (hword _) (spells_atLeast _ _) fun w hw => hunquoted w hw.2,
      assigned_of_secret?_eq (hword _) (spells_plus _) fun w hw => hunquoted w hw.2,
      assigned_of_secret?_eq (hword _) (spells_atLeast _ _) fun w hw c hc => isQuote_of_isKeyChar (hw.2 c hc)⟩
  exact hall r hr h hs

theorem quoted_of_secret? (hr : r ∈ secretRules) (h : r.description = bareKey) (hs : r.secret? line = some s) :
    Quoted line s := by
  have hall : ∀ r ∈ secretRules, r.description = bareKey → r.secret? line = some s → Quoted line s := by
    rw [secretRules]
    simp only [List.forall_mem_cons]
    simp only [bareKey, List.not_mem_nil, String.reduceEq, false_imp_iff, true_imp_iff, implies_true, and_true]
    intro hs
    obtain ⟨c, hc, hgroup⟩ := Option.bind_eq_some_iff.1 hs
    obtain ⟨s', hs', hquoted⟩ :=
      quoted_of_search? (spells_atLeast _ _) (fun w hw c hc => isQuote_of_isKeyChar (hw.2 c hc)) hc
    rw [hs', Option.some_or] at hgroup
    exact Option.some.inj hgroup ▸ hquoted
  exact hall r hr h hs

theorem connected_of_secret? (hr : r ∈ secretRules) (h : r.description = connection) (hs : r.secret? line = some s) :
    Connected line s := by
  have hall : ∀ r ∈ secretRules, r.description = connection → r.secret? line = some s → Connected line s := by
    rw [secretRules]
    simp only [List.forall_mem_cons]
    simp only [connection, List.not_mem_nil, String.reduceEq, false_imp_iff, true_imp_iff, true_and,
      implies_true, and_true]
    intro hs
    obtain ⟨c, hc, hgroup⟩ := Option.bind_eq_some_iff.1 hs
    obtain ⟨s', hnone, hs', hconnected⟩ := connected_of_search? (spells_anyLitAnyCase _) hc
    rw [hnone, hs', Option.none_or] at hgroup
    exact Option.some.inj hgroup ▸ hconnected
  exact hall r hr h hs

end

/-! ## Shown or hidden -/

section
variable {line s : List Char} {pieces : List (List Char)}

theorem Quoted.isInfix_piece (h : Quoted line s) (hcut : Cut IsBlotted (Text.strip line) pieces)
    (hs : isLongPlain s = false) :
    ∃ piece ∈ pieces, s <:+: piece := by
  obtain ⟨x, q, q', y, rfl, hq, hq', hunquoted⟩ := h
  rw [Text.strip_between (isBlank_of_isQuote hq) (isBlank_of_isQuote hq'), ← List.singleton_append,
    ← List.append_assoc] at hcut
  refine hcut.isInfix_piece_of_untouched (Cut.apart_concat fun m k hk hne hblotted => ?_)
    fun u v w r huv hne hw hblotted => ?_
  · cases m with
    | nil =>
      -- a text blotted out from the quote on ends with the other quote
      obtain ⟨v, hv⟩ := hk
      have heq : q :: (s ++ q' :: Text.stripRight y) = (q :: k) ++ v := by rw [List.cons_append, hv]
      simp [(IsBlotted.eq_of_append hblotted hunquoted hq' heq).2] at hs
    | cons a m =>
      -- no quote is inside a text that is blotted out
      obtain ⟨b, l, b', heq, -, -, hl⟩ := hblotted
      obtain ⟨k, c, rfl⟩ := (List.eq_nil_or_concat k).resolve_left hne
      obtain ⟨-, heq⟩ := List.cons.inj heq
      have hends : (m ++ q :: k) ++ [c] = l ++ [b'] := by simpa using heq
      obtain ⟨rfl, -⟩ := List.append_inj' hends rfl
      have hplain := (isLongPlain_iff.1 hl).2 q (by simp)
      simp [isPlain_of_isQuote hq] at hplain
  · obtain ⟨b, l, b', rfl, hb, -⟩ := hblotted
    obtain ⟨a, v, rfl⟩ := List.exists_cons_of_ne_nil hne
    obtain ⟨rfl, -⟩ := List.cons.inj hw
    simp [hunquoted a (by simp [huv])] at hb

/-- A secret in an address is shown if nothing of it is blotted out. -/
theorem Connected.isInfix_piece (h : Connected line s) (hcut : Cut IsBlotted (Text.strip line) pieces)
    (hs : secretText.occursIn s = false) : ∃ piece ∈ pieces, s <:+: piece := by
  obtain ⟨x, y, rfl⟩ := h
  rw [Text.strip_between (by decide) (by decide), ← List.singleton_append, ← List.append_assoc] at hcut
  refine hcut.isInfix_piece_of_untouched (Cut.apart_concat fun m k _ _ hblotted => ?_) fun u v w r huv _ hw hblotted =>
    ?_
  · exact absurd (by simp) (not_mem_of_isBlotted (c := ':') (by decide) (by decide) hblotted)
  · have hat : '@' ∉ w := not_mem_of_isBlotted (by decide) (by decide) hblotted
    have hwv : w <+: v := Text.isPrefix_of_append_cons hat ⟨r, hw.symm⟩
    have hoccurs :=
      spells_secretText.occursIn_iff.2 ⟨w, hblotted, hwv.isInfix.trans (huv ▸ (List.suffix_append u v).isInfix)⟩
    simp [hoccurs] at hs

/-- A long plain secret that is set in quotes is hidden, if it stands nowhere else in the line. -/
theorem Assigned.not_isInfix_piece (h : Assigned line s) (hcut : Cut IsBlotted (Text.strip line) pieces)
    (hs : isLongPlain s = true) (honce : Text.occurrences s line = 1) : ∀ piece ∈ pieces, ¬ s <:+: piece := by
  obtain ⟨x, gap, q, q', y, rfl, hgap, hq, hq', hunquoted⟩ := h
  obtain ⟨front, z, hfront, hz⟩ : ∃ front z, '=' :: gap = front ++ [z] ∧ (z = '=' ∨ Text.isBlank z = true) := by
    rcases List.eq_nil_or_concat gap with rfl | ⟨gap, z, rfl⟩
    · exact ⟨[], '=', rfl, .inl rfl⟩
    · exact ⟨'=' :: gap, z, by simp, .inr (hgap z (by simp))⟩
  have hz : isQuote z = false ∧ isPlain z = false := by
    rcases hz with rfl | hz
    · decide
    · refine ⟨?_, isPlain_of_isBlank hz⟩
      rw [← Bool.not_eq_true]
      intro hquote
      simp [isBlank_of_isQuote hquote] at hz
  have hstrip : Text.strip (x ++ '=' :: (gap ++ q :: (s ++ q' :: y))) =
      (Text.stripLeft x ++ front ++ [z]) ++ (q :: (s ++ [q']) ++ Text.stripRight y) := by
    have hline : x ++ '=' :: (gap ++ q :: (s ++ q' :: y)) = x ++ '=' :: ((gap ++ q :: s) ++ q' :: y) := by simp
    rw [hline, Text.strip_between (by decide) (isBlank_of_isQuote hq'), List.append_assoc _ front, ← hfront]
    simp
  rw [hstrip] at hcut
  have hparts := hcut.isInfix_of_word
    (Cut.apart_concat fun m k _ _ hblotted => not_mem_of_isBlotted hz.1 hz.2 hblotted (by simp))
    ⟨q, s, q', rfl, hq, hq', hs⟩ (List.cons_ne_nil _ _)
    fun w v heq hw => (hw.eq_of_append hunquoted hq' (by simpa using heq)).1
  have hne : s ≠ [] := by
    rintro rfl
    simp [isLongPlain] at hs
  have hcount : Text.occurrences s (x ++ '=' :: gap) + (Text.occurrences s s + Text.occurrences s y) ≤ 1 := by
    have hline : x ++ '=' :: (gap ++ q :: (s ++ q' :: y)) = (x ++ '=' :: gap) ++ ([q] ++ (s ++ ([q'] ++ y))) := by simp
    rw [← honce, hline]
    have h₁ := Text.add_occurrences_le hne (x ++ '=' :: gap) ([q] ++ (s ++ ([q'] ++ y)))
    have h₂ := Text.add_occurrences_le hne [q] (s ++ ([q'] ++ y))
    have h₃ := Text.add_occurrences_le hne s ([q'] ++ y)
    have h₄ := Text.add_occurrences_le hne [q'] y
    omega
  have hself := Text.occurrences_pos (List.infix_refl s)
  intro piece hpiece hin
  rcases hparts piece hpiece with h | h
  · obtain ⟨u, hu⟩ : Text.stripLeft x <:+ x := List.dropWhile_suffix _
    have hx : piece <:+: x ++ '=' :: gap := by
      rw [List.append_assoc, ← hfront] at h
      exact h.trans (List.IsSuffix.isInfix ⟨u, by rw [← List.append_assoc, hu]⟩)
    have := Text.occurrences_pos (hin.trans hx)
    omega
  · have hy : piece <:+: y := h.trans (Text.stripRightBy_isPrefix _ y).isInfix
    have := Text.occurrences_pos (hin.trans hy)
    omega

end

theorem redact_eq (t : List Char) :
    ∃ pieces, Cut IsBlotted t pieces ∧ redact t = Text.joinWith ('"' :: (mark ++ ['"'])) pieces := by
  have hnew : "\"***REDACTED***\"".toList = '"' :: (mark ++ ['"']) := by decide
  rw [← hnew]
  exact replaceAll_eq_joinWith spells_secretText (fun w hw => hw.ne_nil) _ t

theorem not_isInfix_mark {s : List Char} (hs : isLongPlain s = true) : ¬ s <:+: mark := by
  have hstar : ∀ u ∈ mark.tails, ∀ w ∈ u.inits, 12 ≤ w.length → '*' ∈ w := by decide
  rintro ⟨u, v, heq⟩
  obtain ⟨hlength, hplain⟩ := isLongPlain_iff.1 hs
  have htail : s ++ v ∈ mark.tails := (List.mem_tails _ _).2 ⟨u, by rw [← heq, List.append_assoc]⟩
  have hmem := hstar _ htail s ((List.mem_inits _ _).2 (List.prefix_append s v)) hlength
  exact absurd (hplain '*' hmem) (by decide)

theorem isInfix_piece_of_isLongPlain {t s : List Char} {pieces : List (List Char)} (hcut : Cut IsBlotted t pieces)
    (hs : isLongPlain s = true) (h : s <:+: Text.joinWith ('"' :: (mark ++ ['"'])) pieces) : ∃ piece ∈ pieces,
      s <:+: piece := by
  have hquote : '"' ∉ s := fun hmem => absurd (isQuote_of_isPlain ((isLongPlain_iff.1 hs).2 '"' hmem)) (by decide)
  obtain ⟨piece, rest, rfl⟩ := hcut.exists_cons
  exact (isInfix_joinWith hquote (List.cons_ne_nil _ _) h).resolve_right (not_isInfix_mark hs)

theorem occursIn_of_unquoted {s : List Char} (hs : ∀ c ∈ s, isQuote c = false) : secretText.occursIn s = false := by
  rw [← Bool.not_eq_true, spells_secretText.occursIn_iff]
  rintro ⟨_, ⟨q, _, _, rfl, hq, -⟩, hin⟩
  simp [hs q (hin.mem List.mem_cons_self)] at hq

theorem snippet_of_mem_scan {t language line : List Char} {n : Nat} {i : Issue} (hi : i ∈ scan t language)
    (hline : (Text.lines t)[n]? = some line) (hn : i.line = n + 1) : i.snippet = snippetOf i.weakness line := by
  obtain ⟨w, -, hcheck⟩ := List.mem_flatMap.1 (mem_of_mem_distinctBy hi)
  obtain ⟨-, m, line', hline', hi'⟩ := mem_check_iff.1 hcheck
  obtain ⟨-, r, -, -, -, rfl⟩ := mem_lineIssues_iff.1 hi'
  obtain rfl : m = n := Nat.succ.inj hn
  obtain rfl : line' = line := Option.some.inj (hline'.symm.trans hline)
  rfl

/-- What the finding of a secret shows of the text that a rule captured in the line.

A text without quotes is shown exactly if it stands in a piece of the line between what is blotted out. In particular a
text in quotes is shown in full unless it is long and plain, and a text in an address is shown in full unless something
in it is blotted out. A long plain text that is set in quotes and stands nowhere else in the line is hidden. -/
theorem scan_snippet_secret {t language line s : List Char} {n : Nat} {i : Issue} {r : Rule} (hi : i ∈ scan t language)
    (hweakness : i.weakness = .hardcodedSecret) (hline : (Text.lines t)[n]? = some line) (hn : i.line = n + 1)
    (hr : r ∈ secretRules) (hrule : r.description = bareKey ∨ r.description = connection ∨ r.description ∈ assignments)
    (hs : r.secret? line = some s) :
    (∃ pieces, Cut IsBlotted (Text.strip line) pieces ∧
      ((∀ c ∈ s, isQuote c = false) →
        (Text.contains s i.snippet.toList = true ↔ ∃ piece ∈ pieces, Text.contains s piece = true))) ∧
    (r.description ≠ connection → isLongPlain s = false → Text.contains s i.snippet.toList = true) ∧
    (r.description = connection → secretText.occursIn s = false → Text.contains s i.snippet.toList = true) ∧
    (r.description ∈ assignments → isLongPlain s = true → Text.occurrences s line = 1 →
      Text.contains s i.snippet.toList = false) := by
  obtain ⟨pieces, hcut, hredact⟩ := redact_eq (Text.strip line)
  have hsnippet : i.snippet.toList = Text.joinWith ('"' :: (mark ++ ['"'])) pieces := by
    rw [snippet_of_mem_scan hi hline hn, hweakness, ← hredact, snippetOf, String.toList_ofList]
  have hquoted : r.description ≠ connection → Quoted line s := fun h => by
    rcases hrule with hd | hd | hd
    · exact quoted_of_secret? hr hd hs
    · exact absurd hd h
    · exact (assigned_of_secret? hr hd hs).quoted
  have hshown : r.description ≠ connection → isLongPlain s = false → ∃ piece ∈ pieces, s <:+: piece :=
    fun h => (hquoted h).isInfix_piece hcut
  have hshown' : r.description = connection → secretText.occursIn s = false → ∃ piece ∈ pieces, s <:+: piece :=
    fun h => (connected_of_secret? hr h hs).isInfix_piece hcut
  have hpiece : (∃ piece ∈ pieces, s <:+: piece) → s <:+: i.snippet.toList := by
    rintro ⟨piece, hmem, hpiece⟩
    exact hsnippet ▸ hpiece.trans (isInfix_joinWith_of_mem hmem)
  have hlong : isLongPlain s = true → s <:+: i.snippet.toList → ∃ piece ∈ pieces, s <:+: piece :=
    fun hl hin => isInfix_piece_of_isLongPlain hcut hl (hsnippet ▸ hin)
  simp only [Text.contains_iff_isInfix]
  refine ⟨⟨pieces, hcut, fun hunquoted => ⟨fun hin => ?_, hpiece⟩⟩, fun h hl => hpiece (hshown h hl),
    fun h hno => hpiece (hshown' h hno), fun h hl honce => ?_⟩
  · by_cases h : r.description = connection
    · exact hshown' h (occursIn_of_unquoted hunquoted)
    · cases hl : isLongPlain s with
      | false => exact hshown h hl
      | true => exact hlong hl hin
  · rw [← Bool.not_eq_true, Text.contains_iff_isInfix]
    intro hin
    obtain ⟨piece, hmem, hpiece⟩ := hlong hl hin
    exact (assigned_of_secret? hr h hs).not_isInfix_piece hcut hl honce piece hmem hpiece

def passwordRule : Rule := ⟨assigned (litAnyCase "password") (atLeast 8 unquoted), "Hardcoded password", []⟩

/-- A password with signs in it is shown in full, and one of letters and digits is not. -/
theorem scan_snippet_secret_password :
    (∃ i ∈ scan "password = \"S3cure!Passw0rd#2024\"".toList "python".toList,
      i.description = "Hardcoded Hardcoded password detected" ∧
        Text.contains "S3cure!Passw0rd#2024".toList i.snippet.toList = true) ∧
    ∃ i ∈ scan "password = \"S3curePassw0rd2024\"".toList "python".toList,
      i.description = "Hardcoded Hardcoded password detected" ∧
        Text.contains "S3curePassw0rd2024".toList i.snippet.toList = false := by
  have hr : passwordRule ∈ secretRules := by simp [secretRules, passwordRule]
  have hrule : passwordRule.description = bareKey ∨ passwordRule.description = connection ∨
      passwordRule.description ∈ assignments := by decide
  have hfound : ∀ t : List Char, (Text.lines t)[0]? = some t → isSuppressed .hardcodedSecret "python" t = false →
      passwordRule.pattern.occursIn t = true → ∃ i ∈ scan t "python".toList, i.weakness = .hardcodedSecret ∧
        i.line = 0 + 1 ∧
        i.description = "Hardcoded Hardcoded password detected" := fun t ht hopen hoccurs =>
    (scan_finds_iff t "python".toList .hardcodedSecret 1 _).2
      ⟨0, t, rfl, ht, rfl, hopen, passwordRule, hr, rfl, hoccurs, rfl⟩
  constructor
  · have hline : (Text.lines "password = \"S3cure!Passw0rd#2024\"".toList)[0]? =
        some "password = \"S3cure!Passw0rd#2024\"".toList := by decide +kernel
    have hs : passwordRule.secret? "password = \"S3cure!Passw0rd#2024\"".toList =
        some "S3cure!Passw0rd#2024".toList := by
      decide +kernel
    obtain ⟨i, hi, hweakness, hn, hd⟩ := hfound _ hline (by decide +kernel) (by decide +kernel)
    have hshown := (scan_snippet_secret hi hweakness hline hn hr hrule hs).2.1
    exact ⟨i, hi, hd, hshown (by decide) (by decide +kernel)⟩
  · have hline : (Text.lines "password = \"S3curePassw0rd2024\"".toList)[0]? =
        some "password = \"S3curePassw0rd2024\"".toList := by decide +kernel
    have hs : passwordRule.secret? "password = \"S3curePassw0rd2024\"".toList = some "S3curePassw0rd2024".toList := by
      decide +kernel
    obtain ⟨i, hi, hweakness, hn, hd⟩ := hfound _ hline (by decide +kernel) (by decide +kernel)
    have hhidden := (scan_snippet_secret hi hweakness hline hn hr hrule hs).2.2.2
    exact ⟨i, hi, hd, hhidden (by decide) (by decide +kernel) (by decide +kernel)⟩

end CodeSurvey.Security
