/-
The lines of tokens: they never decrease, and what follows the end of a logical line is on a later line
(`isLaid_of_tokenize`). The reader of tokens keeps this, since a token gets the line on which it begins, and behind the
end of a line the next line begins.
-/
import CodeSurvey.Python.Token
import Mathlib.Data.List.Basic

namespace CodeSurvey.Python

def TokenKind.isNewline : TokenKind → Bool
  | .newline => true
  | _ => false

/-- The token may stand before what begins on a line: it begins on no later line, and on an earlier one if it ends a
logical line. -/
structure Token.Precedes (t : Token) (line : Nat) : Prop where
  le : t.line ≤ line
  lt : t.kind.isNewline = true → t.line < line

/-- Tokens are laid out on lines: each may stand before those behind it. -/
def IsLaid (ts : List Token) : Prop := ts.Pairwise fun t u => t.Precedes u.line

theorem Token.Precedes.mono {t : Token} {l m : Nat} (h : t.Precedes l) (hlm : l ≤ m) : t.Precedes m :=
  ⟨Nat.le_trans h.le hlm, fun hnewline => Nat.lt_of_lt_of_le (h.lt hnewline) hlm⟩

/-! ## The reader of tokens -/

namespace Scan

/-- The tokens so far are laid out, and what is read next may stand behind them. -/
structure IsLaid (s : Scan) : Prop where
  precedes : ∀ t ∈ s.tokens, t.Precedes s.line
  tokens : Python.IsLaid s.tokens.reverse

variable {s s' : Scan}

/-- The reader goes on to a place on the same line or a later one, behind tokens that all begin on the line it leaves
and end no line. -/
structure Advances (s s' : Scan) : Prop where
  line : s.line ≤ s'.line
  tokens : ∃ added, s'.tokens = added ++ s.tokens ∧ ∀ t ∈ added, t.line = s.line ∧ t.kind.isNewline = false

theorem IsLaid.advances (h : s.IsLaid) (hs : s.Advances s') : s'.IsLaid := by
  obtain ⟨added, htokens, hadded⟩ := hs.tokens
  constructor
  · intro t ht
    rw [htokens] at ht
    rcases List.mem_append.1 ht with ht | ht
    · obtain ⟨hline, hkind⟩ := hadded t ht
      exact ⟨hline ▸ hs.line, fun hnewline => absurd hnewline (by simp [hkind])⟩
    · exact (h.precedes t ht).mono hs.line
  · rw [htokens, List.reverse_append]
    refine List.pairwise_append.2 ⟨h.tokens, ?_, ?_⟩
    · refine List.pairwise_of_forall_mem_list fun t ht u hu => ?_
      obtain ⟨hline, hkind⟩ := hadded t (List.mem_reverse.1 ht)
      have huline := (hadded u (List.mem_reverse.1 hu)).1
      exact ⟨Nat.le_of_eq (hline.trans huline.symm), fun hnewline => absurd hnewline (by simp [hkind])⟩
    · intro t ht u hu
      have huline := (hadded u (List.mem_reverse.1 hu)).1
      rw [huline]
      exact h.precedes t (List.mem_reverse.1 ht)

theorem Advances.of_tokens_eq (hline : s.line ≤ s'.line) (htokens : s'.tokens = s.tokens) : s.Advances s' :=
  ⟨hline, [], htokens, fun _ ht => absurd ht List.not_mem_nil⟩

theorem Advances.of_cons {t : Token} (hline : s.line ≤ s'.line) (htokens : s'.tokens = t :: s.tokens)
    (ht : t.line = s.line) (hkind : t.kind.isNewline = false) : s.Advances s' := by
  refine ⟨hline, [t], htokens, fun u hu => ?_⟩
  rw [List.mem_singleton.1 hu]
  exact ⟨ht, hkind⟩

/-- The end of a logical line is the last token on its line. -/
theorem IsLaid.newline (h : s.IsLaid) (rest : List Char) :
    IsLaid { s with rest := rest, line := s.line + 1, tokens := ⟨.newline, s.line, s.line⟩ :: s.tokens } := by
  constructor
  · intro t ht
    rcases List.mem_cons.1 ht with rfl | ht
    · exact ⟨Nat.le_succ _, fun _ => Nat.lt_succ_self _⟩
    · exact (h.precedes t ht).mono (Nat.le_succ _)
  · show Python.IsLaid (_ :: s.tokens).reverse
    rw [List.reverse_cons]
    refine List.pairwise_append.2 ⟨h.tokens, List.pairwise_singleton _ _, ?_⟩
    intro t ht u hu
    rw [List.mem_singleton.1 hu]
    exact h.precedes t (List.mem_reverse.1 ht)

end Scan

open Scan in
theorem advances_readToken {s s' : Scan} (h : readToken s = some s') : s.Advances s' := by
  unfold readToken at h
  split at h
  · cases h
  · dsimp only at h
    split at h
    · split at h
      · split at h
        · cases h
          exact .of_cons (Nat.le_add_right _ _) rfl rfl rfl
        · cases h
      · split at h
        · cases h
          refine .of_cons (Nat.le_refl _) rfl rfl ?_
          dsimp only
          split <;> rfl
        · cases h
    · split at h
      · split at h
        · cases h
          exact .of_cons (Nat.le_refl _) rfl rfl rfl
        · cases h
      · split at h
        · split at h
          · cases h
            exact .of_cons (Nat.le_add_right _ _) rfl rfl rfl
          · cases h
        · split at h
          · split at h
            · cases h
              exact .of_cons (Nat.le_refl _) rfl rfl rfl
            · cases h
          · cases h

open Scan in
theorem advances_applyIndentation {s s' : Scan} {col alt : Nat} (h : applyIndentation s col alt = some s') :
    s.Advances s' := by
  unfold applyIndentation at h
  split at h
  · cases h
  · split at h
    · split at h
      · cases h
        exact .of_tokens_eq (Nat.le_refl _) rfl
      · cases h
    · split at h
      · split at h
        · cases h
        · cases h
          exact .of_cons (Nat.le_refl _) rfl rfl rfl
      · split at h
        · next n _ =>
          split at h
          · cases h
            refine ⟨Nat.le_refl _, List.replicate n _, rfl, fun t ht => ?_⟩
            rw [List.eq_of_mem_replicate ht]
            exact ⟨rfl, rfl⟩
          · cases h
        · cases h

/-- The reader keeps tokens laid out, to the end of the text. -/
theorem isLaid_of_scan {fuel : Nat} {bol content : Bool} {s : Scan} {ts : List Token} (hs : s.IsLaid)
    (h : scan fuel bol content s = some ts) : IsLaid ts := by
  induction fuel generalizing bol content s with
  | zero => cases h
  | succ fuel ih =>
    unfold scan at h
    split at h
    · split at h
      · cases h
      · next passed rest _ =>
        have hindented : Scan.IsLaid { s with rest := rest, line := s.line + passed } :=
          hs.advances (.of_tokens_eq (Nat.le_add_right _ _) rfl)
        dsimp only at h
        split at h
        · refine ih (hindented.advances ?_) h
          exact .of_tokens_eq (Nat.le_refl _) rfl
        · exact ih hindented h
        · split at h
          · split at h
            · next happly => exact ih (hindented.advances (advances_applyIndentation happly)) h
            · cases h
          · exact ih hindented h
    · split at h
      · split at h
        · cases h
          have hend : s.Advances { s with tokens := ⟨.endOfText, s.line, s.line⟩ :: s.tokens } :=
            .of_cons (Nat.le_refl _) rfl rfl rfl
          exact (hs.advances hend).tokens
        · cases h
      · dsimp only at h
        split at h
        · exact ih (hs.newline _) h
        · refine ih (hs.advances ?_) h
          exact .of_tokens_eq (Nat.le_succ _) rfl
      · refine ih (hs.advances ?_) h
        exact .of_tokens_eq (Nat.le_refl _) rfl
      · cases h
      · refine ih (hs.advances ?_) h
        exact .of_tokens_eq (Nat.le_succ _) rfl
      · split at h
        · refine ih (hs.advances ?_) h
          exact .of_tokens_eq (Nat.le_refl _) rfl
        · split at h
          · next hread => exact ih (hs.advances (advances_readToken hread)) h
          · cases h

theorem isLaid_of_tokenize {line : Nat} {t : List Char} {ts : List Token} (h : tokenize line t = some ts) :
    IsLaid ts := by
  unfold tokenize at h
  dsimp only at h
  split at h
  · cases h
  · refine isLaid_of_scan ⟨?_, ?_⟩ h
    · exact fun _ ht => absurd ht List.not_mem_nil
    · exact List.Pairwise.nil

end CodeSurvey.Python
