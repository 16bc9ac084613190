/-
The language of a file, told from its path in three ways. An extension that a large file is known by stands, in lower
case, at the end of the path in lower case, and such an ending is what follows the last point there: a language found in
one way is found in the next one too (`detections_agree`).
-/
import CodeSurvey.Duplicate.Token
import CodeSurvey.Language
import CodeSurvey.Proofs.Text.Piece

namespace CodeSurvey

/-! ## Lower case at the end of a text -/

namespace Text

/-- The end of a text is put into lower case behind all that stands before it. What that became depends on the end,
since a capital sigma looks ahead. -/
theorem exists_lowerFrom_append (u v before acc : List Char) :
    ∃ before' acc', lowerFrom before acc (u ++ v) = lowerFrom before' acc' v := by
  induction u generalizing before acc with
  | nil => exact ⟨before, acc, rfl⟩
  | cons c u ih =>
    rw [List.cons_append, lowerFrom]
    split
    · exact ih ..
    · split <;> exact ih ..

theorem lowerFrom_of_plain {v : List Char} (hv : v.all (·.toNat < 128) = true) (before acc : List Char) :
    lowerFrom before acc v = (v.map Char.toLower).reverse ++ acc := by
  induction v generalizing before acc with
  | nil => rfl
  | cons c v ih =>
    rw [List.all_cons, Bool.and_eq_true, decide_eq_true_eq] at hv
    obtain ⟨hc, hv⟩ := hv
    have hsigma : c ≠ capitalSigma := by
      rintro rfl
      exact absurd hc (by decide)
    have hdotted : c.toNat ≠ 0x130 := by omega
    rw [lowerFrom, if_neg (by simpa using hsigma), if_neg (by simpa using hdotted), ih hv, lowerChar, if_pos hc]
    simp

theorem isSuffix_lower {v : List Char} (hv : v.all (·.toNat < 128) = true) (u : List Char) :
    v.map Char.toLower <:+ lower (u ++ v) := by
  obtain ⟨before, acc, h⟩ := exists_lowerFrom_append u v [] []
  rw [lower, h, lowerFrom_of_plain hv, List.reverse_append, List.reverse_reverse]
  exact List.suffix_append _ _

end Text

/-! ## Extensions -/

namespace Path

theorem baseName_isSuffix (p : List Char) : baseName p <:+ p := by
  unfold baseName
  by_cases hslash : '/' ∈ p
  · obtain ⟨a, b, hp, ha⟩ := List.eq_append_cons_of_mem (List.mem_reverse.2 hslash)
    obtain rfl : p = b.reverse ++ '/' :: a.reverse := by simpa using congrArg List.reverse hp
    rw [Text.getLast?_splitOnChar (by simpa using ha)]
    exact ⟨b.reverse ++ ['/'], by simp⟩
  · rw [Text.splitOnChar_of_not_mem hslash]
    exact List.suffix_rfl

theorem extension_isSuffix (p : List Char) : extension p <:+ p := by
  unfold extension
  split
  · next stem ext h =>
    split
    · exact List.nil_suffix
    · unfold splitAtLastPoint? at h
      dsimp only at h
      split at h
      · cases h
        exact (List.drop_suffix ..).trans (baseName_isSuffix p)
      · cases h
  · exact List.nil_suffix

end Path

/-! ## The three ways -/

namespace Language

theorem mem_all (l : Language) : l ∈ all := by cases l <;> decide

/-- In lower case, an extension is an ending of its language. -/
theorem exists_ending_of_mem_extensions : ∀ l ∈ all, ∀ x ∈ l.extensions,
    x.toList.all (·.toNat < 128) = true ∧ ∃ e ∈ l.endings, e.toList = x.toList.map Char.toLower := by decide

/-- No ending of a language ends with one of another. -/
theorem eq_of_endings_isSuffix : ∀ l ∈ all, ∀ e ∈ l.endings, ∀ l' ∈ all, ∀ e' ∈ l'.endings,
    e.toList <:+ e'.toList → l = l' := by decide

/-- An ending is a point and a piece that the language goes by among the pieces of paths. -/
theorem piece_of_ending : ∀ l ∈ all, ∀ e ∈ l.endings, e.toList = '.' :: e.toList.tail ∧ '.' ∉ e.toList.tail ∧
    Duplicate.pathLanguages.find? (·.1 == String.ofList e.toList.tail) =
      some (String.ofList e.toList.tail, l.name) := by decide

variable {path : List Char} {l : Language}

theorem ofPath?_eq_some_iff : ofPath? path = some l ↔ ∃ e ∈ l.endings, e.toList <:+ Text.lower path := by
  have htest : ∀ l : Language, (l.endings.any fun e => Text.endsWith e.toList (Text.lower path)) = true ↔
      ∃ e ∈ l.endings, e.toList <:+ Text.lower path := by simp [Text.endsWith]
  constructor
  · intro h
    exact (htest l).1 (List.find?_some h :)
  · rintro ⟨e, he, hends⟩
    have hfound : (ofPath? path).isSome := List.find?_isSome.2 ⟨l, mem_all l, (htest l).2 ⟨e, he, hends⟩⟩
    obtain ⟨l', hl'⟩ := Option.isSome_iff_exists.1 hfound
    obtain ⟨e', he', hends'⟩ := (htest l').1 (List.find?_some hl' :)
    -- of two endings of one text, one ends with the other
    obtain rfl : l' = l := by
      rcases List.suffix_or_suffix_of_suffix hends hends' with h | h
      · exact (eq_of_endings_isSuffix l (mem_all l) e he l' (mem_all l') e' he' h).symm
      · exact eq_of_endings_isSuffix l' (mem_all l') e' he' l (mem_all l) e he h
    exact hl'

theorem extension_mem_of_ofExtension? (h : ofExtension? path = some l) :
    String.ofList (Path.extension path) ∈ l.extensions := by
  simpa using (List.find?_some h :)

/-- Whatever the path is, the language of its exact extension is the one that its ending tells, and the language that
its ending tells is the one of the last piece between its points. -/
theorem detections_agree (path : List Char) (l : Language) :
    (ofExtension? path = some l → ofPath? path = some l) ∧
      (ofPath? path = some l → Duplicate.languageOf path = l.name) := by
  constructor
  · intro h
    obtain ⟨hplain, e, he, hlower⟩ := exists_ending_of_mem_extensions l (mem_all l) _ (extension_mem_of_ofExtension? h)
    rw [String.toList_ofList] at hplain hlower
    obtain ⟨u, hu⟩ := Path.extension_isSuffix path
    refine ofPath?_eq_some_iff.2 ⟨e, he, ?_⟩
    have hends := Text.isSuffix_lower hplain u
    rwa [hu, ← hlower] at hends
  · intro h
    obtain ⟨e, he, u, hu⟩ := ofPath?_eq_some_iff.1 h
    obtain ⟨hpoint, hpiece, hlanguage⟩ := piece_of_ending l (mem_all l) e he
    rw [hpoint] at hu
    unfold Duplicate.languageOf
    rw [← hu, Text.getLast?_splitOnChar hpiece]
    show ((Duplicate.pathLanguages.find? (·.1 == String.ofList e.toList.tail)).map (·.2)).getD "python" = l.name
    rw [hlanguage]
    rfl

/-- A point in a directory, a capital sigma before the last point and an extension in upper case. -/
theorem detections_agree_upper :
    ofExtension? "v1.c/ΟΔΟΣ.S".toList = some .assembly ∧ ofPath? "v1.c/ΟΔΟΣ.S".toList = some .assembly ∧
    Duplicate.languageOf "v1.c/ΟΔΟΣ.S".toList = "assembly" := by
  have h : ofExtension? "v1.c/ΟΔΟΣ.S".toList = some .assembly := by decide
  have hends := (detections_agree _ _).1 h
  exact ⟨h, hends, (detections_agree _ _).2 hends⟩

end Language

end CodeSurvey
