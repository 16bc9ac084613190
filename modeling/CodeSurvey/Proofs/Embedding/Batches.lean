/-
Vectors of many texts, which go out in batches: the batches together are all the texts (`flatten_chunks`), and unless
the answer to one of them is a failure, every text gets its own vector, in the order of the texts (`run_many`). The
requests are as few as the size of a batch allows, and none of them holds an empty text (`many_aligned_with_texts`).
-/
import CodeSurvey.Ai.Basic
import CodeSurvey.Proofs.Text.Piece
import Mathlib.Algebra.Order.Floor.Div
import Mathlib.Data.List.Basic

namespace CodeSurvey

variable {α β : Type}

/-! ## Pieces of a list -/

section chunks

variable {size : Nat}

theorem flatten_chunksFrom (hsize : 0 < size) :
    ∀ {fuel : Nat} {l : List α}, l.length ≤ fuel → (chunksFrom size fuel l).flatten = l
  | 0, l, h => (List.length_eq_zero_iff.1 (Nat.le_zero.1 h)).symm
  | fuel + 1, [], _ => rfl
  | fuel + 1, a :: l, h => by
    have hrest : ((a :: l).drop size).length ≤ fuel := by
      rw [List.length_drop]
      omega
    rw [chunksFrom, if_neg (by simp), List.flatten_cons, flatten_chunksFrom hsize hrest, List.take_append_drop]

theorem flatten_chunks (hsize : 0 < size) (l : List α) : (chunks size l).flatten = l :=
  flatten_chunksFrom hsize (Nat.le_refl _)

theorem lt_length_chunksFrom_iff (hsize : 0 < size) : ∀ {fuel : Nat} {l : List α} {i : Nat}, l.length ≤ fuel →
    (i < (chunksFrom size fuel l).length ↔ i * size < l.length)
  | 0, l, i, h => by simp [chunksFrom, List.length_eq_zero_iff.1 (Nat.le_zero.1 h)]
  | fuel + 1, [], i, _ => by simp [chunksFrom]
  | fuel + 1, a :: l, i, h => by
    have hrest : ((a :: l).drop size).length ≤ fuel := by
      rw [List.length_drop]
      omega
    rw [chunksFrom, if_neg (by simp), List.length_cons]
    cases i with
    | zero => simp
    | succ i =>
      rw [Nat.add_lt_add_iff_right, lt_length_chunksFrom_iff hsize hrest, List.length_drop, Nat.succ_mul]
      omega

theorem lt_length_chunks_iff (hsize : 0 < size) {l : List α} {i : Nat} :
    i < (chunks size l).length ↔ i * size < l.length :=
  lt_length_chunksFrom_iff hsize (Nat.le_refl _)

theorem length_of_mem_chunksFrom (hsize : 0 < size) : ∀ {fuel : Nat} {l : List α}, ∀ piece ∈ chunksFrom size fuel l,
    1 ≤ piece.length ∧ piece.length ≤ size
  | 0, _, _, h => nomatch h
  | fuel + 1, [], _, h => nomatch h
  | fuel + 1, a :: l, piece, h => by
    rw [chunksFrom, if_neg (by simp)] at h
    rcases List.mem_cons.1 h with rfl | h
    · rw [List.length_take, List.length_cons]
      omega
    · exact length_of_mem_chunksFrom hsize piece h

/-- Only the last piece may be short: what is left behind a piece tells that it is full. -/
theorem length_of_mem_dropLast_chunksFrom : ∀ {fuel : Nat} {l : List α}, ∀ piece ∈ (chunksFrom size fuel l).dropLast,
    piece.length = size
  | 0, _, _, h => nomatch h
  | fuel + 1, [], _, h => nomatch h
  | fuel + 1, a :: l, piece, h => by
    rw [chunksFrom, if_neg (by simp)] at h
    cases hrest : chunksFrom size fuel ((a :: l).drop size) with
    | nil => simp [hrest] at h
    | cons next rest =>
      have hleft : size < (a :: l).length := by
        by_contra hle
        rw [List.drop_eq_nil_of_le (Nat.le_of_not_lt hle)] at hrest
        cases fuel <;> simp [chunksFrom] at hrest
      rw [hrest, List.dropLast_cons_of_ne_nil (List.cons_ne_nil next rest), ← hrest] at h
      rcases List.mem_cons.1 h with rfl | h
      · exact List.length_take_of_le (Nat.le_of_lt hleft)
      · exact length_of_mem_dropLast_chunksFrom piece h

/-- There are as many pieces as are needed: the number is rounded up. -/
theorem length_chunks (hsize : 0 < size) (l : List α) : (chunks size l).length = l.length ⌈/⌉ size := by
  refine Nat.le_antisymm ?_ ?_
  · by_contra hlt
    have hfits := (lt_length_chunks_iff hsize).1 (Nat.lt_of_not_le hlt)
    have hall : l.length ≤ l.length ⌈/⌉ size * size := by
      rw [Nat.mul_comm]
      exact le_smul_ceilDiv hsize
    omega
  · rw [ceilDiv_le_iff_le_smul hsize, smul_eq_mul, Nat.mul_comm]
    exact Nat.le_of_not_lt fun hlt => Nat.lt_irrefl _ ((lt_length_chunks_iff hsize).2 hlt)

end chunks

/-! ## Requests -/

namespace AiService

/-- The service after a request for vectors. -/
def asked (ai : AiService) (model : String) (texts : List (List Char)) : AiService :=
  { ai with replies := ai.replies.tail, calls := .embedding model texts :: ai.calls }

/-- One of the next `n` answers is a failure. -/
def FailsWithin (ai : AiService) (n : Nat) : Prop := ∃ i m, i < n ∧ ai.replies[i]? = some (.failure m)

theorem not_failsWithin_zero (ai : AiService) : ¬ ai.FailsWithin 0 := fun ⟨_, _, hi, _⟩ => Nat.not_lt_zero _ hi

theorem failsWithin_succ_iff {ai : AiService} {n : Nat} (model : String) (texts : List (List Char)) :
    ai.FailsWithin (n + 1) ↔ (∃ m, ai.replies.head? = some (.failure m)) ∨ (ai.asked model texts).FailsWithin n := by
  have hlater : ∀ i, (ai.asked model texts).replies[i]? = ai.replies[i + 1]? := fun i => List.getElem?_tail
  constructor
  · rintro ⟨i, m, hi, hreply⟩
    cases i with
    | zero => exact .inl ⟨m, List.head?_eq_getElem?.trans hreply⟩
    | succ i => exact .inr ⟨i, m, Nat.lt_of_succ_lt_succ hi, (hlater i).trans hreply⟩
  · rintro (⟨m, hreply⟩ | ⟨i, m, hi, hreply⟩)
    · exact ⟨0, m, Nat.succ_pos n, List.head?_eq_getElem?.symm.trans hreply⟩
    · exact ⟨i + 1, m, Nat.succ_lt_succ hi, (hlater i).symm.trans hreply⟩

end AiService

namespace Embedding

theorem run_bind (x : Making α) (f : α → Making β) (ai : AiService) :
    (x >>= f).run ai = match x.run ai with
      | (.ok a, ai') => (f a).run ai'
      | (.error e, ai') => (.error e, ai') := by
  show (let p := x.run ai; ExceptT.bindCont f p.1 p.2) = _
  rcases x.run ai with ⟨_ | _, _⟩ <;> rfl

theorem run_ask_embed (ai : AiService) (model : String) (texts : List (List Char)) :
    (∃ m, ai.replies.head? = some (.failure m) ∧
      (ask (AiService.embed model texts)).run ai = (.error (.service m), ai.asked model texts)) ∨
    ((∀ m, ai.replies.head? ≠ some (.failure m)) ∧
      (ask (AiService.embed model texts)).run ai = (.ok (texts.map ai.vectorOf), ai.asked model texts)) := by
  obtain ⟨replies, vectorOf, calls⟩ := ai
  match replies with
  | [] => exact .inr ⟨fun _ => by simp, rfl⟩
  | .text _ :: _ => exact .inr ⟨fun _ => by simp, rfl⟩
  | .failure m :: _ => exact .inl ⟨m, rfl, rfl⟩

/-- The first failure ends the work; without one each batch goes out and gets its vectors. The induction is on the
batches that are left, of which each takes one answer. -/
theorem run_mapM_embed (model : String) (batches : List (List (List Char))) (ai : AiService) :
    (ai.FailsWithin batches.length ∧
      ∃ m ai', (batches.mapM fun batch => ask (AiService.embed model batch)).run ai = (.error (.service m), ai')) ∨
    (¬ ai.FailsWithin batches.length ∧
      ∃ ai', (batches.mapM fun batch => ask (AiService.embed model batch)).run ai =
        (.ok (batches.map fun batch => batch.map ai.vectorOf), ai') ∧
        ai'.calls = (batches.map (AiCall.embedding model)).reverse ++ ai.calls) := by
  induction batches generalizing ai with
  | nil => exact .inr ⟨ai.not_failsWithin_zero, ai, rfl, rfl⟩
  | cons batch rest ih =>
    rw [List.length_cons, AiService.failsWithin_succ_iff model batch, List.mapM_cons, run_bind]
    obtain ⟨m, hhead, hrun⟩ | ⟨hhead, hrun⟩ := run_ask_embed ai model batch
    · rw [hrun]
      exact .inl ⟨.inl ⟨m, hhead⟩, m, _, rfl⟩
    · simp only [hrun, run_bind]
      obtain ⟨hfails, m, ai', hrest⟩ | ⟨hfails, ai', hrest, hcalls⟩ := ih (ai.asked model batch)
      · rw [hrest]
        exact .inl ⟨.inr hfails, m, ai', rfl⟩
      · rw [hrest]
        refine .inr ⟨?_, ai', rfl, by rw [hcalls]; simp [AiService.asked]⟩
        rintro (⟨m, hm⟩ | hlater)
        · exact hhead m hm
        · exact hfails hlater

/-- The making of vectors fails exactly if the service cannot be reached, or one of the answers to the batches is a
failure; otherwise each text gets the vector of its own cleaned form, and the batches of these are the requests. -/
theorem run_many (hasClient : Bool) (model : String) (texts : List (Option (List Char))) (ai : AiService) :
    ((hasClient = false ∨ ∃ i m, i * batchSize < texts.length ∧ ai.replies[i]? = some (.failure m)) ∧
      ∃ e ai', (many hasClient model texts).run ai = (.error e, ai')) ∨
    ((hasClient = true ∧ ¬ ∃ i m, i * batchSize < texts.length ∧ ai.replies[i]? = some (.failure m)) ∧
      ∃ ai', (many hasClient model texts).run ai = (.ok (texts.map fun t => ai.vectorOf (cleaned t)), ai') ∧
        ai'.calls = ((chunks batchSize (texts.map cleaned)).map (AiCall.embedding model)).reverse ++ ai.calls) := by
  have hsize : 0 < batchSize := by decide
  have hfails : ai.FailsWithin (chunks batchSize (texts.map cleaned)).length ↔
      ∃ i m, i * batchSize < texts.length ∧ ai.replies[i]? = some (.failure m) := by
    simp only [AiService.FailsWithin, lt_length_chunks_iff hsize, List.length_map]
  cases hasClient with
  | false => exact .inl ⟨.inl rfl, .notConfigured, ai, rfl⟩
  | true =>
    rw [← hfails]
    have hmany : (many true model texts).run ai =
        ((chunks batchSize (texts.map cleaned)).mapM (fun batch => ask (AiService.embed model batch)) >>=
          fun vectors => pure vectors.flatten).run ai := rfl
    rw [hmany, run_bind]
    obtain ⟨hf, m, ai', hrun⟩ | ⟨hf, ai', hrun, hcalls⟩ :=
      run_mapM_embed model (chunks batchSize (texts.map cleaned)) ai
    · rw [hrun]
      exact .inl ⟨.inr hf, .service m, ai', rfl⟩
    · rw [hrun]
      refine .inr ⟨⟨rfl, hf⟩, ai', ?_, hcalls⟩
      show (Except.ok ((chunks batchSize (texts.map cleaned)).map (List.map ai.vectorOf)).flatten, ai') = _
      rw [← List.map_flatten, flatten_chunks hsize, List.map_map]
      rfl

/-! ## Texts and their vectors -/

/-- What goes out for a text: the text without the white space around it, cut to its first 32764 characters, and a
stand-in for a text that is missing or blank. -/
inductive GoesOutAs : Option (List Char) → List Char → Prop
  | missing : GoesOutAs none "[empty]".toList
  | blank {t : List Char} (h : ∀ c ∈ t, Text.isBlank c = true) : GoesOutAs (some t) "[empty]".toList
  | written {before kept after : List Char} (haround : ∀ c ∈ before ++ after, Text.isBlank c = true) (hne : kept ≠ [])
      (hhead : ∀ c ∈ kept.head?, Text.isBlank c = false) (hlast : ∀ c ∈ kept.getLast?, Text.isBlank c = false) :
      GoesOutAs (some (before ++ kept ++ after)) (kept.take 32764)

theorem goesOutAs_cleaned : ∀ text, GoesOutAs text (cleaned text)
  | none => .missing
  | some t => by
    obtain ⟨before, after, ht, haround, hhead, hlast⟩ := Text.exists_eq_stripBy Text.isBlank t
    by_cases hblank : Text.isBlankText t = true
    · have hcleaned : cleaned (some t) = "[empty]".toList := if_pos hblank
      rw [hcleaned]
      exact .blank (List.all_eq_true.1 hblank)
    · have hcleaned : cleaned (some t) = (Text.stripBy Text.isBlank t).take 32764 := if_neg hblank
      have hne : Text.stripBy Text.isBlank t ≠ [] := fun hnil => by
        rw [hnil, List.append_nil] at ht
        exact hblank (List.all_eq_true.2 (ht ▸ haround))
      have hwritten := GoesOutAs.written haround hne hhead hlast
      rw [← ht, ← hcleaned] at hwritten
      exact hwritten

theorem GoesOutAs.ne_nil {t : Option (List Char)} {u : List Char} (h : GoesOutAs t u) : u ≠ [] := by
  cases h with
  | missing | blank => decide
  | written _ hne _ _ => simpa using hne

/-- With a service that answers, every text gets the vector of what goes out for it, in the order of the texts. The
requests together are what goes out, in its order; each has from 1 to 2048 texts, none of them empty, and their number
is that of the texts over 2048, rounded up. -/
theorem many_aligned_with_texts (model : String) (texts : List (Option (List Char))) (ai : AiService)
    (hanswers : ¬ ∃ i m, i * 2048 < texts.length ∧ ai.replies[i]? = some (.failure m)) :
    ∃ (sent : List (List Char)) (batches : List (List (List Char))) (vectors : List (List Float)) (ai' : AiService),
      (many true model texts).run ai = (.ok vectors, ai') ∧
      texts.Forall₂ GoesOutAs sent ∧ vectors = sent.map ai.vectorOf ∧ vectors.length = texts.length ∧
      ai'.calls = (batches.map (AiCall.embedding model)).reverse ++ ai.calls ∧ batches.flatten = sent ∧
      (∀ batch ∈ batches, 1 ≤ batch.length ∧ batch.length ≤ 2048 ∧ [] ∉ batch) ∧
      batches.length = (texts.length + 2047) / 2048 := by
  obtain ⟨hfails, -⟩ | ⟨-, ai', hrun, hcalls⟩ := run_many true model texts ai
  · exact absurd (hfails.resolve_left (by simp)) hanswers
  have hsize : 0 < batchSize := by decide
  have hsent : texts.Forall₂ GoesOutAs (texts.map cleaned) := by
    rw [List.forall₂_map_right_iff, List.forall₂_same]
    exact fun t _ => goesOutAs_cleaned t
  refine ⟨texts.map cleaned, chunks batchSize (texts.map cleaned), _, ai', hrun, hsent, ?_, ?_, hcalls,
    flatten_chunks hsize _, ?_, ?_⟩
  · rw [List.map_map]
    rfl
  · rw [List.length_map]
  · intro batch hbatch
    obtain ⟨hpos, hle⟩ := length_of_mem_chunksFrom hsize batch hbatch
    refine ⟨hpos, hle, fun hnil => ?_⟩
    have hmem : [] ∈ texts.map cleaned := by
      rw [← flatten_chunks hsize (texts.map cleaned)]
      exact List.mem_flatten_of_mem hbatch hnil
    obtain ⟨t, -, ht⟩ := List.mem_map.1 hmem
    exact (goesOutAs_cleaned t).ne_nil ht
  · rw [length_chunks hsize, List.length_map, Nat.ceilDiv_eq_add_pred_div]
    rfl

/-- One text more than a batch holds takes two requests; a failure that lies further ahead does not matter. -/
theorem many_aligned_with_texts_two_batches :
    ∃ (batches : List (List (List Char))) (vectors : List (List Float)) (ai' : AiService),
      (many true "m" (some " b ".toList :: List.replicate 2048 none)).run
        ⟨[.text none, .text none, .failure "late"], fun t => [Float.ofNat t.length], []⟩ = (.ok vectors, ai') ∧
      vectors.length = 2049 ∧ ai'.calls = (batches.map (AiCall.embedding "m")).reverse ∧ batches.length = 2 := by
  obtain ⟨sent, batches, vectors, ai', hrun, -, -, hvectors, hcalls, -, -, hbatches⟩ :=
    many_aligned_with_texts "m" (some " b ".toList :: List.replicate 2048 none)
      ⟨[.text none, .text none, .failure "late"], fun t => [Float.ofNat t.length], []⟩ (by
        rintro ⟨i, m, hi, hreply⟩
        simp only [List.length_cons, List.length_replicate] at hi
        obtain rfl | rfl : i = 0 ∨ i = 1 := by omega
        all_goals simp at hreply)
  simp only [List.length_cons, List.length_replicate] at hvectors hbatches
  exact ⟨batches, vectors, ai', hrun, hvectors, by simpa using hcalls, hbatches⟩

end Embedding

end CodeSurvey
