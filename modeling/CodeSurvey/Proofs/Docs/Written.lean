/-
Symbols that are marked as documented. Documentation is asked for symbol by symbol, and each request takes the next
answer of the language model (`Writes`). A symbol is marked because it was asked for, whatever came of that, and nothing
else changes (`autoDocument_marks_asked`).
-/
import CodeSurvey.Api.Analysis
import CodeSurvey.Proofs.Smell.Undocumented

namespace CodeSurvey

variable {α β : Type}

/-! ## Requests to the language model -/

def AiReply.outcome : AiReply → Except String (Option String)
  | .text t => .ok t
  | .failure m => .error m

/-- An answer is documentation: a text that is not blank. -/
def AiReply.Documents : AiReply → Prop
  | .text t => Docs.unfenced (t.getD "").toList ≠ []
  | .failure _ => False

namespace AiService

def next (ai : AiService) : AiReply := ai.replies.head?.getD (.text (some "ok"))

def after (ai : AiService) (call : AiCall) : AiService :=
  { ai with replies := ai.replies.tail, calls := call :: ai.calls }

def afterAll (ai : AiService) (calls : List AiCall) : AiService := calls.foldl after ai

def answers (ai : AiService) : List AiCall → List AiReply
  | [] => []
  | call :: calls => ai.next :: (ai.after call).answers calls

variable (ai : AiService)

@[simp] theorem length_answers (calls : List AiCall) : (ai.answers calls).length = calls.length := by
  induction calls generalizing ai with
  | nil => rfl
  | cons call calls ih => simp [answers, ih]

theorem afterAll_append (calls more : List AiCall) : ai.afterAll (calls ++ more) = (ai.afterAll calls).afterAll more :=
  List.foldl_append

theorem answers_append (calls more : List AiCall) :
    ai.answers (calls ++ more) = ai.answers calls ++ (ai.afterAll calls).answers more := by
  induction calls generalizing ai with
  | nil => rfl
  | cons call calls ih =>
    simp only [List.cons_append, answers, ih]
    rfl

theorem run_chat (model : String) (temperature : Float) (maxTokens : Nat) (messages : List (String × String)) :
    (chat model temperature maxTokens messages).run ai =
      (ai.next.outcome, ai.after (.chat model temperature maxTokens messages)) := by
  obtain ⟨replies, vectorOf, calls⟩ := ai
  cases replies with
  | nil => rfl
  | cons reply replies => cases reply <;> rfl

end AiService

/-! ## Writing -/

namespace Docs

/-- The request for the documentation of a function. -/
def writerCall (name : String) (code : List Char) (language : String) : AiCall :=
  .chat writerModel 0.3 500 [("system", writerRole), ("user", writerPrompt name code language none)]

theorem run_write (name : String) (code : List Char) (language : String) (ai : AiService) :
    (write name code language none).run ai = (noteOf ai.next.outcome, ai.after (writerCall name code language)) := by
  show (let p := (AiService.chat writerModel 0.3 500 _).run ai; (noteOf p.1, p.2)) = _
  rw [AiService.run_chat]
  rfl

theorem run_bind_ok {x : Writing α} {f : α → Writing β} {ai ai' : AiService} {a : α} (h : x.run ai = (.ok a, ai')) :
    (x >>= f).run ai = (f a).run ai' := by
  show (let p := x.run ai; (ExceptT.bindCont f p.1).run p.2) = _
  rw [h]
  rfl

/-- Whatever the language model answers, the work comes to its end. It makes requests for symbols, one after the other,
and what it comes to has for each of these symbols the note of the answer. -/
def Writes (x : Writing α) (notes : α → List (Json × List Char)) (asks : List (Json × AiCall)) : Prop :=
  ∀ ai : AiService, ∃ a, x.run ai = (.ok a, ai.afterAll (asks.map (·.2))) ∧
    notes a = (asks.map (·.1)).zip ((ai.answers (asks.map (·.2))).map fun reply => noteOf reply.outcome)

namespace Writes

variable {notes : α → List (Json × List Char)}

theorem nothing {a : α} (h : notes a = []) : Writes (pure a) notes [] := fun _ => ⟨a, rfl, h⟩

theorem map {x : Writing α} {asks : List (Json × AiCall)} (hx : Writes x notes asks) {g : α → β}
    {notes' : β → List (Json × List Char)}
    (h : ∀ a, notes' (g a) = notes a) : Writes (x >>= fun a => pure (g a)) notes' asks := by
  intro ai
  obtain ⟨a, hrun, hnotes⟩ := hx ai
  exact ⟨g a, run_bind_ok hrun, (h a).trans hnotes⟩

/-- The requests for the items of a list follow one another. -/
theorem mapM {l : List β} {f : β → Writing α} {asks : β → List (Json × AiCall)}
    (h : ∀ b ∈ l, Writes (f b) notes (asks b)) :
    Writes (l.mapM f) (fun as => as.flatMap notes) (l.flatMap asks) := by
  induction l with
  | nil => exact nothing rfl
  | cons b l ih =>
    obtain ⟨hb, hl⟩ := List.forall_mem_cons.1 h
    intro ai
    obtain ⟨a, hrun, hnotes⟩ := hb ai
    obtain ⟨as, hruns, hmore⟩ := ih hl (ai.afterAll ((asks b).map (·.2)))
    refine ⟨a :: as, ?_, ?_⟩
    · rw [List.mapM_cons, run_bind_ok hrun, run_bind_ok hruns, List.flatMap_cons, List.map_append,
        AiService.afterAll_append]
      rfl
    · simp only [List.flatMap_cons, List.map_append, AiService.answers_append]
      rw [List.zip_append (by simp), hnotes]
      exact congrArg (_ ++ ·) hmore

end Writes

def Documentation.note (d : Documentation) : Json × List Char := (d.symbolId, d.docstring)

end Docs

namespace Api

open Docs

/-- The request for the documentation of a symbol in a file of these lines. There is none if the symbol begins outside
of the file, or if its lines carry documentation. -/
def question? (ls : List (List Char)) (language : String) (y : SymbolRow) : Option (SymbolRow × AiCall) :=
  let code := targetCode ls y.lineStart y.lineEnd
  if 1 ≤ y.lineStart ∧ y.lineStart ≤ ls.length ∧ isDocumented code language.toList = false then
    some (y, writerCall y.name code language)
  else none

/-- The requests for the documentation of a file: for functions and classes, in their order. -/
def questionsIn (s : Store) (f : FileRow × List Char) : List (SymbolRow × AiCall) :=
  ((s.symbolsIn f.1.id).filter isDocumentable).filterMap (question? (Text.boundaryLines f.2) (docLanguage f.1))

/-- A request as it is made: for the written form of the symbol's identifier. -/
def asked (q : SymbolRow × AiCall) : Json × AiCall := (q.1.id.json, q.2)

theorem word_mem_writtenKinds {y : SymbolRow} (h : isDocumentable y = true) : y.kind.word ∈ writtenKinds := by
  unfold isDocumentable at h
  cases hkind : y.kind <;> rw [hkind] at h <;> first | decide | cases h

theorem docLanguage_ne_empty (f : FileRow) : (docLanguage f).isEmpty = false := by
  unfold docLanguage
  by_cases h : f.language.isEmpty = true
  · rw [if_pos h]
    decide
  · rw [if_neg h]
    exact Bool.not_eq_true _ ▸ h

theorem writes_document? (fileId path : Json) (ls : List (List Char)) {language : String}
    (hlanguage : language.isEmpty = false) {y : SymbolRow} (hy : isDocumentable y = true) :
    Writes (document? fileId path ls (.str language) (docTarget y)) (fun d => d.toList.map Documentation.note)
      ((question? ls language y).toList.map asked) := by
  have hkind := word_mem_writtenKinds hy
  by_cases houtside : y.lineStart < 1 ∨ (ls.length : Int) < y.lineStart
  · have hnone : question? ls language y = none := if_neg (by omega)
    have hpass : document? fileId path ls (.str language) (docTarget y) = pure none := by
      simp [document?, docTarget, hkind, houtside]
    rw [hnone, hpass]
    exact .nothing rfl
  · by_cases hdocumented : isDocumented (targetCode ls y.lineStart y.lineEnd) language.toList = true
    · have hnone : question? ls language y = none := if_neg (by simp [hdocumented])
      have hpass : document? fileId path ls (.str language) (docTarget y) = pure none := by
        simp [document?, docTarget, hkind, houtside, Json.truthy, hlanguage, Json.display, hdocumented]
      rw [hnone, hpass]
      exact .nothing rfl
    · have hsome : question? ls language y =
          some (y, writerCall y.name (targetCode ls y.lineStart y.lineEnd) language) :=
        if_pos ⟨by omega, by omega, by simpa using hdocumented⟩
      have hask : document? fileId path ls (.str language) (docTarget y) =
          (do
            let docstring ← write y.name (targetCode ls y.lineStart y.lineEnd) language none
            return some ⟨y.id.json, .str y.name, docstring, y.lineStart, fileId, path⟩ : Writing _) := by
        simp [document?, docTarget, hkind, houtside, Json.truthy, hlanguage, Json.display, hdocumented]
      rw [hsome, hask]
      intro ai
      have hwrite : (liftM (write y.name (targetCode ls y.lineStart y.lineEnd) language none) : Writing _).run ai =
          (.ok (noteOf ai.next.outcome),
            ai.after (writerCall y.name (targetCode ls y.lineStart y.lineEnd) language)) := by
        show (let p := (write y.name (targetCode ls y.lineStart y.lineEnd) language none).run ai;
          (Except.ok p.1, p.2)) = _
        rw [run_write]
      exact ⟨_, run_bind_ok hwrite, rfl⟩

theorem writes_docEntry (s : Store) (f : FileRow × List Char) (htext : f.2 ≠ []) :
    Writes (docEntry s f).document (fun docs => docs.map Documentation.note) ((questionsIn s f).map asked) := by
  let symbols := (s.symbolsIn f.1.id).filter isDocumentable
  let ask (y : SymbolRow) :=
    document? f.1.id.json (.str f.1.path) (Text.boundaryLines f.2) (.str (docLanguage f.1)) (docTarget y)
  have hdocument : (docEntry s f).document = symbols.mapM ask >>= fun docs => pure (docs.filterMap (·)) := by
    have htargets : (docEntry s f).symbols.mapM (document? f.1.id.json (.str f.1.path) (Text.boundaryLines f.2)
        (.str (docLanguage f.1))) = symbols.mapM ask := List.mapM_map
    by_cases hnone : symbols = []
    · have hempty : (docEntry s f).symbols = [] := congrArg (List.map docTarget) hnone
      simp [Docs.FileEntry.document, hempty, hnone]
    · have hsome : (docEntry s f).symbols ≠ [] := fun h => hnone (List.map_eq_nil_iff.1 h)
      have hcontent : (docEntry s f).content ≠ [] := htext
      rw [← htargets, Docs.FileEntry.document, if_neg (by simp [hcontent, hsome])]
      rfl
  have hsymbols : Writes (symbols.mapM ask) (fun ds => ds.flatMap fun d => d.toList.map Documentation.note)
      (symbols.flatMap fun y => (question? (Text.boundaryLines f.2) (docLanguage f.1) y).toList.map asked) :=
    .mapM fun y hy => writes_document? _ _ _ (docLanguage_ne_empty f.1) (List.mem_filter.1 hy).2
  have hasks : (questionsIn s f).map asked =
      symbols.flatMap fun y => (question? (Text.boundaryLines f.2) (docLanguage f.1) y).toList.map asked := by
    rw [questionsIn, List.filterMap_eq_flatMap_toList, List.map_flatMap]
  rw [hdocument, hasks]
  refine hsymbols.map fun ds => ?_
  rw [List.filterMap_eq_flatMap_toList, List.map_flatMap]

theorem slice_map (lo hi : Int) (g : α → β) (l : List α) : Text.slice lo hi (l.map g) = (Text.slice lo hi l).map g := by
  simp [Text.slice, List.map_take, List.map_drop]

theorem writes_documentFiles (s : Store) (files : List (FileRow × List Char)) (htexts : ∀ f ∈ files, f.2 ≠ [])
    (limit : Int) :
    Writes (documentFiles (files.map (docEntry s)) limit) (fun docs => docs.map Documentation.note)
      (((Text.slice 0 limit files).flatMap (questionsIn s)).map asked) := by
  have hsub : ∀ f ∈ Text.slice 0 limit files, f.2 ≠ [] := fun f hf =>
    htexts f (List.mem_of_mem_take (List.mem_of_mem_drop hf))
  have hfiles : Writes ((Text.slice 0 limit (files.map (docEntry s))).mapM Docs.FileEntry.document)
      (fun ds => ds.flatMap fun docs => docs.map Documentation.note)
      ((Text.slice 0 limit files).flatMap fun f => (questionsIn s f).map asked) := by
    rw [slice_map, List.mapM_map]
    exact .mapM fun f hf => writes_docEntry s f (hsub f hf)
  rw [List.map_flatMap]
  refine hfiles.map fun ds => ?_
  rw [List.map_flatten]
  rfl

end Api

/-! ## Marks -/

namespace Store

variable (s : Store) (ids : List Id)

def marked (ids : List Id) (y : SymbolRow) : SymbolRow :=
  if ids.contains y.id then { y with hasDocstring := true } else y

theorem symbols_markDocumented : (s.markDocumented ids).symbols = s.symbols.map (marked ids) := rfl

theorem marked_of_not_mem {y : SymbolRow} (h : y.id ∉ ids) : marked ids y = y := if_neg (by simpa using h)

theorem marked_of_mem {y : SymbolRow} (h : y.id ∈ ids) : marked ids y = { y with hasDocstring := true } :=
  if_pos (by simpa using h)

@[simp] theorem marked_id (y : SymbolRow) : (marked ids y).id = y.id := by
  unfold marked
  split <;> rfl

@[simp] theorem marked_fileId (y : SymbolRow) : (marked ids y).fileId = y.fileId := by
  unfold marked
  split <;> rfl

theorem markDocumented_nil : s.markDocumented [] = s := by
  have hsame : s.symbols.map (marked []) = s.symbols :=
    (List.map_congr_left fun y _ => marked_of_not_mem [] (by simp)).trans (List.map_id _)
  show { s with symbols := s.symbols.map (marked []) } = s
  rw [hsame]

theorem symbolsOf_markDocumented (repository : Id) :
    (s.markDocumented ids).symbolsOf repository = (s.symbolsOf repository).map fun p => (marked ids p.1, p.2) := by
  have hplaced : (s.markDocumented ids).placedSymbols = s.placedSymbols.map fun p => (marked ids p.1, p.2) := by
    unfold placedSymbols
    rw [symbols_markDocumented, List.filterMap_map, List.map_filterMap]
    refine List.filterMap_congr fun y _ => ?_
    show ((s.file? (marked ids y).fileId).map fun f => (marked ids y, f)) = _
    rw [marked_fileId, Option.map_map]
    rfl
  unfold symbolsOf
  rw [hplaced, List.filter_map]
  rfl

/-- A marked symbol does not lack documentation, and another one lacks it as before. -/
theorem isUndocumented_marked (y : SymbolRow) :
    Api.isUndocumented (marked ids y) = (Api.isUndocumented y && !ids.contains y.id) := by
  by_cases h : y.id ∈ ids
  · rw [marked_of_mem ids h]
    simp [Api.isUndocumented, h]
  · rw [marked_of_not_mem ids h]
    simp [h]

theorem undocumented_markDocumented (repository : Id) :
    (s.markDocumented ids).undocumented repository = (s.undocumented repository).filter fun p =>
      !ids.contains p.1.id := by
  unfold undocumented
  rw [symbolsOf_markDocumented, List.filter_map, List.filter_filter]
  have hsame : ∀ l : List (SymbolRow × FileRow), (∀ p ∈ l, p.1.id ∉ ids) →
      l.map (fun p => (marked ids p.1, p.2)) = l := by
    intro l hl
    conv_rhs => rw [← List.map_id l]
    refine List.map_congr_left fun p hp => ?_
    rw [marked_of_not_mem ids (hl p hp)]
    rfl
  have hkept : (s.symbolsOf repository).filter ((fun p => Api.isUndocumented p.1) ∘ fun p => (marked ids p.1, p.2)) =
      (s.symbolsOf repository).filter fun p => !ids.contains p.1.id && Api.isUndocumented p.1 := by
    refine List.filter_congr fun p _ => ?_
    show Api.isUndocumented (marked ids p.1) = _
    rw [isUndocumented_marked, Bool.and_comm]
  rw [hkept]
  refine hsame _ fun p hp => ?_
  have := (List.mem_filter.1 hp).2
  simp at this
  exact this.1

theorem filterMap_idOf?_json {asked : List (SymbolRow × AiCall)} (h : ∀ q ∈ asked, q.1.id.IsRegular) :
    (asked.map (·.1.id.json)).filterMap idOf? = asked.map (·.1.id) := by
  induction asked with
  | nil => rfl
  | cons q asked ih =>
    obtain ⟨hq, hasked⟩ := List.forall_mem_cons.1 h
    rw [List.map_cons, List.filterMap_cons, idOf?_json hq, ih hasked]
    rfl

theorem mem_symbols_markDocumented_iff (hkeys : s.HasSymbolKeys) {y : SymbolRow} (hy : y ∈ s.symbols)
    (hid : y.id ∈ ids) :
    y ∈ (s.markDocumented ids).symbols ↔ y.hasDocstring = true := by
  rw [symbols_markDocumented, List.mem_map]
  constructor
  · rintro ⟨z, hz, heq⟩
    have hkey : z.id = y.id := by rw [← heq, marked_id]
    obtain rfl := List.inj_on_of_nodup_map hkeys.nodup hz hy hkey
    rw [← heq, marked_of_mem ids hid]
  · intro hdocumented
    refine ⟨y, hy, ?_⟩
    rw [marked_of_mem ids hid, ← hdocumented]

end Store

/-! ## Orders -/

namespace Service

/-- The requests that are made to document a repository: for the first files with symbols that lack documentation. -/
def questions (v : Service) (repository : Id) (limit : Int) : List (SymbolRow × AiCall) :=
  (Text.slice 0 limit (v.undocumentedTexts repository limit)).flatMap (Api.questionsIn v.store)

/-- An order to document a repository is taken: its repository is known, and its limit can be read. -/
structure TakesOrder (v : Service) (r : Request) (id : String) (o : Api.DocOrder) : Prop where
  id : Id.ofText? id.toList = some o.repository
  known : (v.store.repository? o.repository).isSome
  limit : (r.param? "max_files").elim (some 10) (fun s => Text.int? s.toList) = some o.limit
  storable : Column.isStorable o.limit = true

/-- A service after requests for the documentation of symbols: the symbols are marked. -/
def afterQuestions (v : Service) (asked : List (SymbolRow × AiCall)) : Service :=
  { v with store := v.store.markDocumented (asked.map (·.1.id)), ai := v.ai.afterAll (asked.map (·.2)) }

theorem yields_docOrder (v : Service) (r : Request) (id : String) :
    Answering.Yields (Api.docOrder r id) v (v.TakesOrder r id) := by
  have hsteps := (Answering.Yields.of_shaped (Id.ofText? id.toList) v).bind fun repository =>
    (Answering.Yields.of_limit r "max_files" 10 none v).bind fun limit =>
    (Answering.Yields.of_repositoryOf repository v).bind fun _ =>
    (Answering.Yields.of_rowCount limit v).bind fun limit =>
    Answering.Yields.ok (⟨repository, limit⟩ : Api.DocOrder) v
  refine Answering.Yields.congr (x := Api.docOrder r id) hsteps fun o => ?_
  constructor
  · rintro ⟨repository, hid, limit, ⟨hlimit, -⟩, row, hrow, _, ⟨rfl, hstorable⟩, rfl⟩
    exact ⟨hid, Option.isSome_iff_exists.2 ⟨row, hrow⟩, hlimit, hstorable⟩
  · rintro ⟨hid, hknown, hlimit, hstorable⟩
    obtain ⟨row, hrow⟩ := Option.isSome_iff_exists.1 hknown
    exact ⟨_, hid, _, ⟨hlimit, by simp⟩, row, hrow, _, ⟨rfl, hstorable⟩, rfl⟩

theorem mem_symbols_of_mem_questions {v : Service} {repository : Id} {limit : Int} {q : SymbolRow × AiCall}
    (h : q ∈ v.questions repository limit) : q.1 ∈ v.store.symbols := by
  obtain ⟨f, -, hq⟩ := List.mem_flatMap.1 h
  obtain ⟨y, hy, hquestion⟩ := List.mem_filterMap.1 hq
  obtain ⟨-, hsome⟩ := Option.ite_none_right_eq_some.1 hquestion
  obtain rfl := Option.some_inj.1 hsome
  exact (List.mem_filter.1 (List.mem_filter.1 hy).1).1

theorem text_ne_nil_of_mem_undocumentedTexts {v : Service} {repository : Id} {limit : Int} {f : FileRow × List Char}
    (h : f ∈ v.undocumentedTexts repository limit) : f.2 ≠ [] := by
  obtain ⟨row, -, hrow⟩ := List.mem_filterMap.1 h
  obtain ⟨t, ht, rfl⟩ := Option.map_eq_some_iff.1 hrow
  exact Disk.ne_nil_of_textOf? ht

/-- An order that is taken is answered; the symbols that were asked for are marked, and nothing else changes. -/
theorem run_writeDocs (v : Service) (hkeys : v.store.HasSymbolKeys) (o : Api.DocOrder) :
    ∃ answer, (Api.writeDocs o).run v = (.ok answer, v.afterQuestions (v.questions o.repository o.limit)) := by
  unfold Api.writeDocs
  rw [Answering.run_bind_ok (x := get) (a := v) (w := v) rfl]
  by_cases hnone : v.undocumentedTexts o.repository o.limit = []
  · have hquestions : v.questions o.repository o.limit = [] := by simp [questions, hnone, Text.slice]
    have hsame : v.afterQuestions [] = v := by
      show { v with store := v.store.markDocumented [] } = v
      rw [Store.markDocumented_nil]
    rw [hquestions, hsame]
    dsimp only
    rw [if_pos (by simp [hnone])]
    exact ⟨_, rfl⟩
  · dsimp only
    rw [if_neg (by simpa using hnone)]
    obtain ⟨docs, hrun, hnotes⟩ := Api.writes_documentFiles v.store (v.undocumentedTexts o.repository o.limit)
      (fun _ hf => text_ne_nil_of_mem_undocumentedTexts hf) o.limit v.ai
    have htalk : (Answering.doing (Service.withAi (Docs.documentFiles ((v.undocumentedTexts o.repository o.limit).map
        (Api.docEntry v.store)) o.limit).run)).run v =
        (.ok (.ok docs), { v with ai := v.ai.afterAll ((v.questions o.repository o.limit).map (·.2)) }) := by
      show (let p := (Docs.documentFiles _ o.limit).run v.ai; (Except.ok p.1, { v with ai := p.2 })) = _
      rw [hrun, List.map_map]
      rfl
    have hids : docs.filterMap (fun d => Store.idOf? d.symbolId) = (v.questions o.repository o.limit).map (·.1.id) := by
      have hsymbols : docs.map (·.symbolId) = (v.questions o.repository o.limit).map (·.1.id.json) := by
        have hfirst := congrArg (List.map Prod.fst) hnotes
        rw [List.map_fst_zip (by simp), List.map_map, List.map_map] at hfirst
        exact hfirst
      have hregular : ∀ q ∈ v.questions o.repository o.limit, q.1.id.IsRegular :=
        fun q hq => hkeys.regular q.1 (mem_symbols_of_mem_questions hq)
      rw [← Store.filterMap_idOf?_json hregular, ← hsymbols, List.filterMap_map]
      rfl
    have hdocs : unbroken (.ok docs) = pure docs := rfl
    rw [Answering.run_bind_ok htalk, hdocs, pure_bind, hids]
    exact ⟨_, rfl⟩

/-- Documentation was asked for a symbol, and the answer is none. -/
def Unanswered (v : Service) (o : Api.DocOrder) (y : SymbolRow) : Prop :=
  ∃ p ∈ (v.questions o.repository o.limit).zip (v.ai.answers ((v.questions o.repository o.limit).map (·.2))),
    p.1.1 = y ∧ ¬ p.2.Documents

theorem Unanswered.mem_questions {v : Service} {o : Api.DocOrder} {y : SymbolRow} (h : v.Unanswered o y) :
    ∃ q ∈ v.questions o.repository o.limit, q.1 = y := by
  obtain ⟨p, hp, rfl, -⟩ := h
  exact ⟨p.1, (List.of_mem_zip hp).1, rfl⟩

/-- A row of a symbol without an answer is kept exactly if it has had the mark. -/
theorem mem_symbols_afterQuestions_iff {v : Service} (hkeys : v.store.HasSymbolKeys) {o : Api.DocOrder} {y : SymbolRow}
    (h : v.Unanswered o y) :
    y ∈ (v.afterQuestions (v.questions o.repository o.limit)).store.symbols ↔ y.hasDocstring = true := by
  obtain ⟨q, hq, rfl⟩ := h.mem_questions
  exact v.store.mem_symbols_markDocumented_iff _ hkeys (mem_symbols_of_mem_questions hq) (List.mem_map_of_mem hq)

end Service

/-- An order to document a repository that is not taken is refused, and nothing changes. One that is taken is answered,
whatever the language model answers. Exactly the symbols that were asked for are marked, and they are no longer listed
as lacking documentation. So the symbols for which no documentation came keep their rows exactly if all of them have had
the mark before. -/
theorem autoDocument_marks_asked (v : Service) (hkeys : v.store.HasSymbolKeys) (r : Request) (id : String) :
    ((∀ o, ¬ v.TakesOrder r id o) → ∃ e, (Api.autoDocument r id).run v = (.error e, v)) ∧
    ∀ o, v.TakesOrder r id o → ∃ answer after, (Api.autoDocument r id).run v = (.ok answer, after) ∧
      after = v.afterQuestions (v.questions o.repository o.limit) ∧
      (∀ repository, after.store.undocumented repository = (v.store.undocumented repository).filter fun p =>
        !((v.questions o.repository o.limit).map (·.1.id)).contains p.1.id) ∧
      ((∀ y, v.Unanswered o y → y ∈ after.store.symbols) ↔ ∀ y, v.Unanswered o y → y.hasDocstring = true) := by
  have horder := v.yields_docOrder r id
  constructor
  · intro hnone
    rcases horder.cases with ⟨e, hrun, -⟩ | ⟨o, -, hone⟩
    · exact ⟨e, Answering.run_bind_error hrun⟩
    · exact absurd ((hone o).2 rfl) (hnone o)
  · intro o ho
    obtain ⟨answer, hrun⟩ := v.run_writeDocs hkeys o
    refine ⟨answer, _, (Answering.run_bind_ok (horder.run_eq ho)).trans hrun, rfl, ?_, ?_⟩
    · exact v.store.undocumented_markDocumented _
    · exact forall_congr' fun y => imp_congr_right fun hy => Service.mem_symbols_afterQuestions_iff hkeys hy

/-- A service with a function that lacks documentation, and a language model that cannot be reached. -/
def Service.undescribed : Service :=
  let s := ({} : Store).addRepository (RepositoryRow.blank "tool")
  let s := s.addFile fun id now => ⟨id, Id.nth 0, "a.py", "python", 2, some "def f():\n    return 1\n", now⟩
  let s := s.addSymbols [fun id now =>
    { SymbolRow.documented (Id.nth 1) id now with docstring := none, hasDocstring := false }]
  { Service.idle s with ai := ⟨[.failure "boom"], fun _ => [], []⟩ }

/-- The function is asked for in vain. It is marked nevertheless, and it is listed no more. -/
theorem autoDocument_marks_asked_undescribed :
    ∃ y ∈ Service.undescribed.store.symbols, Service.undescribed.Unanswered ⟨Id.nth 0, 10⟩ y ∧
      ∃ answer after, (Api.autoDocument ⟨"POST", [], [], [], .empty⟩ (Id.nth 0).text).run Service.undescribed =
        (.ok answer, after) ∧
        (Service.undescribed.store.undocumented (Id.nth 0)).map (·.1) = [y] ∧
        after.store.undocumented (Id.nth 0) = [] ∧ y ∉ after.store.symbols := by
  have hkeys : Service.undescribed.store.HasSymbolKeys := by
    refine ⟨fun y hy => ?_, by decide⟩
    rw [List.mem_singleton.1 hy]
    decide
  have horder : Service.undescribed.TakesOrder ⟨"POST", [], [], [], .empty⟩ (Id.nth 0).text ⟨Id.nth 0, 10⟩ :=
    ⟨by decide +kernel, rfl, rfl, by decide⟩
  obtain ⟨q, hquestions, hsymbols, hlacks, hunmarked⟩ : ∃ q, Service.undescribed.questions (Id.nth 0) 10 = [q] ∧
      Service.undescribed.store.symbols = [q.1] ∧
      (Service.undescribed.store.undocumented (Id.nth 0)).map (·.1) = [q.1] ∧ q.1.hasDocstring = false :=
    ⟨_, rfl, rfl, rfl, rfl⟩
  have hvain : Service.undescribed.Unanswered ⟨Id.nth 0, 10⟩ q.1 := by
    refine ⟨(q, .failure "boom"), ?_, rfl, id⟩
    rw [hquestions]
    exact List.mem_singleton.2 rfl
  obtain ⟨answer, after, hrun, -, hlisted, hkept⟩ := (autoDocument_marks_asked Service.undescribed hkeys _ _).2 _ horder
  refine ⟨q.1, hsymbols ▸ List.mem_singleton.2 rfl, hvain, answer, after, hrun, hlacks, ?_, fun hmem => ?_⟩
  · rw [hlisted, hquestions, List.filter_eq_nil_iff]
    intro p hp
    have hfirst : p.1 ∈ [q.1] := hlacks ▸ List.mem_map_of_mem hp
    simp [List.mem_singleton.1 hfirst]
  · have hmarked := hkept.1 (fun y hy => ?_) q.1 hvain
    · rw [hunmarked] at hmarked
      cases hmarked
    · obtain ⟨q', hq', rfl⟩ := hy.mem_questions
      rw [hquestions] at hq'
      rw [List.mem_singleton.1 hq']
      exact hmem

end CodeSurvey
