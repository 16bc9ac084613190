/-
Places and their texts. A place at another or below it begins, written out, like the other; so does a place beside the
other whose name goes on where the other's ends, and no further one does (`placeText_isPrefix_iff`). The text of a file
is therefore shown for places of both sorts (`fileContent_shows_iff`).
-/
import CodeSurvey.Api.Repositories
import CodeSurvey.Api.Upload
import CodeSurvey.Proofs.Api.Answering
import CodeSurvey.Proofs.Store.Identifier

namespace CodeSurvey

namespace Path

/-- The names on the way to a place: none is empty, and none has a slash in it. -/
def IsPlace (place : List (List Char)) : Prop := ∀ s ∈ place, s ≠ [] ∧ '/' ∉ s

/-- A place lies beside another, or below a place beside it, under a name that begins with the name of the other and
goes on. -/
def Beside (base place : List (List Char)) : Prop :=
  ∃ above name more rest, more ≠ [] ∧ base = above ++ [name] ∧ place = above ++ (name ++ more) :: rest

variable {base place r u : List (List Char)} {s t : List Char}

/-! ## Places -/

theorem isPlace_cons : IsPlace (s :: r) ↔ (s ≠ [] ∧ '/' ∉ s) ∧ IsPlace r := List.forall_mem_cons

theorem IsPlace.follow {step : List Char} (h : IsPlace place) (hstep : step ≠ [] ∧ '/' ∉ step) :
    IsPlace (follow place step) := by
  unfold Path.follow
  intro s hs
  by_cases hback : step = ['.', '.']
  · rw [if_pos (by simpa using hback)] at hs
    exact h s (List.dropLast_subset place hs)
  · rw [if_neg (by simpa using hback)] at hs
    rcases List.mem_append.1 hs with hs | hs
    · exact h s hs
    · rw [List.mem_singleton.1 hs]
      exact hstep

theorem isPlace_segments (p : List Char) : IsPlace (segments p) := by
  intro s hs
  obtain ⟨hpiece, hkept⟩ := List.mem_filter.1 hs
  refine ⟨?_, Text.not_mem_of_mem_splitOnChar hpiece⟩
  rintro rfl
  simp at hkept

theorem isPlace_resolve (p : List Char) : IsPlace (resolve p) := by
  have hwalk : ∀ (steps place : List (List Char)), IsPlace steps → IsPlace place →
      IsPlace (steps.foldl follow place) := by
    intro steps
    induction steps with
    | nil => exact fun place _ hplace => hplace
    | cons step steps ih =>
      intro place hsteps hplace
      obtain ⟨hstep, hrest⟩ := isPlace_cons.1 hsteps
      exact ih _ hrest (hplace.follow hstep)
  exact hwalk (segments p) [] (isPlace_segments p) (by simp [IsPlace])

/-! ## Places beside a place -/

theorem not_beside_nil_right : ¬ Beside base [] := by
  rintro ⟨above, name, more, rest, -, -, hplace⟩
  simp at hplace

theorem beside_cons_iff :
    Beside (s :: r) (t :: u) ↔ (s = t ∧ Beside r u) ∨ (r = [] ∧ ∃ more, more ≠ [] ∧ t = s ++ more) := by
  constructor
  · rintro ⟨above, name, more, rest, hmore, hbase, hplace⟩
    cases above with
    | nil =>
      obtain ⟨rfl, rfl⟩ : s = name ∧ r = [] := by simpa using hbase
      obtain ⟨rfl, rfl⟩ : t = s ++ more ∧ u = rest := by simpa using hplace
      exact .inr ⟨rfl, more, hmore, rfl⟩
    | cons a above =>
      obtain ⟨rfl, hr⟩ : s = a ∧ r = above ++ [name] := by simpa using hbase
      obtain ⟨rfl, hu⟩ : t = s ∧ u = above ++ (name ++ more) :: rest := by simpa using hplace
      exact .inl ⟨rfl, above, name, more, rest, hmore, hr, hu⟩
  · rintro (⟨rfl, above, name, more, rest, hmore, rfl, rfl⟩ | ⟨rfl, more, hmore, rfl⟩)
    · exact ⟨s :: above, name, more, rest, hmore, rfl, rfl⟩
    · exact ⟨[], s, more, u, hmore, rfl, rfl⟩

theorem Beside.not_isPrefix (h : Beside base place) : ¬ base <+: place := by
  obtain ⟨above, name, more, rest, hmore, rfl, rfl⟩ := h
  intro hprefix
  rw [List.prefix_append_right_inj, List.cons_prefix_cons] at hprefix
  exact hmore (List.self_eq_append_right.1 hprefix.1)

/-! ## Texts of places -/

theorem placeText_cons (s : List Char) (r : List (List Char)) : placeText (s :: r) = '/' :: (s ++ placeText r) := rfl

theorem eq_slash_of_placeText {c : Char} {x y : List Char} (h : placeText r ++ x = c :: y) (hr : r ≠ []) : c = '/' := by
  cases r with
  | nil => exact absurd rfl hr
  | cons s r =>
    rw [placeText_cons, List.cons_append] at h
    exact (List.cons.inj h).1.symm

/-- Behind the slash in front of both, two texts of places begin alike if the first names are the same and the rests
begin alike, or if the first name is all of one text and begins the first name of the other. -/
theorem append_placeText_isPrefix_iff (hs : '/' ∉ s) (ht : '/' ∉ t) :
    s ++ placeText r <+: t ++ placeText u ↔
      (s = t ∧ placeText r <+: placeText u) ∨ (r = [] ∧ ∃ more, more ≠ [] ∧ t = s ++ more) := by
  constructor
  · rintro ⟨tail, htail⟩
    rw [List.append_assoc] at htail
    rcases List.append_eq_append_iff.1 htail with ⟨more, rfl, hrest⟩ | ⟨more, rfl, hrest⟩
    · cases more with
      | nil => exact .inl ⟨by simp, tail, by simpa using hrest⟩
      | cons c more =>
        -- A name behind the shorter one would have to begin inside the longer one, with a slash.
        have hlast : r = [] := by
          by_contra hr
          have hc := eq_slash_of_placeText hrest hr
          simp [hc] at ht
        exact .inr ⟨hlast, c :: more, by simp, rfl⟩
    · cases more with
      | nil => exact .inl ⟨by simp, tail, by simpa using hrest.symm⟩
      | cons c more =>
        have hu : u ≠ [] := by
          rintro rfl
          simp [placeText] at hrest
        have hc : c = '/' := eq_slash_of_placeText (x := []) (by rw [List.append_nil, hrest]; rfl) hu
        simp [hc] at hs
  · rintro (⟨rfl, hrest⟩ | ⟨rfl, more, -, rfl⟩)
    · exact (List.prefix_append_right_inj s).2 hrest
    · rw [List.append_assoc]
      simp [placeText]

/-- A place begins, written out, like another exactly if it lies there, below, or beside it under a longer name. -/
theorem placeText_isPrefix_iff (hbase : IsPlace base) (hplace : IsPlace place) :
    placeText base <+: placeText place ↔ base <+: place ∨ Beside base place := by
  induction base generalizing place with
  | nil => simp [placeText]
  | cons s r ih =>
    cases place with
    | nil => simp [placeText, not_beside_nil_right]
    | cons t u =>
      obtain ⟨hs, hr⟩ := isPlace_cons.1 hbase
      obtain ⟨ht, hu⟩ := isPlace_cons.1 hplace
      rw [placeText_cons, placeText_cons, List.cons_prefix_cons, append_placeText_isPrefix_iff hs.2 ht.2, ih hr hu,
        List.cons_prefix_cons, beside_cons_iff]
      tauto

end Path

/-! ## The text of a file -/

open CodeSurvey.Path

/-- A file can be read at a place: no name on the way is too long, and the file lies there. -/
structure Disk.Holds (d : Disk) (place : List (List Char)) (bytes : List UInt8) : Prop where
  short : ∀ name ∈ place, isTooLong name = false
  read : d.read? place = some bytes

def Store.ListsFile (s : Store) (id file directory : String) (f : FileRow) : Prop :=
  ∃ row, (Id.ofRegular? id).bind s.repository? = some row ∧ row.uploadPath = some directory ∧ directory ≠ "" ∧
    (s.filesOf row.id).find? (·.path == file) = some f

/-- The bytes of a file are given exactly if it lies at the directory, below, or beside it under a longer name. -/
theorem Disk.content_eq_ok_iff {d : Disk} {directory file : List Char} {bytes : List UInt8} :
    d.content directory file = .ok bytes ↔
      (d.placeOf directory <+: d.placeOf (join directory file) ∨
        Beside (d.placeOf directory) (d.placeOf (join directory file))) ∧
      d.Holds (d.placeOf (join directory file)) bytes := by
  have hbegins : (placeText (d.placeOf directory)).isPrefixOf (placeText (d.placeOf (join directory file))) = true ↔
      d.placeOf directory <+: d.placeOf (join directory file) ∨
        Beside (d.placeOf directory) (d.placeOf (join directory file)) := by
    rw [List.isPrefixOf_iff_prefix]
    exact placeText_isPrefix_iff (isPlace_resolve _) (isPlace_resolve _)
  rw [← hbegins]
  unfold content
  generalize d.placeOf (join directory file) = place
  by_cases hinside : (placeText (d.placeOf directory)).isPrefixOf (placeText place) = true
  · by_cases hlong : place.any isTooLong = true
    · have hnone : ¬ d.Holds place bytes := by
        rintro ⟨hshort, -⟩
        obtain ⟨name, hname, htoo⟩ := List.any_eq_true.1 hlong
        rw [hshort name hname] at htoo
        cases htoo
      simp [hinside, hlong, hnone]
    · have hshort : ∀ name ∈ place, isTooLong name = false := by simpa using hlong
      cases hread : d.read? place with
      | none =>
        have hnone : ¬ d.Holds place bytes := by
          rintro ⟨-, hsome⟩
          rw [hread] at hsome
          cases hsome
        cases hdirectory : d.isDirectory place <;> simp [hinside, hlong, hread, hnone, hdirectory]
      | some b =>
        have hholds : d.Holds place bytes ↔ b = bytes := by
          constructor
          · rintro ⟨-, hsome⟩
            rw [hread] at hsome
            exact Option.some.inj hsome
          · rintro rfl
            exact ⟨hshort, hread⟩
        simp [hinside, hlong, hread, hholds]
  · simp [hinside]

namespace Answering.Yields

theorem of_uploadDirectory (row : RepositoryRow) (v : Service) :
    Yields (Api.uploadDirectory row) v fun directory => row.uploadPath = some directory ∧ directory ≠ "" := by
  unfold Api.uploadDirectory
  cases hpath : row.uploadPath with
  | none => exact (error _ v).congr fun directory => by simp
  | some p =>
    by_cases hempty : p = ""
    · subst hempty
      exact (error _ v).congr fun directory => by simp +contextual [eq_comm]
    · have hkept : (some p).filter (fun p => !p.isEmpty) = some p := by simpa [String.isEmpty_iff] using hempty
      rw [hkept]
      refine (ok p v).congr fun directory => ?_
      constructor
      · rintro rfl
        exact ⟨rfl, hempty⟩
      · rintro ⟨hsome, -⟩
        exact (Option.some.inj hsome).symm

theorem of_shown (file : String) (e : Except ContentError (List UInt8)) (v : Service) :
    Yields (Api.shown file e) v (e = .ok ·) := by
  cases e with
  | error e => exact (error _ v).congr fun bytes => by simp
  | ok b => exact (ok b v).congr fun bytes => by simp [eq_comm]

end Answering.Yields

/-- The text of a file is shown exactly if the file is listed, can be read where it lies, and lies at the directory of
its repository, below, or beside that directory under a longer name. In the last case it lies neither there nor below.
-/
theorem fileContent_shows_iff (v : Service) (id file : String) :
    (Answering.Yields (Api.fileContent id file) v fun answer => ∃ directory f bytes,
      v.store.ListsFile id file directory f ∧
      v.disk.Holds (v.disk.placeOf (join directory.toList file.toList)) bytes ∧
      (v.disk.placeOf directory.toList <+: v.disk.placeOf (join directory.toList file.toList) ∨
        Beside (v.disk.placeOf directory.toList) (v.disk.placeOf (join directory.toList file.toList))) ∧
      answer = Api.contentRecord id file f bytes) ∧
    ∀ base place, Beside base place → ¬ base <+: place := by
  refine ⟨?_, fun base place h => h.not_isPrefix⟩
  have hsteps := (Answering.Yields.of_repositoryNamed id v).bind fun row =>
    (Answering.Yields.of_uploadDirectory row v).bind fun directory =>
    (Answering.Yields.of_store v).bind fun s =>
    (Answering.Yields.of_found ("File '" ++ file ++ "' not found in repository")
      ((s.filesOf row.id).find? (·.path == file)) v).bind
      fun f =>
    (Answering.Yields.of_service v).bind fun service =>
    (Answering.Yields.of_shown file (service.disk.content directory.toList file.toList) v).bind fun bytes =>
    Answering.Yields.ok (Api.contentRecord id file f bytes) v
  refine Answering.Yields.congr (x := Api.fileContent id file) hsteps fun answer => ?_
  simp only [Disk.content_eq_ok_iff, Store.ListsFile]
  constructor
  · rintro ⟨row, hrow, directory, ⟨hpath, hne⟩, _, rfl, f, hf, _, rfl, bytes, ⟨hlies, hholds⟩, rfl⟩
    exact ⟨directory, f, bytes, ⟨row, hrow, hpath, hne, hf⟩, hholds, hlies, rfl⟩
  · rintro ⟨directory, f, bytes, ⟨row, hrow, hpath, hne, hf⟩, hholds, hlies, rfl⟩
    exact ⟨row, hrow, directory, ⟨hpath, hne⟩, _, rfl, f, hf, _, rfl, bytes, ⟨hlies, hholds⟩, rfl⟩

/-- A service with a repository in `/srv/up`, a file beside that directory, and a list that leads to the file. -/
def Service.overlapping : Service :=
  let s := ({} : Store).addRepository fun id now => { RepositoryRow.blank "tool" id now with uploadPath := "/srv/up" }
  let s := s.addFile fun id now => ⟨id, Id.nth 0, "../upper/x", "python", 0, none, now⟩
  { Service.idle s with disk := { files := [(["srv".toList, "upper".toList, ['x']], [115])] } }

/-- The file is shown, and it does not lie in the directory. -/
theorem fileContent_shows_iff_upper :
    (∃ f, ((Api.fileContent (Id.nth 0).text "../upper/x").run Service.overlapping).1 =
      .ok (Api.contentRecord (Id.nth 0).text "../upper/x" f [115])) ∧
    ¬ Service.overlapping.disk.placeOf "/srv/up".toList <+:
      Service.overlapping.disk.placeOf (join "/srv/up".toList "../upper/x".toList) := by
  have hbeside : Beside (Service.overlapping.disk.placeOf "/srv/up".toList)
      (Service.overlapping.disk.placeOf (join "/srv/up".toList "../upper/x".toList)) :=
    ⟨["srv".toList], "up".toList, "per".toList, [['x']], by decide, by decide, by decide⟩
  have hlisted : Service.overlapping.store.ListsFile (Id.nth 0).text "../upper/x" "/srv/up"
      ⟨Id.nth 1, Id.nth 0, "../upper/x", "python", 0, none, Store.momentOf 1⟩ := by
    refine ⟨{ RepositoryRow.blank "tool" (Id.nth 0) (Store.momentOf 0) with uploadPath := "/srv/up" }, ?_, rfl,
      by decide, rfl⟩
    rw [Id.ofRegular?_text (by decide)]
    rfl
  have hholds : Service.overlapping.disk.Holds
      (Service.overlapping.disk.placeOf (join "/srv/up".toList "../upper/x".toList)) [115] :=
    ⟨by decide +kernel, by decide⟩
  obtain ⟨hyields, hapart⟩ := fileContent_shows_iff Service.overlapping (Id.nth 0).text "../upper/x"
  exact ⟨⟨_, (hyields.ok_iff _).2 ⟨_, _, _, hlisted, hholds, .inr hbeside, rfl⟩⟩, hapart _ _ hbeside⟩

end CodeSurvey
