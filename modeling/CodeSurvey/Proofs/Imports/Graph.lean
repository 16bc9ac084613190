/-
Who imports a file. The imports of all files are noted in one pass over the files, in every file to which they lead. One
file's imports add its path to each of these once, whatever their number (`noteImports_eq`); so at the end each file
lists its importers in the order of the files (`importedBy_foldl_after`), and another order of the files changes no more
than the order of these lists (`nodes_importedBy`).
-/
import CodeSurvey.Imports.Graph
import CodeSurvey.Proofs.Fault
import CodeSurvey.Proofs.Text.Piece
import Mathlib.Algebra.GroupWithZero.Nat
import Mathlib.Data.List.Nodup
import Mathlib.Data.List.Perm.Basic

namespace CodeSurvey

/-! ## Characters replaced in a text -/

namespace Text

theorem joinWith_concat_append (sep x y : List Char) (l : List (List Char)) :
    joinWith sep (l ++ [x ++ y]) = joinWith sep (l ++ [x]) ++ y := by
  induction l with
  | nil => simp [joinWith]
  | cons p l ih =>
    unfold joinWith at ih ⊢
    cases l <;> simp_all [List.intercalate_cons_cons]

theorem joinWith_concat_concat (sep x y : List Char) (l : List (List Char)) :
    joinWith sep (l ++ [x] ++ [y]) = joinWith sep (l ++ [x]) ++ sep ++ y := by
  induction l with
  | nil => simp [joinWith, List.intercalate_cons_cons]
  | cons p l ih =>
    unfold joinWith at ih ⊢
    cases l <;> simp_all [List.intercalate_cons_cons]

theorem replace_char (a b : Char) (t : List Char) : replace [a] [b] t = t.map fun c => if c = a then b else c := by
  -- What is cut already is joined in front of what is left, and the current piece is the last of it.
  have hcut : ∀ (t cur : List Char) (acc : List (List Char)), joinWith [b] (cutAt [a] 0 cur acc t).reverse =
      joinWith [b] (acc.reverse ++ [cur.reverse]) ++ t.map fun c => if c = a then b else c := by
    intro t
    induction t with
    | nil =>
      intro cur acc
      simp [cutAt]
    | cons c t ih =>
      intro cur acc
      by_cases hc : c = a
      · subst hc
        rw [cutAt, if_pos (by simp), List.length_singleton, Nat.sub_self, ih, List.reverse_cons, List.reverse_nil,
          joinWith_concat_concat]
        simp
      · rw [cutAt, if_neg (by simp [Ne.symm hc]), ih, List.reverse_cons, joinWith_concat_append]
        simp [hc]
  have hwhole := hcut t [] []
  simpa [replace, splitOnText, joinWith] using hwhole

end Text

namespace Imports

/-- A name of a module with slashes in place of its points, and with the ending of Python files. -/
def dottedPath (name : String) : List Char := name.toList.map (fun c => if c = '.' then '/' else c) ++ ".py".toList

/-- Some import of a file ends the path of another; in a Python file, the path that it stands for may do so instead. -/
def FileNode.DependsOn (f g : FileNode) : Prop :=
  ∃ name ∈ f.imports, name.toList <:+ g.path.toList ∨ f.language = some "python" ∧ dottedPath name <:+ g.path.toList

/-- Two files are the same up to the order of those that import them. -/
structure FileNode.SameAs (f g : FileNode) : Prop where
  path : f.path = g.path
  language : f.language = g.language
  imports : f.imports = g.imports
  importedBy : f.importedBy.Perm g.importedBy

/-- A file is listed with all its fields, and with a text if its language has imports. -/
structure FileEntry.IsComplete (e : FileEntry) : Prop where
  path : e.path ≠ none
  language : e.language ≠ none
  source : e.source ≠ none
  text : e.language.join.bind Language.ofName? ≠ none → e.source ≠ some none

def FileEntry.imported (e : FileEntry) : List String :=
  ((e.language.join.bind Language.ofName?).bind fun lang => e.source.join.map (ofSource lang)).getD []

/-! ## The imports of one file -/

theorem leadsTo_iff {language : Option String} {name path : String} : leadsTo language name path = true ↔
    name.toList <:+ path.toList ∨ language = some "python" ∧ dottedPath name <:+ path.toList := by
  have hpath : modulePath name = dottedPath name := by rw [modulePath, Text.replace_char, dottedPath]
  unfold leadsTo Text.endsWith
  by_cases hpython : language = some "python"
  · simp [hpython, hpath, or_comm]
  · simp [hpython]

namespace FileNode

variable (f g : FileNode) (p : String)

@[simp] theorem note_path : (g.note p).path = g.path := by
  unfold note
  split <;> rfl

@[simp] theorem note_language : (g.note p).language = g.language := by
  unfold note
  split <;> rfl

@[simp] theorem note_imports : (g.note p).imports = g.imports := by
  unfold note
  split <;> rfl

theorem note_of_mem (h : p ∈ g.importedBy) : g.note p = g := by
  rw [note, if_pos (by simpa using h)]

theorem importedBy_note_of_not_mem (h : p ∉ g.importedBy) : (g.note p).importedBy = g.importedBy ++ [p] := by
  rw [note, if_neg (by simpa using h)]

theorem note_note : (g.note p).note p = g.note p := by
  by_cases h : p ∈ g.importedBy
  · rw [note_of_mem g p h, note_of_mem g p h]
  · refine note_of_mem _ _ ?_
    rw [importedBy_note_of_not_mem g p h]
    simp

def leads (f g : FileNode) : Bool := f.imports.any fun name => leadsTo f.language name g.path

/-- A file after the imports of another have been noted. -/
def after (g f : FileNode) : FileNode := if f.leads g then g.note f.path else g

theorem leads_iff : f.leads g = true ↔ f.DependsOn g := by
  rw [leads, List.any_eq_true]
  simp only [leadsTo_iff, FileNode.DependsOn]

@[simp] theorem after_path : (g.after f).path = g.path := by
  unfold after
  split <;> simp

@[simp] theorem after_language : (g.after f).language = g.language := by
  unfold after
  split <;> simp

@[simp] theorem after_imports : (g.after f).imports = g.imports := by
  unfold after
  split <;> simp

theorem importedBy_after_of_leads (h : f.leads g = true) (hnew : f.path ∉ g.importedBy) :
    (g.after f).importedBy = g.importedBy ++ [f.path] := by
  rw [after, if_pos h, importedBy_note_of_not_mem g f.path hnew]

theorem after_of_not_leads (h : ¬ f.leads g = true) : g.after f = g := if_neg h

end FileNode

/-- However many imports of a file lead to another, its path is noted there once. -/
theorem noteImports_eq (files : List FileNode) (f : FileNode) : noteImports files f = files.map (·.after f) := by
  have hnames : ∀ (names : List String) (files : List FileNode), names.foldl (noteImport f) files =
      files.map fun g => if names.any (fun name => leadsTo f.language name g.path) then g.note f.path else g := by
    intro names
    induction names with
    | nil =>
      intro files
      simp
    | cons name names ih =>
      intro files
      rw [List.foldl_cons, ih, noteImport, List.map_map]
      refine List.map_congr_left fun g _ => ?_
      by_cases hname : leadsTo f.language name g.path = true
      · simp [hname, g.note_note f.path]
      · simp [hname]
  exact hnames f.imports files

/-! ## The imports of all files -/

/-- The pass over the files changes each file on its own. -/
theorem foldl_noteImports (l files : List FileNode) :
    l.foldl noteImports files = files.map fun g => l.foldl FileNode.after g := by
  induction l generalizing files with
  | nil => simp
  | cons f l ih =>
    rw [List.foldl_cons, ih, noteImports_eq, List.map_map]
    rfl

section pass

variable (l : List FileNode) (g : FileNode)

theorem foldl_after_same : (l.foldl FileNode.after g).path = g.path ∧ (l.foldl FileNode.after g).language = g.language ∧
    (l.foldl FileNode.after g).imports = g.imports := by
  induction l generalizing g with
  | nil => exact ⟨rfl, rfl, rfl⟩
  | cons f l ih =>
    obtain ⟨hpath, hlanguage, himports⟩ := ih (g.after f)
    exact ⟨by simpa using hpath, by simpa using hlanguage, by simpa using himports⟩

/-- After a pass over files of distinct paths, a file lists those that import it in their order. -/
theorem importedBy_foldl_after (hdistinct : (l.map (·.path)).Nodup) (hnew : ∀ f ∈ l, f.path ∉ g.importedBy) :
    (l.foldl FileNode.after g).importedBy = g.importedBy ++ (l.filter (·.leads g)).map (·.path) := by
  induction l generalizing g with
  | nil => simp
  | cons f l ih =>
    obtain ⟨hf, hdistinct⟩ := List.nodup_cons.1 hdistinct
    obtain ⟨hfnew, hnew⟩ := List.forall_mem_cons.1 hnew
    have hleads : ∀ f' : FileNode, f'.leads (g.after f) = f'.leads g := fun f' => by simp [FileNode.leads]
    by_cases h : f.leads g = true
    · have hadded := FileNode.importedBy_after_of_leads f g h hfnew
      -- The paths that follow are new to the longer list too: they differ from the path just noted.
      have hnew' : ∀ f' ∈ l, f'.path ∉ (g.after f).importedBy := by
        intro f' hf'
        rw [hadded]
        simp only [List.mem_append, List.mem_singleton, not_or]
        exact ⟨hnew f' hf', fun heq => hf (List.mem_map.2 ⟨f', hf', heq⟩)⟩
      rw [List.foldl_cons, ih (g.after f) hdistinct hnew', hadded]
      simp [hleads, h]
    · rw [List.foldl_cons, FileNode.after_of_not_leads f g h, ih g hdistinct hnew]
      simp [h]

end pass

theorem link_eq (l : List FileNode) : link l = l.map fun g => l.foldl FileNode.after g := foldl_noteImports l l

theorem map_path_link (l : List FileNode) : (link l).map (·.path) = l.map (·.path) := by
  rw [link_eq, List.map_map]
  exact List.map_congr_left fun g _ => (foldl_after_same l g).1

section link

variable {l : List FileNode} (hdistinct : (l.map (·.path)).Nodup) (hfresh : ∀ g ∈ l, g.importedBy = [])

include hdistinct hfresh

theorem importedBy_of_fresh {g : FileNode} (hg : g ∈ l) :
    (l.foldl FileNode.after g).importedBy = (l.filter (·.leads g)).map (·.path) := by
  rw [importedBy_foldl_after l g hdistinct (by simp [hfresh g hg]), hfresh g hg, List.nil_append]

/-- The importers that are listed in a file are those whose imports lead to it, each once and in the order of the files.
-/
theorem importers_link {g : FileNode} (hg : g ∈ link l) : (∀ f ∈ link l, f.path ∈ g.importedBy ↔ f.DependsOn g) ∧
    g.importedBy.Sublist ((link l).map (·.path)) ∧ g.importedBy.Nodup := by
  have hpaths := map_path_link l
  rw [link_eq] at hg
  obtain ⟨g, hmem, rfl⟩ := List.mem_map.1 hg
  have hlisted := importedBy_of_fresh hdistinct hfresh hmem
  have hsublist : (l.foldl FileNode.after g).importedBy.Sublist ((link l).map (·.path)) := by
    rw [hlisted, hpaths]
    exact List.filter_sublist.map _
  refine ⟨?_, hsublist, hsublist.nodup (hpaths ▸ hdistinct)⟩
  intro f hf
  rw [link_eq] at hf
  obtain ⟨f, hmem', rfl⟩ := List.mem_map.1 hf
  obtain ⟨hfpath, hflanguage, hfimports⟩ := foldl_after_same l f
  have hdepends : (l.foldl FileNode.after f).DependsOn (l.foldl FileNode.after g) ↔ f.leads g = true := by
    rw [FileNode.leads_iff, FileNode.DependsOn, hflanguage, hfimports, (foldl_after_same l g).1, FileNode.DependsOn]
  rw [hdepends, hlisted, hfpath]
  constructor
  · intro hpath
    obtain ⟨f', hf', heq⟩ := List.mem_map.1 hpath
    obtain ⟨hf', hleads⟩ := List.mem_filter.1 hf'
    rwa [List.inj_on_of_nodup_map hdistinct hf' hmem' heq] at hleads
  · intro hleads
    exact List.mem_map.2 ⟨f, List.mem_filter.2 ⟨hmem', hleads⟩, rfl⟩

/-- Files in another order get the same nodes, in that order and with their importers in that order. -/
theorem exists_arranged_link {l' : List FileNode} (hperm : l'.Perm l) :
    ∃ arranged, arranged.Perm (link l') ∧ List.Forall₂ FileNode.SameAs (link l) arranged := by
  refine ⟨l.map fun g => l'.foldl FileNode.after g, ?_, ?_⟩
  · rw [link_eq]
    exact hperm.symm.map _
  · rw [link_eq, List.forall₂_map_left_iff, List.forall₂_map_right_iff, List.forall₂_same]
    intro g hg
    obtain ⟨hpath, hlanguage, himports⟩ := foldl_after_same l g
    obtain ⟨hpath', hlanguage', himports'⟩ := foldl_after_same l' g
    refine ⟨hpath.trans hpath'.symm, hlanguage.trans hlanguage'.symm, himports.trans himports'.symm, ?_⟩
    have hdistinct' : (l'.map (·.path)).Nodup := (hperm.map _).nodup_iff.2 hdistinct
    have hfresh' : ∀ g ∈ l', g.importedBy = [] := fun g hg => hfresh g (hperm.mem_iff.1 hg)
    rw [importedBy_of_fresh hdistinct hfresh hg, importedBy_of_fresh hdistinct' hfresh' (hperm.mem_iff.2 hg)]
    exact (hperm.symm.filter _).map _

end link

/-! ## The files as listed -/

/-- The node of a listed file before anything is noted in it. -/
def FileEntry.fresh (e : FileEntry) : FileNode :=
  { path := e.path.getD "", language := e.language.join, imports := e.imported }

theorem FileEntry.IsComplete.fields {e : FileEntry} (h : e.IsComplete) :
    e.path = some e.fresh.path ∧ e.language = some e.fresh.language ∧ e.node = .ok e.fresh := by
  obtain ⟨path, language, source⟩ := e
  obtain ⟨hpath, hlanguage, hsource, htext⟩ := h
  obtain ⟨path, rfl⟩ := Option.ne_none_iff_exists'.1 hpath
  obtain ⟨language, rfl⟩ := Option.ne_none_iff_exists'.1 hlanguage
  obtain ⟨source, rfl⟩ := Option.ne_none_iff_exists'.1 hsource
  refine ⟨rfl, rfl, ?_⟩
  cases hname : language.bind Language.ofName? with
  | none => simp [FileEntry.node, FileEntry.fresh, FileEntry.imported, hname]
  | some lang =>
    obtain ⟨t, rfl⟩ : ∃ t, source = some t :=
      Option.ne_none_iff_exists'.1 fun hnone => htext (by simp [hname]) (by rw [hnone])
    simp [FileEntry.node, FileEntry.fresh, FileEntry.imported, hname]

theorem foldl_putNode (l files : List FileNode) (h : ((files ++ l).map (·.path)).Nodup) :
    l.foldl putNode files = files ++ l := by
  induction l generalizing files with
  | nil => simp
  | cons f l ih =>
    have hnew : ¬ files.any (·.path == f.path) = true := by
      intro hany
      obtain ⟨g, hg, heq⟩ := List.any_eq_true.1 hany
      rw [List.map_append, List.nodup_append] at h
      exact h.2.2 g.path (List.mem_map_of_mem hg) f.path (by simp) (by simpa using heq)
    rw [List.foldl_cons, putNode, if_neg hnew, ih (files ++ [f]) (by simpa using h)]
    simp

section listed

variable {entries : List FileEntry}

theorem nodup_path_fresh (hcomplete : ∀ e ∈ entries, e.IsComplete) (hdistinct : (entries.map (·.path)).Nodup) :
    ((entries.map FileEntry.fresh).map (·.path)).Nodup := by
  have hpaths : entries.map (·.path) = ((entries.map FileEntry.fresh).map (·.path)).map some := by
    rw [List.map_map, List.map_map]
    exact List.map_congr_left fun e he => (hcomplete e he).fields.1
  rw [hpaths] at hdistinct
  exact hdistinct.of_map

theorem nodes_eq (hcomplete : ∀ e ∈ entries, e.IsComplete) (hdistinct : (entries.map (·.path)).Nodup) :
    nodes entries = .ok (link (entries.map FileEntry.fresh)) := by
  have hread : entries.mapM FileEntry.node = .ok (entries.map FileEntry.fresh) :=
    mapM_eq_ok_map fun e he => (hcomplete e he).fields.2.2
  have hput : (entries.map FileEntry.fresh).foldl putNode [] = entries.map FileEntry.fresh :=
    foldl_putNode _ [] (nodup_path_fresh hcomplete hdistinct)
  rw [nodes, hread]
  show Except.ok (link ((entries.map FileEntry.fresh).foldl putNode [])) = _
  rw [hput]

theorem forall₂_link_fresh (hcomplete : ∀ e ∈ entries, e.IsComplete) :
    List.Forall₂ (fun e n => e.path = some n.path ∧ e.language = some n.language ∧ n.imports = e.imported) entries
      (link (entries.map FileEntry.fresh)) := by
  rw [link_eq, List.map_map, List.forall₂_map_right_iff, List.forall₂_same]
  intro e he
  obtain ⟨hpath, hlanguage, himports⟩ := foldl_after_same (entries.map FileEntry.fresh) e.fresh
  obtain ⟨hpath', hlanguage', -⟩ := (hcomplete e he).fields
  exact ⟨hpath'.trans (congrArg some hpath.symm), hlanguage'.trans (congrArg some hlanguage.symm), himports⟩

theorem importedBy_fresh (entries : List FileEntry) : ∀ g ∈ entries.map FileEntry.fresh, g.importedBy = [] := by
  intro g hg
  obtain ⟨e, -, rfl⟩ := List.mem_map.1 hg
  rfl

theorem declared_link_fresh (entries : List FileEntry) :
    declared (link (entries.map FileEntry.fresh)) = (entries.map (·.imported.length)).sum := by
  have hcounts : (link (entries.map FileEntry.fresh)).map (·.imports.length) = entries.map (·.imported.length) := by
    rw [link_eq, List.map_map, List.map_map]
    refine List.map_congr_left fun e _ => ?_
    exact congrArg List.length (foldl_after_same _ e.fresh).2.2
  rw [declared, hcounts]
  rfl

end listed

/-- Files with distinct paths get one node each, in their order, with the imports that are reported for them. A file is
listed as an importer of another exactly if some import of it ends the other's path, once, and in the order of the
files. The number of dependencies is that of all imports. In another order, the same files get the same nodes up to the
order of the nodes and of the importers. -/
theorem nodes_importedBy {entries : List FileEntry} (hcomplete : ∀ e ∈ entries, e.IsComplete)
    (hdistinct : (entries.map (·.path)).Nodup) :
    ∃ files, nodes entries = .ok files ∧
      List.Forall₂ (fun e n => e.path = some n.path ∧ e.language = some n.language ∧
        n.imports = e.imported) entries files ∧
      (∀ g ∈ files, (∀ f ∈ files, f.path ∈ g.importedBy ↔ f.DependsOn g) ∧
        g.importedBy.Sublist (files.map (·.path)) ∧ g.importedBy.Nodup) ∧
      declared files = (entries.map (·.imported.length)).sum ∧
      ∀ entries', entries'.Perm entries → ∃ files', nodes entries' = .ok files' ∧
        ∃ arranged, arranged.Perm files' ∧ List.Forall₂ FileNode.SameAs files arranged := by
  have hnodup := nodup_path_fresh hcomplete hdistinct
  have hfresh := importedBy_fresh entries
  refine ⟨_, nodes_eq hcomplete hdistinct, forall₂_link_fresh hcomplete, fun g hg => importers_link hnodup hfresh hg,
    declared_link_fresh entries, ?_⟩
  intro entries' hperm
  have hcomplete' : ∀ e ∈ entries', e.IsComplete := fun e he => hcomplete e (hperm.mem_iff.1 he)
  refine ⟨_, nodes_eq hcomplete' ((hperm.map _).nodup_iff.2 hdistinct), ?_⟩
  exact exists_arranged_link hnodup hfresh (hperm.map _)

/-- A Python file that imports a module of a package, and the file of that module. -/
def packageEntries : List FileEntry :=
  [⟨some "a.py", some (some "python"), some (some "import os\nfrom pkg.b import f\n".toList)⟩,
    ⟨some "src/pkg/b.py", some (some "python"), some (some [])⟩]

/-- The file of the module is imported by the other. -/
theorem nodes_importedBy_package : (∀ e ∈ packageEntries, e.IsComplete) ∧ (packageEntries.map (·.path)).Nodup ∧
    ∃ files, nodes packageEntries = .ok files ∧ ∃ g ∈ files, g.path = "src/pkg/b.py" ∧ "a.py" ∈ g.importedBy := by
  have hcomplete : ∀ e ∈ packageEntries, e.IsComplete := by
    simp only [packageEntries, List.forall_mem_cons]
    exact ⟨⟨by simp, by simp, by simp, by simp⟩, ⟨by simp, by simp, by simp, by simp⟩, by simp⟩
  have hdistinct : (packageEntries.map (·.path)).Nodup := by decide
  obtain ⟨files, hnodes, hlisted, himporters, -, -⟩ := nodes_importedBy hcomplete hdistinct
  refine ⟨hcomplete, hdistinct, files, hnodes, ?_⟩
  rcases hlisted with _ | ⟨⟨hpath, hlanguage, himports⟩, _ | ⟨⟨hpath', -, -⟩, _ | _⟩⟩
  rename_i a b
  have ha : a.path = "a.py" := (Option.some.inj hpath).symm
  have hb : b.path = "src/pkg/b.py" := (Option.some.inj hpath').symm
  refine ⟨b, by simp, hb, ?_⟩
  rw [← ha, (himporters b (by simp)).1 a (by simp)]
  refine ⟨"pkg.b", ?_, .inr ⟨(Option.some.inj hlanguage).symm, ?_⟩⟩
  · rw [himports]
    decide +kernel
  · rw [hb]
    decide

/-! ## Ends of paths -/

/-- The path ends with the piece, from the start of a segment on. -/
def EndsAtSegment (piece path : List Char) : Prop := path = piece ∨ '/' :: piece <:+ path

/-- The path ends with the piece, which begins inside a segment. -/
def EndsInsideSegment (piece path : List Char) : Prop := ∃ c, c ≠ '/' ∧ c :: piece <:+ path

theorem isSuffix_iff_segment (piece path : List Char) :
    piece <:+ path ↔ EndsAtSegment piece path ∨ EndsInsideSegment piece path := by
  constructor
  · rintro ⟨u, rfl⟩
    rcases List.eq_nil_or_concat u with rfl | ⟨u, c, rfl⟩
    · exact .inl (.inl rfl)
    · have hc : c :: piece <:+ u.concat c ++ piece := ⟨u, by simp⟩
      by_cases hslash : c = '/'
      · exact .inl (.inr (hslash ▸ hc))
      · exact .inr ⟨c, hslash, hc⟩
  · rintro ((rfl | h) | ⟨c, -, h⟩)
    · exact List.suffix_refl path
    · exact (List.suffix_cons '/' piece).trans h
    · exact (List.suffix_cons c piece).trans h

/-- Among files with distinct paths, a Python file is listed as an importer of another exactly if the path of some
module that it imports ends the other's path, be it from the start of a segment on or inside a segment, or if the name
of the module itself does. -/
theorem nodes_importedBy_ends {entries : List FileEntry} (hcomplete : ∀ e ∈ entries, e.IsComplete)
    (hdistinct : (entries.map (·.path)).Nodup) :
    ∃ files, nodes entries = .ok files ∧
      List.Forall₂ (fun e n => e.path = some n.path ∧ e.language = some n.language ∧
        n.imports = e.imported) entries files ∧
      ∀ f ∈ files, f.language = some "python" → ∀ g ∈ files, f.path ∈ g.importedBy ↔ ∃ name ∈ f.imports,
        EndsAtSegment (dottedPath name) g.path.toList ∨ EndsInsideSegment (dottedPath name) g.path.toList ∨
          name.toList <:+ g.path.toList := by
  refine ⟨_, nodes_eq hcomplete hdistinct, forall₂_link_fresh hcomplete, ?_⟩
  intro f hf hpython g hg
  rw [(importers_link (nodup_path_fresh hcomplete hdistinct) (importedBy_fresh entries) hg).1 f hf]
  refine exists_congr fun name => and_congr_right fun _ => ?_
  rw [isSuffix_iff_segment (dottedPath name), or_comm]
  simp only [hpython, true_and, or_assoc]

/-- A file that imports a module, and one whose name ends with that of the module's file. -/
def macosEntries : List FileEntry :=
  [⟨some "a.py", some (some "python"), some (some "import os\n".toList)⟩,
    ⟨some "macos.py", some (some "python"), some (some [])⟩]

/-- The first file is listed as an importer of the second one, although that is not the file of the module. -/
theorem nodes_importedBy_ends_macos : (∀ e ∈ macosEntries, e.IsComplete) ∧ (macosEntries.map (·.path)).Nodup ∧
    ∃ files, nodes macosEntries = .ok files ∧ ∃ f ∈ files, ∃ g ∈ files, f.path = "a.py" ∧ f.imports = ["os"] ∧
      g.path = "macos.py" ∧ ¬ EndsAtSegment (dottedPath "os") g.path.toList ∧ f.path ∈ g.importedBy := by
  have hcomplete : ∀ e ∈ macosEntries, e.IsComplete := by
    intro e he
    rcases List.mem_pair.1 he with rfl | rfl
    all_goals exact ⟨by simp, by simp, by simp, by simp⟩
  have hdistinct : (macosEntries.map (·.path)).Nodup := by decide
  obtain ⟨files, hnodes, hlisted, himporters⟩ := nodes_importedBy_ends hcomplete hdistinct
  refine ⟨hcomplete, hdistinct, files, hnodes, ?_⟩
  rcases hlisted with _ | ⟨⟨hpath, hlanguage, himports⟩, _ | ⟨⟨hother, -, -⟩, _ | _⟩⟩
  rename_i f g
  have hf : f.path = "a.py" := (Option.some.inj hpath).symm
  have hg : g.path = "macos.py" := (Option.some.inj hother).symm
  have hos : f.imports = ["os"] := by
    rw [himports]
    decide +kernel
  refine ⟨f, by simp, g, by simp, hf, hos, hg, ?_, ?_⟩
  · rw [hg, EndsAtSegment]
    decide
  · rw [himporters f (by simp) (Option.some.inj hlanguage).symm g (by simp), hos, hg]
    exact ⟨"os", by simp, .inr (.inl ⟨'c', by decide, by decide⟩)⟩

end Imports

end CodeSurvey
