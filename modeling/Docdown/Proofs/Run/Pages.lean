import Docdown.Proofs.Run.Effect

/-!
# Docdown.Proofs.Run.Pages

Which pages of a run over a directory are on disk in the end.  A run that is through has
converted some of the files found, each from the text it held at its turn
(`conversions`), and put their pages one over the other (`wrote_of_through`).  Where a
page is put depends on two names, the directory of the document's group and the name of
the file up to its last dot (`Conversion.path_eq_iff`).  So the last of the conversions
with the same two names is the one whose page is kept, and no page is lost if and only if
no two of them share both (`written_nodup_iff`).
-/

namespace Docdown

open FileTree Docdown.Path

/-! ## files put over others -/

/-- The last file put at a place is the one that is there. -/
theorem FileTree.content?_overlay_of_last (t : FileTree)
    {before after : List (List String × ByteArray)} {p : List String × ByteArray}
    (hroot : p.1 ≠ []) (h : ∀ q ∈ after, q.1 ≠ p.1) :
    (t.overlay (before ++ p :: after)).content? p.1 = some p.2 := by
  have hsplit : t.overlay (before ++ p :: after) =
      ((t.overlay before).put p.1 (.file p.2)).overlay after := by
    rw [overlay, List.foldl_append, List.foldl_cons]
    rfl
  rw [hsplit, content?_overlay _ h, content?, get?_put_self _ hroot]

/-! ## conversions -/

/-- A file and the document that it holds when it is converted. -/
structure Conversion where
  file : String
  root : Xml.Element

namespace Conversion

/-- The path of the page. -/
def path (outDir : String) (c : Conversion) : String := DirectoryRun.outputPath outDir c.file c.root

/-- The name of the page. -/
def name (c : Conversion) : String := stem (base c.file) ++ ".md"

/-- The name of the directory of the document's group, empty if that is the output
directory. -/
def group (c : Conversion) : String := Group.directory (Group.ofDocument c.root)

/-- The two names that say where the page is put. -/
def names (c : Conversion) : String × String := (c.group, stem (base c.file))

theorem path_eq (outDir : String) (c : Conversion) :
    c.path outDir = join [outDir, c.group, c.name] := rfl

theorem name_eq_iff {c d : Conversion} :
    c.name = d.name ↔ stem (base c.file) = stem (base d.file) :=
  String.append_left_inj ".md"

theorem names_eq_iff {c d : Conversion} :
    c.names = d.names ↔ c.group = d.group ∧ c.name = d.name := by
  rw [name_eq_iff, names, names, Prod.mk.injEq]

/-- The place of a page is in the output directory or one directory below it. -/
theorem destination_path (t : FileTree) {outDir : String} (hout : outDir ≠ "") (c : Conversion) :
    t.destination (c.path outDir) =
      t.destination outDir ++ ([c.group].filter (· ≠ "") ++ [c.name]) := by
  have hname : IsSegment c.name := isSegment_stem_base c.file
  rw [path_eq]
  by_cases hgroup : c.group = ""
  · rw [hgroup, join_pair_drop, destination_join t hout hname]
    rfl
  · have hsegment : IsSegment c.group := Group.isSegment_directory hgroup
    have hjoin : join [outDir, c.group, c.name] = join [join [outDir, c.group], c.name] :=
      (join_join [outDir, c.group] hname).symm
    rw [hjoin, destination_join t (join_ne_empty _) hname, destination_join t hout hsegment,
      List.append_assoc, List.filter_cons_of_pos (by simpa using hgroup), List.filter_nil]

theorem destination_path_ne_nil (t : FileTree) {outDir : String} (hout : outDir ≠ "")
    (c : Conversion) : t.destination (c.path outDir) ≠ [] := by
  rw [destination_path t hout]
  simp

/-- Two pages are put at the same place if and only if they have the same two names. -/
theorem destination_path_eq_iff (t : FileTree) {outDir : String} (hout : outDir ≠ "")
    {c d : Conversion} :
    t.destination (c.path outDir) = t.destination (d.path outDir) ↔ c.names = d.names := by
  rw [destination_path t hout, destination_path t hout, List.append_cancel_left_eq, names_eq_iff]
  by_cases hc : c.group = ""
  · by_cases hd : d.group = ""
    · simp [hc, hd]
    · simp [hc, hd, Ne.symm hd]
  · by_cases hd : d.group = "" <;> simp [hc, hd]

/-- So it is for their paths. -/
theorem path_eq_iff {outDir : String} (hout : outDir ≠ "") {c d : Conversion} :
    c.path outDir = d.path outDir ↔ c.names = d.names := by
  constructor
  · intro h
    exact (destination_path_eq_iff (.empty []) hout).1 (by rw [h])
  · intro h
    obtain ⟨hgroup, hname⟩ := names_eq_iff.1 h
    rw [path_eq, path_eq, hgroup, hname]

/-- The place and the bytes of the page. -/
def placed (files : FileTree) (outDir : String) (c : Conversion) : List String × ByteArray :=
  (files.destination (c.path outDir), (page c.root).toUTF8)

@[simp] theorem placed_fst (files : FileTree) (outDir : String) (c : Conversion) :
    (c.placed files outDir).1 = files.destination (c.path outDir) := by rw [placed]

@[simp] theorem placed_snd (files : FileTree) (outDir : String) (c : Conversion) :
    (c.placed files outDir).2 = (page c.root).toUTF8 := by rw [placed]

end Conversion

/-! ## the conversions of a run -/

namespace DirectoryRun

section

variable (directory outDir : String)

/-- The conversion of a file at its turn, unless the file is no document then. -/
def conversion? (r : DirectoryRun) (file : String) : Option Conversion := do
  let bytes ← (r.files.readFile (join [directory, file])).toOption
  let root ← (Xml.parse (Text.Utf8.text bytes)).toOption
  return ⟨file, root⟩

/-- The conversions of a run that goes on with some files, in order. -/
def conversions (r : DirectoryRun) : List String → List Conversion
  | [] => []
  | file :: rest =>
    (r.conversion? directory file).toList ++
      conversions (r.convertFile directory outDir file) rest

end

/-- What a run has written when some conversions have been made. -/
structure Wrote (files : FileTree) (outDir : String) (done : List Conversion) (r : DirectoryRun) :
    Prop where
  written : r.written = done.map (Conversion.path outDir)
  content? : ∀ place, r.files.content? place =
    (files.overlay (done.map (Conversion.placed files outDir))).content? place
  cwd : r.files.cwd = files.cwd

variable {files : FileTree} {directory outDir file : String} {done : List Conversion}
  {r r' : DirectoryRun}

theorem conversion?_of_parse {bytes : ByteArray} {root : Xml.Element}
    (hread : r.files.readFile (join [directory, file]) = .ok bytes)
    (hparse : Xml.parse (Text.Utf8.text bytes) = .ok root) :
    r.conversion? directory file = some ⟨file, root⟩ := by
  rw [conversion?, hread, Except.toOption, Option.bind_eq_bind, Option.bind_some, hparse]
  rfl

theorem conversion?_of_problem {bytes : ByteArray} {p : Xml.Problem}
    (hread : r.files.readFile (join [directory, file]) = .ok bytes)
    (hparse : Xml.parse (Text.Utf8.text bytes) = .error p) :
    r.conversion? directory file = none := by
  rw [conversion?, hread, Except.toOption, Option.bind_eq_bind, Option.bind_some, hparse]
  rfl

/-- A run can only begin with an output directory. -/
theorem outDir_ne_empty_of_begin {s : Config.Settings} {found : List String}
    (h : (begin directory s files found).failure? = none) : s.outDir ≠ "" := by
  intro hout
  unfold begin at h
  rw [hout] at h
  cases h

theorem wrote_begin (directory : String) (s : Config.Settings) (files : FileTree)
    (found : List String) : Wrote files s.outDir [] (begin directory s files found) := by
  have hgrows := grows_makeDirectory (F := fun _ => False) files s.outDir
  exact ⟨rfl, fun _ => hgrows.content?_eq not_false, hgrows.cwd_eq⟩

/-- A turn that does not fail writes the page of its conversion, if there is one. -/
theorem Wrote.step (h : Wrote files outDir done r) (hstep : Step directory outDir r file r')
    (hnone : r'.failure? = none) :
    Wrote files outDir (done ++ (r.conversion? directory file).toList) r' := by
  cases hstep with
  | fail _ => cases hnone
  | skip hread hparse =>
    rw [conversion?_of_problem hread hparse, Option.toList_none, List.append_nil]
    exact ⟨h.written, h.content?, h.cwd⟩
  | @write bytes root u hread hparse hgrows _ =>
    rw [conversion?_of_parse hread hparse, Option.toList_some]
    refine ⟨?_, fun place => ?_, hgrows.cwd_eq.trans h.cwd⟩
    · rw [List.map_append, ← h.written]
      rfl
    · have hsame : ∀ other, u.content? other = _ := fun other =>
        (hgrows.content?_eq not_false).trans (h.content? other)
      rw [List.map_append, List.map_singleton, overlay_concat, destination_congr h.cwd,
        Conversion.placed_fst, Conversion.placed_snd]
      exact content?_put_congr hsame _ _ place

/-- Turns that do not fail write the pages of their conversions. -/
theorem Wrote.foldl (h : Wrote files outDir done r) (hr : r.failure? = none)
    {found : List String} (hnone : (found.foldl (convertFile directory outDir) r).failure? = none) :
    Wrote files outDir (done ++ r.conversions directory outDir found)
      (found.foldl (convertFile directory outDir) r) := by
  induction found generalizing done r with
  | nil => rwa [conversions, List.append_nil]
  | cons file rest ih =>
    rw [List.foldl_cons] at hnone ⊢
    have hturn := failure?_eq_none_of_foldl directory outDir hnone
    have hnext := h.step (step_convertFile hr file) hturn
    have hrest := ih hnext hturn hnone
    rwa [List.append_assoc] at hrest

/-- What a file is converted from is what it held before the run, if no page is put over
it. -/
theorem conversion?_of_effect {found turned : List String} (h : Effect files directory outDir turned r)
    (hapart : Apart files directory outDir found) (hturned : ∀ f ∈ turned, f ∈ found)
    (hfile : file ∈ found) (hstep : Step directory outDir r file r') (hnone : r'.failure? = none) :
    r.conversion? directory file =
      (Xml.parse (textIn files directory file)).toOption.map (⟨file, ·⟩) := by
  cases hstep with
  | fail _ => cases hnone
  | skip hread hparse =>
    rw [textIn_of_readFile hapart hturned hfile h hread, hparse,
      conversion?_of_problem hread hparse]
    rfl
  | write hread hparse _ _ =>
    rw [textIn_of_readFile hapart hturned hfile h hread, hparse, conversion?_of_parse hread hparse]
    rfl

theorem conversions_of_effect {found turned : List String}
    (h : Effect files directory outDir turned r) (hapart : Apart files directory outDir found)
    (hturned : ∀ f ∈ turned, f ∈ found) (hr : r.failure? = none) {turns : List String}
    (hturns : ∀ f ∈ turns, f ∈ found)
    (hnone : (turns.foldl (convertFile directory outDir) r).failure? = none) :
    r.conversions directory outDir turns = turns.filterMap fun f =>
      (Xml.parse (textIn files directory f)).toOption.map (⟨f, ·⟩) := by
  induction turns generalizing turned r with
  | nil => rfl
  | cons file rest ih =>
    rw [List.foldl_cons] at hnone
    have hfile := hturns file List.mem_cons_self
    have hstep : Step directory outDir r file (r.convertFile directory outDir file) :=
      step_convertFile hr file
    have hturn := failure?_eq_none_of_foldl directory outDir hnone
    rcases h.step hapart hturned hfile hstep with ⟨hfailed, -⟩ | ⟨-, hnext⟩
    · exact absurd hturn hfailed
    · have hrest := ih hnext
        (List.forall_mem_append.2 ⟨hturned, List.forall_mem_singleton.2 hfile⟩) hturn
        (fun f hf => hturns f (List.mem_cons_of_mem _ hf)) hnone
      rw [conversions, conversion?_of_effect h hapart hturned hfile hstep hturn, hrest,
        List.filterMap_cons]
      cases (Xml.parse (textIn files directory file)).toOption <;> rfl

end DirectoryRun

/-! ## the whole run -/

section Whole

variable {directory : String} {s : Config.Settings} {files : FileTree}

/-- The conversions of a run over a directory, in the order of the files. -/
def conversionsIn (directory : String) (s : Config.Settings) (files : FileTree) :
    List Conversion :=
  match Glob.find files directory s.pattern with
  | .error _ => []
  | .ok found =>
    (DirectoryRun.begin directory s files found).conversions directory s.outDir found

/-- A run that is through has found files, and had an output directory to begin with. -/
theorem exists_begin_of_through (hnone : (convertDirectory directory s files).failure? = none) :
    ∃ found, Glob.find files directory s.pattern = .ok found ∧
      (DirectoryRun.begin directory s files found).failure? = none := by
  cases hfind : Glob.find files directory s.pattern with
  | error e =>
    rw [convertDirectory, hfind] at hnone
    cases hnone
  | ok found =>
    rw [convertDirectory_of_find hfind] at hnone
    exact ⟨found, rfl, DirectoryRun.failure?_eq_none_of_foldl directory s.outDir hnone⟩

theorem outDir_ne_empty_of_through (hnone : (convertDirectory directory s files).failure? = none) :
    s.outDir ≠ "" := by
  obtain ⟨found, -, hbegin⟩ := exists_begin_of_through hnone
  exact DirectoryRun.outDir_ne_empty_of_begin hbegin

/-- A run that is through has written the pages of its conversions. -/
theorem wrote_of_through (hnone : (convertDirectory directory s files).failure? = none) :
    DirectoryRun.Wrote files s.outDir (conversionsIn directory s files)
      (convertDirectory directory s files) := by
  obtain ⟨found, hfind, hbegin⟩ := exists_begin_of_through hnone
  rw [convertDirectory_of_find hfind] at hnone ⊢
  unfold conversionsIn
  rw [hfind]
  exact (DirectoryRun.wrote_begin directory s files found).foldl hbegin hnone

/-- Where no page is put over a file that is read, the conversions are those of what the
files held before. -/
theorem conversionsIn_of_apart {found : List String}
    (hfind : Glob.find files directory s.pattern = .ok found)
    (hapart : Apart files directory s.outDir found)
    (hnone : (convertDirectory directory s files).failure? = none) :
    conversionsIn directory s files = found.filterMap fun f =>
      (Xml.parse (textIn files directory f)).toOption.map (⟨f, ·⟩) := by
  rw [convertDirectory_of_find hfind] at hnone
  unfold conversionsIn
  rw [hfind]
  exact DirectoryRun.conversions_of_effect (effect_begin directory s files found) hapart nofun
    (DirectoryRun.failure?_eq_none_of_foldl directory s.outDir hnone) (fun _ h => h) hnone

/-- The last page that is put at a place is the one that is there. -/
theorem content?_of_last (hnone : (convertDirectory directory s files).failure? = none)
    {before after : List Conversion} {c : Conversion}
    (hsplit : conversionsIn directory s files = before ++ c :: after)
    (hlast : ∀ d ∈ after, d.names ≠ c.names) :
    (convertDirectory directory s files).files.content? (files.destination (c.path s.outDir)) =
      some (page c.root).toUTF8 := by
  have hout := outDir_ne_empty_of_through hnone
  rw [(wrote_of_through hnone).content?, hsplit, List.map_append, List.map_cons]
  have hroot : (c.placed files s.outDir).1 ≠ [] := by
    rw [Conversion.placed_fst]
    exact c.destination_path_ne_nil files hout
  have hothers : ∀ p ∈ after.map (Conversion.placed files s.outDir),
      p.1 ≠ (c.placed files s.outDir).1 := by
    intro p hp
    obtain ⟨d, hd, rfl⟩ := List.mem_map.1 hp
    rw [Conversion.placed_fst, Conversion.placed_fst]
    exact mt (Conversion.destination_path_eq_iff files hout).1 (hlast d hd)
  rw [← Conversion.placed_fst, ← Conversion.placed_snd files s.outDir]
  exact content?_overlay_of_last files hroot hothers

end Whole

/-- A directory with two files that differ in what follows the last dot. -/
def FileTree.twins : FileTree :=
  ((FileTree.empty ["work"]).put ["work", "a.txt"] (.file "<a/>".toUTF8)).put
    ["work", "a.xml"] (.file "<b/>".toUTF8)

/-- The text of a document of one class. -/
def classText : String :=
  "<a><compounddef kind='class'><compoundname>A</compoundname></compounddef></a>"

/-- A directory with two files of one name in two directories. -/
def FileTree.branches : FileTree :=
  ((((FileTree.empty ["work"]).put ["work", "x"] .directory).put ["work", "y"] .directory).put
    ["work", "x", "a.xml"] (.file classText.toUTF8)).put
    ["work", "y", "a.xml"] (.file "<b/>".toUTF8)

theorem find_branches : Glob.find .branches "." "**/*.xml" = .ok ["x/a.xml", "y/a.xml"] :=
  Glob.find_of_perm ["y/a.xml", "x/a.xml"] (by decide +kernel) (.swap _ _ _) (by decide)

theorem through_branches :
    (convertDirectory "." { outDir := "out", pattern := "**/*.xml" } .branches).failure? =
      none := by
  rw [convertDirectory_of_find find_branches]
  decide +kernel

end Docdown
