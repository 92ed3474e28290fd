import Docdown.Proofs.Glob.Found
import Docdown.Proofs.Run.Single
import Docdown.Proofs.Run.Steps

/-!
# Docdown.Proofs.Run.Effect

What a run over a directory leaves, told from the files as they were before it.  Each
file has its page planned from the text it holds (`plannedPage`), and the run does to the
tree, the log and its lists just what is planned for the files that have had their turn
(`Effect`).  A turn that does not fail adds one file to these (`Effect.step`), one that
fails adds none, so the whole run is the effect of all files or of those before the one
that it fails at.

The pages are those that a run over one text prints, and files that are skipped are
skipped with the message that such a run fails with (`AgreesAlone`).
-/

namespace Docdown

open FileTree Docdown.Path

/-! ## files put over others -/

namespace FileTree

/-- The tree with files put at places, one after the other. -/
def overlay (t : FileTree) (pages : List (List String × ByteArray)) : FileTree :=
  pages.foldl (fun t p => t.put p.1 (.file p.2)) t

theorem overlay_concat (t : FileTree) (pages : List (List String × ByteArray))
    (p : List String × ByteArray) :
    t.overlay (pages ++ [p]) = (t.overlay pages).put p.1 (.file p.2) := by
  rw [overlay, List.foldl_append]
  rfl

/-- What files hold after one is put at a place depends on what they held. -/
theorem content?_put_congr {t u : FileTree} (h : ∀ place, t.content? place = u.content? place)
    (place : List String) (bytes : ByteArray) (other : List String) :
    (t.put place (.file bytes)).content? other = (u.put place (.file bytes)).content? other := by
  by_cases hplace : other = place
  · subst hplace
    by_cases hroot : other = []
    · subst hroot
      rfl
    · rw [content?, content?, get?_put_self t hroot, get?_put_self u hroot]
  · have hother := h other
    unfold content? at hother ⊢
    rw [get?_put_of_ne t hplace, get?_put_of_ne u hplace]
    exact hother

theorem content?_put_of_ne (t : FileTree) {place other : List String} (h : other ≠ place)
    (i : Item) : (t.put place i).content? other = t.content? other := by
  rw [content?, get?_put_of_ne t h, content?]

/-- Where no file is put the files stay as they were. -/
theorem content?_overlay (t : FileTree) {pages : List (List String × ByteArray)}
    {place : List String} (h : ∀ p ∈ pages, p.1 ≠ place) :
    (t.overlay pages).content? place = t.content? place := by
  induction pages generalizing t with
  | nil => rfl
  | cons p pages ih =>
    have hp : place ≠ p.1 := (h p List.mem_cons_self).symm
    rw [overlay, List.foldl_cons, ← content?_put_of_ne t hp (.file p.2)]
    exact ih _ fun q hq => h q (List.mem_cons_of_mem _ hq)

end FileTree

/-! ## what is planned -/

section Plan

variable (files : FileTree) (directory outDir file : String)

/-- The text that a file of a directory holds before the run. -/
def textIn : String :=
  Text.Utf8.text ((files.content? (files.destination (join [directory, file]))).getD .empty)

/-- Whether a file is no document. -/
def isRejected : Bool := !(Xml.parse (textIn files directory file)).isOk

/-- The path and the content of a file's page, unless the file is no document. -/
def plannedPage : Option (String × String) :=
  match Xml.parse (textIn files directory file) with
  | .ok root => (convert (textIn files directory file)).toOption.map
      (DirectoryRun.outputPath outDir file root, ·)
  | .error _ => none

/-- The place and the bytes of a file's page. -/
def plannedFile : Option (List String × ByteArray) :=
  (plannedPage files directory outDir file).map fun p => (files.destination p.1, p.2.toUTF8)

/-- How the turn of a file is logged: by its page, or by why the file is skipped. -/
def plannedEntry : Log.Entry Config.Settings :=
  match Xml.parse (textIn files directory file) with
  | .ok root => ⟨.info, "Wrote " ++ DirectoryRun.outputPath outDir file root, []⟩
  | .error p => ⟨.warn, "Skipping " ++ base file ++ ": not valid Doxygen XML (" ++
      (Failure.ofProblem p).message ++ ")", []⟩

/-- No page is put where a file is that the run reads. -/
def Apart (found : List String) : Prop :=
  ∀ f ∈ found, ∀ g ∈ found, (plannedPage files directory outDir f).map (files.destination ·.1) ≠
    some (files.destination (join [directory, g]))

instance (found : List String) : Decidable (Apart files directory outDir found) :=
  inferInstanceAs (Decidable (∀ f ∈ found, ∀ g ∈ found, _ ≠ _))

/-- What a run has done when some files have had their turn. -/
structure Effect (done : List String) (r : DirectoryRun) : Prop where
  skipped : r.skipped = done.filter (isRejected files directory)
  written : r.written = (done.filterMap (plannedPage files directory outDir)).map Prod.fst
  log : (Log.Logger.writing false).kept r.log = done.map (plannedEntry files directory outDir)
  content? : ∀ place, r.files.content? place =
    (files.overlay (done.filterMap (plannedFile files directory outDir))).content? place
  cwd : r.files.cwd = files.cwd

end Plan

section

variable {files : FileTree} {directory outDir file : String} {found done : List String}
  {r r' : DirectoryRun}

section Document

variable {root : Xml.Element} (h : Xml.parse (textIn files directory file) = .ok root)

include h

theorem isRejected_of_parse : isRejected files directory file = false := by
  unfold isRejected
  rw [h]
  rfl

theorem plannedPage_of_parse :
    plannedPage files directory outDir file =
      some (DirectoryRun.outputPath outDir file root, page root) := by
  have hconvert : convert (textIn files directory file) = .ok (page root) := by
    rw [convert, h]
    rfl
  unfold plannedPage
  rw [h, hconvert]
  rfl

theorem plannedFile_of_parse :
    plannedFile files directory outDir file =
      some (files.destination (DirectoryRun.outputPath outDir file root), (page root).toUTF8) := by
  rw [plannedFile, plannedPage_of_parse h]
  rfl

theorem plannedEntry_of_parse :
    plannedEntry files directory outDir file =
      ⟨.info, "Wrote " ++ DirectoryRun.outputPath outDir file root, []⟩ := by
  unfold plannedEntry
  rw [h]

end Document

section Problem

variable {p : Xml.Problem} (h : Xml.parse (textIn files directory file) = .error p)

include h

theorem isRejected_of_problem : isRejected files directory file = true := by
  unfold isRejected
  rw [h]
  rfl

theorem plannedPage_of_problem : plannedPage files directory outDir file = none := by
  unfold plannedPage
  rw [h]

theorem plannedFile_of_problem : plannedFile files directory outDir file = none := by
  rw [plannedFile, plannedPage_of_problem h]
  rfl

theorem plannedEntry_of_problem :
    plannedEntry files directory outDir file =
      ⟨.warn, "Skipping " ++ base file ++ ": not valid Doxygen XML (" ++
        (Failure.ofProblem p).message ++ ")", []⟩ := by
  unfold plannedEntry
  rw [h]

end Problem

/-- Every file is either skipped or has a page. -/
theorem length_plan (done : List String) :
    ((done.filterMap (plannedPage files directory outDir)).map Prod.fst).length +
      (done.filter (isRejected files directory)).length = done.length := by
  induction done with
  | nil => rfl
  | cons file done ih =>
    rw [List.length_map] at ih ⊢
    cases h : Xml.parse (textIn files directory file) with
    | ok root =>
      rw [List.filterMap_cons_some (plannedPage_of_parse h),
        List.filter_cons_of_neg (by rw [isRejected_of_parse h]; exact Bool.false_ne_true),
        List.length_cons, List.length_cons]
      omega
    | error p =>
      rw [List.filterMap_cons_none (plannedPage_of_problem h),
        List.filter_cons_of_pos (isRejected_of_problem h),
        List.length_cons, List.length_cons]
      omega

/-- The places of pages apart, all files stay as they were. -/
theorem Effect.others (h : Effect files directory outDir done r) {place : List String}
    (hplace : ∀ f ∈ done, (plannedPage files directory outDir f).map (files.destination ·.1) ≠
      some place) : r.files.content? place = files.content? place := by
  rw [h.content?, content?_overlay]
  intro p hp hpage
  obtain ⟨f, hf, hplan⟩ := List.mem_filterMap.1 hp
  obtain ⟨q, hq, rfl⟩ := Option.map_eq_some_iff.1 hplan
  refine hplace f hf ?_
  rw [hq, ← hpage]
  rfl

/-- What is read in a run is what the file held before, since no page is put over it. -/
theorem textIn_of_readFile (hapart : Apart files directory outDir found)
    (hdone : ∀ f ∈ done, f ∈ found) (hfile : file ∈ found)
    (h : Effect files directory outDir done r) {bytes : ByteArray}
    (hread : r.files.readFile (join [directory, file]) = .ok bytes) :
    textIn files directory file = Text.Utf8.text bytes := by
  have hcontent := content?_of_readFile hread
  rw [destination_congr h.cwd, h.others fun f hf => hapart f (hdone f hf) file hfile] at hcontent
  rw [textIn, hcontent, Option.getD_some]

/-! ## turns -/

/-- Directories and failures leave no effect. -/
theorem Effect.of_grows (h : Effect files directory outDir done r) {D : List String → Prop}
    {u : FileTree} (hgrows : r.files.Grows D (fun _ => False) u) (failure? : Option Failure) :
    Effect files directory outDir done { r with files := u, failure? := failure? } where
  skipped := h.skipped
  written := h.written
  log := h.log
  content? place := (hgrows.content?_eq not_false).trans (h.content? place)
  cwd := hgrows.cwd_eq.trans h.cwd

/-- The effect of a file that is skipped. -/
theorem Effect.skip (h : Effect files directory outDir done r) {p : Xml.Problem}
    (hparse : Xml.parse (textIn files directory file) = .error p) :
    Effect files directory outDir (done ++ [file]) (r.skip file p) where
  skipped := by
    rw [List.filter_append, List.filter_cons_of_pos (isRejected_of_problem hparse),
      List.filter_nil, ← h.skipped]
    rfl
  written := by
    rw [List.filterMap_append, List.filterMap_cons_none (plannedPage_of_problem hparse),
      List.filterMap_nil, List.append_nil, ← h.written]
    rfl
  log := by
    rw [List.map_append, List.map_singleton, plannedEntry_of_problem hparse, ← h.log]
    exact Log.Logger.kept_append _ _ _
  content? place := by
    rw [List.filterMap_append, List.filterMap_cons_none (plannedFile_of_problem hparse),
      List.filterMap_nil, List.append_nil]
    exact h.content? place
  cwd := h.cwd

/-- The effect of a file whose page is written. -/
theorem Effect.write (h : Effect files directory outDir done r) {root : Xml.Element}
    (hparse : Xml.parse (textIn files directory file) = .ok root) :
    Effect files directory outDir (done ++ [file])
      { r with
        files := r.files.put (files.destination (DirectoryRun.outputPath outDir file root))
          (.file (page root).toUTF8)
        log := r.log ++ [⟨.info, "Wrote " ++ DirectoryRun.outputPath outDir file root, []⟩]
        written := r.written ++ [DirectoryRun.outputPath outDir file root] } where
  skipped := by
    rw [List.filter_append, List.filter_cons_of_neg
      (by rw [isRejected_of_parse hparse]; exact Bool.false_ne_true), List.filter_nil,
      List.append_nil, ← h.skipped]
  written := by
    rw [List.filterMap_append, List.filterMap_cons_some (plannedPage_of_parse hparse),
      List.filterMap_nil, List.map_append, ← h.written]
    rfl
  log := by
    rw [List.map_append, List.map_singleton, plannedEntry_of_parse hparse, ← h.log]
    exact Log.Logger.kept_append _ _ _
  content? place := by
    rw [List.filterMap_append, List.filterMap_cons_some (plannedFile_of_parse hparse),
      List.filterMap_nil, overlay_concat]
    exact content?_put_congr h.content? _ _ place
  cwd := h.cwd

/-- A turn adds its file to the effect unless it fails. -/
theorem Effect.step (h : Effect files directory outDir done r)
    (hapart : Apart files directory outDir found) (hdone : ∀ f ∈ done, f ∈ found)
    (hfile : file ∈ found) (hstep : r.Step directory outDir file r') :
    r'.failure? ≠ none ∧ Effect files directory outDir done r' ∨
      r'.failure? = r.failure? ∧ Effect files directory outDir (done ++ [file]) r' := by
  cases hstep with
  | fail hgrows => exact .inl ⟨nofun, h.of_grows hgrows _⟩
  | @skip bytes p hread hparse =>
    rw [← textIn_of_readFile hapart hdone hfile h hread] at hparse
    exact .inr ⟨rfl, h.skip hparse⟩
  | @write bytes root u hread hparse hgrows hfree =>
    rw [← textIn_of_readFile hapart hdone hfile h hread] at hparse
    rw [destination_congr h.cwd]
    exact .inr ⟨rfl, (h.of_grows hgrows r.failure?).write hparse⟩

/-- So do any number of turns, if none fails. -/
theorem Effect.foldl (h : Effect files directory outDir done r)
    (hapart : Apart files directory outDir found) (hdone : ∀ f ∈ done, f ∈ found)
    (hr : r.failure? = none) {turns : List String} (hturns : ∀ f ∈ turns, f ∈ found)
    (hnone : (turns.foldl (DirectoryRun.convertFile directory outDir) r).failure? = none) :
    Effect files directory outDir (done ++ turns)
      (turns.foldl (DirectoryRun.convertFile directory outDir) r) := by
  induction turns generalizing done r with
  | nil => rwa [List.append_nil]
  | cons file rest ih =>
    have hfile := hturns file List.mem_cons_self
    rw [List.foldl_cons] at hnone ⊢
    rcases h.step hapart hdone hfile (DirectoryRun.step_convertFile hr file) with
      ⟨hfailed, -⟩ | ⟨hsame, hnext⟩
    · rw [DirectoryRun.foldl_convertFile_of_failure directory outDir hfailed] at hnone
      exact absurd hnone hfailed
    · have hdone' : ∀ f ∈ done ++ [file], f ∈ found := fun f hf =>
        (List.mem_append.1 hf).elim (hdone f) fun hf => by rwa [List.mem_singleton.1 hf]
      have hrest := ih hnext hdone' (hsame.trans hr)
        (fun f hf => hturns f (List.mem_cons_of_mem _ hf)) hnone
      rwa [List.append_assoc] at hrest

theorem Effect.length (h : Effect files directory outDir done r) :
    r.written.length + r.skipped.length = done.length := by
  rw [h.written, h.skipped, length_plan]

end

/-- Before the first turn there is no effect. -/
theorem effect_begin (directory : String) (s : Config.Settings) (files : FileTree)
    (found : List String) :
    Effect files directory s.outDir [] (DirectoryRun.begin directory s files found) := by
  have hstart : Effect files directory s.outDir [] (DirectoryRun.note { files := files } .debug
      ("Found " ++ toString found.length ++ " file(s) matching " ++ s.pattern ++ " in " ++
        directory)) := ⟨rfl, rfl, rfl, fun _ => rfl, rfl⟩
  exact hstart.of_grows (grows_makeDirectory files s.outDir) _

/-! ## one text at a time -/

/-- What is planned for a file is what a run over its text alone comes to: its page is
printed, or the message that the file is skipped with is the one of the failure. -/
structure AgreesAlone (files : FileTree) (directory outDir file : String) : Prop where
  read : ∀ bytes, files.readFile (join [directory, file]) = .ok bytes →
    textIn files directory file = Text.Utf8.text bytes
  printed : ∀ (around : Surroundings) (settings : Config.Settings),
    around.Gives settings (textIn files directory file) →
    ∀ path content, plannedPage files directory outDir file = some (path, content) →
      (runSettings around settings).output = [content]
  logged : ∀ (around : Surroundings) (settings : Config.Settings),
    around.Gives settings (textIn files directory file) →
    ∀ p, Xml.parse (textIn files directory file) = .error p →
      plannedEntry files directory outDir file = ⟨.warn, "Skipping " ++ base file ++
        ": not valid Doxygen XML (" ++ (Failure.ofProblem p).message ++ ")", []⟩ ∧
      (runSettings around settings).output = [] ∧
      (runSettings around settings).log.filter (·.level = .error) =
        [⟨.error, (Failure.ofProblem p).message, []⟩]

theorem convert_of_plannedPage {files : FileTree} {directory outDir file path content : String}
    (h : plannedPage files directory outDir file = some (path, content)) :
    convert (textIn files directory file) = .ok content := by
  cases hparse : Xml.parse (textIn files directory file) with
  | error p => rw [plannedPage_of_problem hparse] at h; cases h
  | ok root =>
    rw [plannedPage_of_parse hparse] at h
    cases h
    rw [convert, hparse]
    rfl

theorem agreesAlone (files : FileTree) (directory outDir file : String) :
    AgreesAlone files directory outDir file where
  read bytes hread := by rw [textIn, content?_of_readFile hread, Option.getD_some]
  printed _ _ hgives _ _ hpage := output_of_gives hgives (convert_of_plannedPage hpage)
  logged _ _ hgives _ hparse := ⟨plannedEntry_of_problem hparse, errors_of_gives hgives hparse⟩

/-! ## the whole run -/

section Whole

variable {directory : String} {s : Config.Settings} {files : FileTree} {found : List String}

/-- The files of a run are in the order of names, in whatever order they are listed.  In a
tree made of segments each of them comes once, and its path leads to a file, from the
directory or from the root.  The run reads what it leads to from the directory, even if the
file is found from the root. -/
structure InOrder (files : FileTree) (directory : String) (found : List String) : Prop where
  sorted : found.Pairwise fun f g => Text.nameLE f g = true
  listed : ∀ listed : List String, listed.Perm found → listed.mergeSort Text.nameLE = found
  nodup : files.IsProper → found.Nodup
  isSome : files.IsProper →
    ∀ f ∈ found, (files.content? (files.destination (Glob.pathFrom directory f))).isSome
  below : files.IsProper → directory ≠ "" → ∀ f ∈ found, isAbsolute f = true →
    ∃ p, f = Glob.absoluteName p ∧ (files.content? p).isSome ∧
      files.destination (join [directory, f]) = files.destination directory ++ p

theorem inOrder_of_find (hfind : Glob.find files directory s.pattern = .ok found) :
    InOrder files directory found where
  sorted := Glob.pairwise_of_find hfind
  listed _ hperm := Text.mergeSort_nameLE_of_perm hperm (Glob.pairwise_of_find hfind)
  nodup hfiles := Glob.nodup_of_find hfiles hfind
  isSome hfiles _ hf := Glob.isSome_content?_of_mem_find hfiles hfind hf
  below hfiles hdirectory _ hf := Glob.exists_absoluteName_of_mem_find hfiles hfind hdirectory hf

/-- A run that is through has the effect of all files. -/
theorem effect_of_through (hfind : Glob.find files directory s.pattern = .ok found)
    (hapart : Apart files directory s.outDir found)
    (hnone : (convertDirectory directory s files).failure? = none) :
    Effect files directory s.outDir found (convertDirectory directory s files) := by
  rw [convertDirectory_of_find hfind] at hnone ⊢
  have hbegin : (DirectoryRun.begin directory s files found).failure? = none :=
    Decidable.byContradiction fun h => by
      rw [DirectoryRun.foldl_convertFile_of_failure directory s.outDir h] at hnone
      exact h hnone
  exact (effect_begin directory s files found).foldl hapart (fun _ h => absurd h List.not_mem_nil)
    hbegin (fun _ h => h) hnone

/-- A run that has failed at the turn of a file: what it leaves is what the run over the
files before has left. -/
structure FailsAt (directory : String) (s : Config.Settings) (files : FileTree)
    (before : List String) (file : String) (after : List String) (r : DirectoryRun) : Prop where
  run : before.foldl (DirectoryRun.convertFile directory s.outDir)
    (DirectoryRun.begin directory s files (before ++ file :: after)) = r
  failure? : r.failure? = none
  turn : convertDirectory directory s files = r.convertFile directory s.outDir file
  done : Effect files directory s.outDir before r
  effect : Effect files directory s.outDir before (convertDirectory directory s files)
  content? : ∀ place, (convertDirectory directory s files).files.content? place =
    r.files.content? place

/-- A run that fails does so before the first turn or at the turn of a file. -/
theorem failsAt_of_failure (hfind : Glob.find files directory s.pattern = .ok found)
    (hapart : Apart files directory s.outDir found)
    (hfailed : (convertDirectory directory s files).failure? ≠ none) :
    (convertDirectory directory s files = DirectoryRun.begin directory s files found ∧
        Effect files directory s.outDir [] (convertDirectory directory s files)) ∨
      ∃ before file after r, found = before ++ file :: after ∧
        FailsAt directory s files before file after r := by
  have hrun := convertDirectory_of_find hfind
  have hstart := effect_begin directory s files found
  rw [hrun] at hfailed
  by_cases hbegin : (DirectoryRun.begin directory s files found).failure? = none
  · obtain ⟨before, file, after, hfound, hbefore, hturn⟩ :=
      DirectoryRun.exists_turn_of_failure directory s.outDir hbegin hfailed
    have hmem : ∀ f ∈ before, f ∈ found := fun f hf => by simp [hfound, hf]
    have heffect := hstart.foldl hapart (fun _ h => absurd h List.not_mem_nil) hbegin hmem hbefore
    rw [List.nil_append] at heffect
    rw [hturn] at hfailed
    rcases heffect.step hapart hmem (by simp [hfound])
      (DirectoryRun.step_convertFile hbefore file) with ⟨-, hlast⟩ | ⟨hsame, -⟩
    · rw [← hturn, ← hrun] at hlast
      exact .inr ⟨before, file, after, _, hfound, by rw [← hfound], hbefore,
        hrun.trans hturn, heffect, hlast,
        fun place => (hlast.content? place).trans (heffect.content? place).symm⟩
    · exact absurd (hsame.trans hbefore) hfailed
  · have hsame := hrun.trans
      (DirectoryRun.foldl_convertFile_of_failure directory s.outDir hbegin found)
    exact .inl ⟨hsame, by rw [hsame]; exact hstart⟩

end Whole

/-- A directory with a file that is no document and one that is. -/
def FileTree.mixed : FileTree :=
  ((FileTree.empty ["work"]).put ["work", "a.xml"] (.file "<a>".toUTF8)).put ["work", "b.xml"]
    (.file "<b/>".toUTF8)

end Docdown
