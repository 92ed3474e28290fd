import Docdown.Proofs.Glob.Sparing
import Docdown.Proofs.Run.Confinement
import Docdown.Proofs.Run.Pages
import Docdown.Proofs.Run.Retaking

/-!
# Docdown.Proofs.Run.Repeating

Converting a directory twice.  A second run, over the tree that a first one has left, does
what the first has done (`Repeats`).  It comes upon the same files: no page is selected,
and the directories that are new lead to nothing that was there before, unless the pattern
leads back from them (`find_again`).  Each file holds what it held, since no page is put
over it (`textIn_again`), and each turn can be taken again (`through_again`).  In the end all
pages are put over themselves (`content?_overlay_again`).
-/

namespace Docdown

open FileTree Docdown.Path

/-! ## files put twice -/

namespace FileTree

/-- What is put over files decides what they hold. -/
theorem content?_overlay_congr (t u : FileTree) {pages : List (List String × ByteArray)}
    {place : List String} (h : ∃ p ∈ pages, p.1 = place) :
    (t.overlay pages).content? place = (u.overlay pages).content? place := by
  induction pages generalizing t u with
  | nil =>
    obtain ⟨p, hp, -⟩ := h
    cases hp
  | cons p pages ih =>
    by_cases hlater : ∃ q ∈ pages, q.1 = place
    · exact ih _ _ hlater
    · have hlast : ∀ q ∈ pages, q.1 ≠ place := fun q hq e => hlater ⟨q, hq, e⟩
      obtain ⟨q, hq, rfl⟩ := h
      rcases List.mem_cons.1 hq with rfl | hq
      · have hput : ∀ t : FileTree, (t.overlay (q :: pages)).content? q.1 =
            (t.put q.1 (.file q.2)).content? q.1 := fun t => content?_overlay _ hlast
        rw [hput, hput]
        by_cases hroot : q.1 = []
        · rw [hroot]
          rfl
        · rw [content?, content?, get?_put_self t hroot, get?_put_self u hroot]
      · exact absurd rfl (hlast q hq)

/-- Files put over themselves stay as they are. -/
theorem content?_overlay_again {t u : FileTree} {pages : List (List String × ByteArray)}
    (h : ∀ place, u.content? place = (t.overlay pages).content? place) (place : List String) :
    (u.overlay pages).content? place = u.content? place := by
  by_cases hput : ∃ p ∈ pages, p.1 = place
  · rw [h, content?_overlay_congr u t hput]
  · exact content?_overlay u fun p hp e => hput ⟨p, hp, e⟩

/-- Trees are the same if each is within the other and the files hold the same. -/
theorem Within.get?_eq {t u : FileTree} (h : t.Within u) (h' : u.Within t)
    (hsame : ∀ place, u.content? place = t.content? place) (place : List String) :
    u.get? place = t.get? place := by
  cases hget : t.get? place with
  | none => exact Decidable.not_not.1 fun hne => h'.get?_ne_none hne hget
  | some i =>
    cases i with
    | directory => exact h.directory place hget
    | file content =>
      have hcontent := hsame place
      rw [content?, content?, hget] at hcontent
      split at hcontent
      · rename_i content' hget'
        rw [hget', Option.some.inj hcontent]
      · cases hcontent

end FileTree

/-! ## what a second run comes upon -/

section Whole

variable {directory : String} {s : Config.Settings} {files : FileTree} {found : List String}

/-- A page is put at a place with the name of a page. -/
theorem exists_concat_of_plannedPage {outDir file path content : String} (hout : outDir ≠ "")
    (h : plannedPage files directory outDir file = some (path, content)) :
    ∃ above n, files.destination path = above ++ [n] ∧ Glob.IsPagePath n := by
  cases hparse : Xml.parse (textIn files directory file) with
  | error p => rw [plannedPage_of_problem hparse] at h; cases h
  | ok root =>
    rw [plannedPage_of_parse hparse] at h
    cases h
    have hplace := Conversion.destination_path files hout ⟨file, root⟩
    rw [← List.append_assoc] at hplace
    exact ⟨_, _, hplace, Glob.isPagePath_append_md _⟩

/-- No page is put over a file that is found, if the pattern spares pages. -/
theorem apart_of_sparesPages (hfiles : files.IsTree) (hspares : Glob.SparesPages s.pattern)
    (hfind : Glob.find files directory s.pattern = .ok found) (hout : s.outDir ≠ "") :
    Apart files directory s.outDir found := by
  intro f _ g hg hsame
  obtain ⟨⟨path, content⟩, hplan, hpath⟩ := Option.map_eq_some_iff.1 hsame
  obtain ⟨above, n, hplace, hpage⟩ := exists_concat_of_plannedPage hout hplan
  obtain ⟨above', n', hplace', hspared⟩ := Glob.exists_concat_of_mem_find hfiles hspares hfind hg
  dsimp only at hpath
  rw [hplace, hplace'] at hpath
  obtain ⟨-, hname⟩ := List.append_inj' hpath rfl
  cases hname
  exact hspared hpage

/-- A run that is through has left a tree, with all that was there before. -/
theorem isTree_of_through (hfiles : files.IsTree)
    (hnone : (convertDirectory directory s files).failure? = none) :
    files.Within (convertDirectory directory s files).files ∧
      (convertDirectory directory s files).files.IsTree := by
  obtain ⟨found, hfind, hbegin⟩ := exists_begin_of_through hnone
  rw [convertDirectory_of_find hfind] at hnone ⊢
  obtain ⟨hwithin, htree, -⟩ := DirectoryRun.turns_foldl hbegin hnone
  have hmake : files.makeDirectory s.outDir =
      ((DirectoryRun.begin directory s files found).files, none) :=
    Prod.ext rfl (Option.map_eq_none_iff.1 hbegin)
  exact ⟨(within_of_makeDirectory hmake).trans hwithin, htree (hfiles.makeDirectory hmake)⟩

/-- A run makes no file or directory where there was nothing before. -/
def AddsNothing (directory : String) (s : Config.Settings) (files : FileTree) : Prop :=
  ∀ place, (convertDirectory directory s files).files.get? place ≠ none → files.get? place ≠ none

/-- What a run has left that adds nothing is within what was there before. -/
theorem AddsNothing.within (h : AddsNothing directory s files) (hout : s.outDir ≠ "") :
    (convertDirectory directory s files).files.Within files := by
  have hgrows := grows_convertDirectory hout directory files
  refine ⟨hgrows.cwd_eq.symm, fun place hplace => ?_, fun place hplace => ?_⟩
  · rcases hgrows.change place with hsame | ⟨-, hnone, -⟩ | ⟨-, -, content, hput⟩
    · rw [← hsame, hplace]
    · exact absurd hnone (h place (by rw [hplace]; nofun))
    · rw [hplace] at hput
      cases hput
  · obtain ⟨content, hfile⟩ := isSome_content?_iff.1 hplace
    have hthere := h place (by rw [hfile]; nofun)
    rcases hgrows.change place with hsame | ⟨-, hnone, -⟩ | ⟨-, hfree, -⟩
    · exact isSome_content?_iff.2 ⟨content, hsame.symm.trans hfile⟩
    · exact absurd hnone hthere
    · rw [isSome_content?_iff]
      cases hget : files.get? place with
      | none => exact absurd hget hthere
      | some i =>
        cases i with
        | directory => exact absurd hget hfree
        | file before => exact ⟨before, rfl⟩

/-- A second run comes upon the same files. -/
theorem find_again (hfiles : files.IsTree) (hspares : Glob.SparesPages s.pattern)
    (hsteady : Glob.IsSteadyIn files directory s.pattern ∨ AddsNothing directory s files)
    (hnone : (convertDirectory directory s files).failure? = none) :
    Glob.find (convertDirectory directory s files).files directory s.pattern =
      Glob.find files directory s.pattern := by
  have hout := outDir_ne_empty_of_through hnone
  obtain ⟨found, hfind, -⟩ := exists_begin_of_through hnone
  obtain ⟨hwithin, htree⟩ := isTree_of_through hfiles hnone
  have hroot := (grows_convertDirectory hout directory files).rootFirst_eq
  refine Glob.find_congr hwithin.cwd hroot fun rs hroutes r hr p =>
    ⟨fun hp => ?_, Glob.mem_files_of_within hfiles hwithin⟩
  rcases hsteady with hsteady | hnothing
  · obtain ⟨hsteps, hback⟩ := hsteady rs hroutes r hr
    refine Glob.mem_files_of_steady hfiles htree hwithin hsteps hback ?_ hp
    -- The file is no page, so the run has not made it.
    have hselected := Glob.mem_selected.2 ⟨r, hr, hp⟩
    have hfile := Glob.isFile_of_mem_selected hselected
    have heffect := effect_of_through hfind (apart_of_sparesPages hfiles hspares hfind hout) hnone
    rw [Glob.isFile_eq] at hfile ⊢
    rwa [heffect.others] at hfile
    intro f _ hplan
    obtain ⟨⟨path, content⟩, hpage, hpath⟩ := Option.map_eq_some_iff.1 hplan
    obtain ⟨above, n, hplace, hname⟩ := exists_concat_of_plannedPage hout hpage
    dsimp only at hpath
    rw [← hpath, hplace] at hselected
    exact hspares _ directory rs htree hroutes above n hselected hname
  · exact Glob.mem_files_of_within htree (hnothing.within hout) hp

/-! ## what is planned for a second run -/

section Plan

variable {other : FileTree} {outDir file : String}

theorem plannedPage_congr (h : textIn other directory file = textIn files directory file) :
    plannedPage other directory outDir file = plannedPage files directory outDir file := by
  unfold plannedPage
  rw [h]

theorem plannedFile_congr (hcwd : other.cwd = files.cwd)
    (h : textIn other directory file = textIn files directory file) :
    plannedFile other directory outDir file = plannedFile files directory outDir file := by
  have hplace : ∀ path, other.destination path = files.destination path := destination_congr hcwd
  rw [plannedFile, plannedFile, plannedPage_congr h]
  simp only [hplace]

theorem plannedEntry_congr (h : textIn other directory file = textIn files directory file) :
    plannedEntry other directory outDir file = plannedEntry files directory outDir file := by
  unfold plannedEntry
  rw [h]

theorem isRejected_congr (h : textIn other directory file = textIn files directory file) :
    isRejected other directory file = isRejected files directory file := by
  unfold isRejected
  rw [h]

end Plan

/-- The files hold for a second run what they held for the first. -/
theorem textIn_again (hfind : Glob.find files directory s.pattern = .ok found)
    (hapart : Apart files directory s.outDir found)
    (hnone : (convertDirectory directory s files).failure? = none) {file : String}
    (hfile : file ∈ found) :
    textIn (convertDirectory directory s files).files directory file =
      textIn files directory file := by
  have heffect := effect_of_through hfind hapart hnone
  rw [textIn, textIn, destination_congr heffect.cwd,
    heffect.others fun f hf => hapart f hf file hfile]

/-- The log of a run that is through. -/
theorem log_of_through (hfind : Glob.find files directory s.pattern = .ok found)
    (hapart : Apart files directory s.outDir found)
    (hnone : (convertDirectory directory s files).failure? = none) :
    (convertDirectory directory s files).log =
      ⟨.debug, "Found " ++ toString found.length ++ " file(s) matching " ++ s.pattern ++ " in " ++
        directory, []⟩ :: found.map (plannedEntry files directory s.outDir) := by
  have heffect := effect_of_through hfind hapart hnone
  rw [convertDirectory_of_find hfind] at hnone heffect ⊢
  obtain ⟨-, -, es, hlog, hlevels⟩ := DirectoryRun.turns_foldl
    (DirectoryRun.failure?_eq_none_of_foldl directory s.outDir hnone) hnone
  have hkept : (Log.Logger.writing false).kept es = es :=
    List.filter_eq_self.2 fun e he => by simpa [Log.Logger.writes] using hlevels e he
  have hentries := heffect.log
  rw [hlog, Log.Logger.kept_append, hkept] at hentries
  rw [hlog, ← hentries]
  rfl

/-! ## the second run -/

/-- The second run is through, too, and makes nothing new. -/
theorem through_again (hfiles : files.IsTree) (hspares : Glob.SparesPages s.pattern)
    (hsteady : Glob.IsSteadyIn files directory s.pattern ∨ AddsNothing directory s files)
    (hnone : (convertDirectory directory s files).failure? = none) :
    (convertDirectory directory s (convertDirectory directory s files).files).failure? = none ∧
      (convertDirectory directory s files).files.Within
        (convertDirectory directory s (convertDirectory directory s files).files).files ∧
      (convertDirectory directory s (convertDirectory directory s files).files).files.Within
        (convertDirectory directory s files).files := by
  obtain ⟨found, hfind, hbegin⟩ := exists_begin_of_through hnone
  have hout := outDir_ne_empty_of_through hnone
  have hapart := apart_of_sparesPages hfiles hspares hfind hout
  have hfind' := (find_again hfiles hspares hsteady hnone).trans hfind
  have hapart' := apart_of_sparesPages (isTree_of_through hfiles hnone).2 hspares hfind' hout
  have hrun := convertDirectory_of_find hfind
  have hmake : files.makeDirectory s.outDir =
      ((DirectoryRun.begin directory s files found).files, none) :=
    Prod.ext rfl (Option.map_eq_none_iff.1 hbegin)
  have hwithin := (DirectoryRun.turns_foldl hbegin (by rwa [← hrun])).1
  rw [← hrun] at hwithin
  -- The output directory is there, so the second run begins with the tree as it is.
  have hmake' := makeDirectory_of_within hfiles hmake hwithin
  have hbegin' : DirectoryRun.begin directory s (convertDirectory directory s files).files found =
      DirectoryRun.note { files := (convertDirectory directory s files).files } .debug
        ("Found " ++ toString found.length ++ " file(s) matching " ++ s.pattern ++ " in " ++
          directory) := by
    unfold DirectoryRun.begin DirectoryRun.makeDirectory
    dsimp only [DirectoryRun.note]
    rw [hmake']
    rfl
  rw [convertDirectory_of_find hfind']
  have hstart := effect_begin directory s (convertDirectory directory s files).files found
  rw [hbegin'] at hstart ⊢
  exact DirectoryRun.foldl_again (effect_begin directory s files found) hstart hapart hapart'
    (fun _ => textIn_again hfind hapart hnone) nofun (fun _ h => h) hbegin rfl
    (hfiles.makeDirectory hmake) (by rwa [← hrun]) (by rw [← hrun]; exact .refl _)

/-- A run that does what another has done. -/
structure Repeats (r r' : DirectoryRun) : Prop where
  failure? : r'.failure? = r.failure?
  written : r'.written = r.written
  skipped : r'.skipped = r.skipped
  log : r'.log = r.log
  cwd : r'.files.cwd = r.files.cwd
  get? : ∀ place, r'.files.get? place = r.files.get? place

end Whole

/-- A directory with one file. -/
def FileTree.lone : FileTree :=
  (FileTree.empty ["work"]).put ["work", "a.xml"] (.file "<a/>".toUTF8)

/-- A directory with a file, and one above it with another. -/
def FileTree.nested : FileTree :=
  (((FileTree.empty ["work"]).put ["work", "in"] .directory).put ["work", "in", "a.xml"]
    (.file "<a/>".toUTF8)).put ["work", "p.xml"] (.file "<a/>".toUTF8)

end Docdown
