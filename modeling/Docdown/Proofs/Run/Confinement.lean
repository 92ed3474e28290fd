import Docdown.Proofs.Run.Steps

/-!
# Docdown.Proofs.Run.Confinement

A run over a directory stays below the output directory.  Whatever the files hold and
whatever they are called, the run makes no directory but the output directory, those that
its path leads through and those of groups directly below it (`MakesDirectory`), and
no file but pages in one of these (`WritesFile`).
-/

namespace Docdown

open FileTree Docdown.Path

/-- The directory of a document's group, where it is a place of its own. -/
structure IsGroupDirectory (d : String) : Prop where
  isSegment : IsSegment d
  backslash_notMem : '\\' ∉ d.toList
  exists_root : ∃ text root, Xml.parse text = .ok root ∧
    d = Group.directory (Group.ofDocument root)

/-- The name of the page of a file that a pattern selects in a directory. -/
structure IsPageName (files : FileTree) (directory pattern n : String) : Prop where
  isSegment : IsSegment n
  exists_file : ∃ found, Glob.find files directory pattern = .ok found ∧
    ∃ file ∈ found, n = stem (base file) ++ ".md"

/-- The places where a run may make directories. -/
inductive MakesDirectory (files : FileTree) (outDir : String) : List String → Prop
  /-- The output directory, and what its path leads through as it is written. -/
  | along {place : List String} : files.Passes outDir place → MakesDirectory files outDir place
  /-- The directory of a group. -/
  | group {d : String} : IsGroupDirectory d →
    MakesDirectory files outDir (files.destination (join [outDir, d]))

/-- The places where a run may write files. -/
inductive WritesFile (files : FileTree) (directory outDir pattern : String) : List String → Prop
  /-- A page in the output directory. -/
  | page {n : String} : IsPageName files directory pattern n →
    WritesFile files directory outDir pattern (files.destination (join [outDir, n]))
  /-- A page in the directory of a group. -/
  | groupPage {d n : String} : IsGroupDirectory d → IsPageName files directory pattern n →
    WritesFile files directory outDir pattern (files.destination (join [outDir, d, n]))

section

variable {files : FileTree} {directory outDir pattern : String}

theorem isGroupDirectory_of_parse {text : String} {root : Xml.Element}
    (hparse : Xml.parse text = .ok root) (h : Group.directory (Group.ofDocument root) ≠ "") :
    IsGroupDirectory (Group.directory (Group.ofDocument root)) :=
  ⟨Group.isSegment_directory h, Group.backslash_notMem_directory _, text, root, hparse, rfl⟩

/-- Every directory is on the way to the output directory or directly below it. -/
theorem MakesDirectory.below (hout : outDir ≠ "") {place : List String}
    (h : MakesDirectory files outDir place) :
    files.Passes outDir place ∨
      ∃ d, IsGroupDirectory d ∧ place = files.destination outDir ++ [d] := by
  cases h with
  | along h => exact .inl h
  | group hd => exact .inr ⟨_, hd, destination_join files hout hd.isSegment⟩

/-- Every file is in the output directory or in a directory directly below it. -/
theorem WritesFile.below (hout : outDir ≠ "") {place : List String}
    (h : WritesFile files directory outDir pattern place) :
    ∃ n, IsPageName files directory pattern n ∧
      (place = files.destination outDir ++ [n] ∨
        ∃ d, IsGroupDirectory d ∧ place = files.destination outDir ++ [d, n]) := by
  cases h with
  | page hn => exact ⟨_, hn, .inl (destination_join files hout hn.isSegment)⟩
  | @groupPage d n hd hn =>
    have hjoin : join [outDir, d, n] = join [join [outDir, d], n] :=
      (join_join [outDir, d] hn.isSegment).symm
    refine ⟨n, hn, .inr ⟨d, hd, ?_⟩⟩
    rw [hjoin, destination_join files (join_ne_empty _) hn.isSegment,
      destination_join files hout hd.isSegment, List.append_assoc]
    rfl

end

namespace DirectoryRun

variable {files : FileTree} {directory : String} {s : Config.Settings} {r r' : DirectoryRun}
  {file : String}

/-- On the way to the directory of a group there is nothing but what is on the way to
the output directory, and the directory itself. -/
theorem Makes.makesDirectory (hout : s.outDir ≠ "") (hcwd : r.files.cwd = files.cwd)
    {place : List String} (h : r.Makes s.outDir place) : MakesDirectory files s.outDir place := by
  obtain ⟨text, root, hparse, hpasses⟩ := h
  have hpasses' := hpasses.congr hcwd
  by_cases hd : Group.directory (Group.ofDocument root) = ""
  · rw [groupDirectory, hd, join_pair_empty hout] at hpasses'
    exact .along hpasses'.of_normalize
  · have hgroup := isGroupDirectory_of_parse hparse hd
    rcases hpasses'.of_join hout hgroup.isSegment with h | rfl
    · exact .along h
    · rw [← destination_join files hout hgroup.isSegment]
      exact .group hgroup

/-- The page of a file is in the output directory or in the directory of a group. -/
theorem writesFile_outputPath {found : List String} {text : String} {root : Xml.Element}
    (hfind : Glob.find files directory s.pattern = .ok found) (hfile : file ∈ found)
    (hparse : Xml.parse text = .ok root) :
    WritesFile files directory s.outDir s.pattern
      (files.destination (outputPath s.outDir file root)) := by
  have hn : IsPageName files directory s.pattern (stem (base file) ++ ".md") :=
    ⟨isSegment_stem_base file, found, hfind, file, hfile, rfl⟩
  unfold outputPath
  by_cases hd : Group.directory (Group.ofDocument root) = ""
  · rw [hd, join_pair_drop]
    exact .page hn
  · exact .groupPage (isGroupDirectory_of_parse hparse hd) hn

/-- A turn makes directories and writes files only where a run may. -/
theorem Step.grows (hout : s.outDir ≠ "") (hcwd : r.files.cwd = files.cwd)
    {found : List String} (hfind : Glob.find files directory s.pattern = .ok found)
    (hfile : file ∈ found) (h : Step directory s.outDir r file r') :
    r.files.Grows (MakesDirectory files s.outDir)
      (WritesFile files directory s.outDir s.pattern) r'.files := by
  have hmakes : ∀ place, r.Makes s.outDir place → MakesDirectory files s.outDir place :=
    fun _ h => h.makesDirectory hout hcwd
  cases h with
  | fail hgrows => exact hgrows.mono hmakes fun _ h => h.elim
  | skip _ _ => exact .refl
  | write _ hparse hgrows hfree =>
    refine (hgrows.mono hmakes fun _ h => h.elim).file ?_ hfree
    rw [destination_congr hcwd]
    exact writesFile_outputPath hfind hfile hparse

/-- So do any number of turns. -/
theorem grows_foldl_convertFile (hout : s.outDir ≠ "") (hcwd : r.files.cwd = files.cwd)
    {found turns : List String} (hfind : Glob.find files directory s.pattern = .ok found)
    (hturns : ∀ file ∈ turns, file ∈ found) :
    r.files.Grows (MakesDirectory files s.outDir)
      (WritesFile files directory s.outDir s.pattern)
      (turns.foldl (convertFile directory s.outDir) r).files := by
  induction turns generalizing r with
  | nil => exact .refl
  | cons file rest ih =>
    have hturn : r.files.Grows (MakesDirectory files s.outDir)
        (WritesFile files directory s.outDir s.pattern)
        (r.convertFile directory s.outDir file).files := by
      by_cases hr : r.failure? = none
      · exact (step_convertFile hr file).grows hout hcwd hfind (hturns file List.mem_cons_self)
      · rw [convertFile_of_failure directory s.outDir hr]
        exact .refl
    exact hturn.trans
      (ih (hturn.cwd_eq.trans hcwd) fun f hf => hturns f (List.mem_cons_of_mem _ hf))

end DirectoryRun

/-- A run makes directories and writes files only where it may. -/
theorem grows_convertDirectory {s : Config.Settings} (hout : s.outDir ≠ "") (directory : String)
    (files : FileTree) :
    files.Grows (MakesDirectory files s.outDir) (WritesFile files directory s.outDir s.pattern)
      (convertDirectory directory s files).files := by
  cases hfind : Glob.find files directory s.pattern with
  | error e =>
    rw [convertDirectory, hfind]
    exact .refl
  | ok found =>
    have hbegin : files.Grows (MakesDirectory files s.outDir)
        (WritesFile files directory s.outDir s.pattern)
        (DirectoryRun.begin directory s files found).files :=
      (grows_makeDirectory files s.outDir).mono (fun _ h => .along h) fun _ h => h
    rw [convertDirectory_of_find hfind]
    exact hbegin.trans
      (DirectoryRun.grows_foldl_convertFile hout hbegin.cwd_eq hfind fun _ h => h)

/-- A directory with one file, whose document is a namespace with a name that leads
upward. -/
def FileTree.upward : FileTree :=
  (FileTree.empty ["work"]).put ["work", "a.xml"] (.file
    ("<a><compounddef kind='namespace'><compoundname>../up</compoundname></compounddef>" ++
      "</a>").toUTF8)

end Docdown
