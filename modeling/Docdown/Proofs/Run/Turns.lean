import Docdown.Run.Directory

/-!
# Docdown.Proofs.Run.Turns

A run over a directory file by file.  `DirectoryRun.begin` is the run before its
first file and `convertDirectory_of_find` the run as a whole: every selected file
has its turn (`DirectoryRun.ComesTo`).  A file whose text has a problem is skipped at
its turn (`convertFile_of_problem`), and what was skipped once stays skipped
(`skipped_prefix_foldl`).
-/

namespace Docdown

namespace DirectoryRun

/-- The run before the first of the files found. -/
def begin (directory : String) (s : Config.Settings) (files : FileTree) (found : List String) :
    DirectoryRun :=
  let r : DirectoryRun := { files := files }
  let r := r.note .debug ("Found " ++ toString found.length ++ " file(s) matching " ++
    s.pattern ++ " in " ++ directory)
  r.makeDirectory s.outDir

variable (directory outDir : String)

/-- A file whose text has a problem is skipped. -/
theorem convertFile_of_problem {r : DirectoryRun} {file : String} {bytes : ByteArray}
    {p : Xml.Problem} (hr : r.failure? = none)
    (hread : r.files.readFile (Path.join [directory, file]) = .ok bytes)
    (hparse : Xml.parse (Text.Utf8.text bytes) = .error p) :
    r.convertFile directory outDir file = r.skip file p := by
  simp only [convertFile, hr, hread, hparse, Option.isSome_none, Bool.false_eq_true, if_false]

/-- Once a run has failed nothing more happens. -/
theorem convertFile_of_failure {r : DirectoryRun} (hr : r.failure? ≠ none) (file : String) :
    r.convertFile directory outDir file = r := by
  rw [convertFile, if_pos (Option.isSome_iff_ne_none.2 hr)]

theorem foldl_convertFile_of_failure {r : DirectoryRun} (hr : r.failure? ≠ none)
    (found : List String) : found.foldl (convertFile directory outDir) r = r := by
  induction found with
  | nil => rfl
  | cons file found ih => rw [List.foldl_cons, convertFile_of_failure directory outDir hr, ih]

/-- A run that has not failed in the end has not failed before. -/
theorem failure?_eq_none_of_foldl {r : DirectoryRun} {found : List String}
    (h : (found.foldl (convertFile directory outDir) r).failure? = none) : r.failure? = none :=
  Decidable.byContradiction fun hr => by
    rw [foldl_convertFile_of_failure directory outDir hr] at h
    exact hr h

/-- A run that fails does so at the turn of one of the files. -/
theorem exists_turn_of_failure {r : DirectoryRun} (hr : r.failure? = none) {found : List String}
    (h : (found.foldl (convertFile directory outDir) r).failure? ≠ none) :
    ∃ before file after, found = before ++ file :: after ∧
      (before.foldl (convertFile directory outDir) r).failure? = none ∧
      found.foldl (convertFile directory outDir) r =
        (before.foldl (convertFile directory outDir) r).convertFile directory outDir file := by
  induction found generalizing r with
  | nil => exact absurd hr h
  | cons file found ih =>
    rw [List.foldl_cons] at h ⊢
    by_cases hturn : (r.convertFile directory outDir file).failure? = none
    · obtain ⟨before, file', after, rfl, hbefore, hrun⟩ := ih hturn h
      exact ⟨file :: before, file', after, rfl, hbefore, hrun⟩
    · exact ⟨[], file, found, rfl, hr, foldl_convertFile_of_failure directory outDir hturn found⟩

/-! ## what stays skipped -/

theorem skipped_write (r : DirectoryRun) (path page : String) :
    (r.write path page).skipped = r.skipped := by
  unfold write
  split <;> rfl

theorem skipped_convertDocument (r : DirectoryRun) (file : String) (root : Xml.Element) :
    (r.convertDocument outDir file root).skipped = r.skipped := by
  unfold convertDocument
  dsimp only
  split
  · rfl
  · rw [skipped_write]
    rfl

theorem skipped_prefix_convertFile (r : DirectoryRun) (file : String) :
    r.skipped <+: (r.convertFile directory outDir file).skipped := by
  unfold convertFile
  split
  · exact List.prefix_rfl
  · split
    · exact List.prefix_rfl
    · split
      · exact List.prefix_append _ _
      · exact ⟨[], by rw [List.append_nil, skipped_convertDocument]⟩

/-- What was skipped stays skipped. -/
theorem skipped_prefix_foldl (r : DirectoryRun) (found : List String) :
    r.skipped <+: (found.foldl (convertFile directory outDir) r).skipped := by
  induction found generalizing r with
  | nil => exact List.prefix_rfl
  | cons file found ih =>
    exact (skipped_prefix_convertFile directory outDir r file).trans (ih _)

end DirectoryRun

open DirectoryRun

/-- The run as a whole: every file found has its turn. -/
theorem convertDirectory_of_find {directory : String} {s : Config.Settings} {files : FileTree}
    {found : List String} (h : Glob.find files directory s.pattern = .ok found) :
    convertDirectory directory s files =
      found.foldl (convertFile directory s.outDir) (begin directory s files found) := by
  rw [convertDirectory, h]
  rfl

/-- The run over a directory comes to a file: it is the file's turn, and nothing has
failed so far. -/
structure DirectoryRun.ComesTo (r : DirectoryRun) (directory : String) (s : Config.Settings)
    (files : FileTree) (file : String) : Prop where
  turn : ∃ before after, Glob.find files directory s.pattern = .ok (before ++ file :: after) ∧
    before.foldl (convertFile directory s.outDir)
      (begin directory s files (before ++ file :: after)) = r
  failure? : r.failure? = none

/-- A file that is skipped at its turn is among those skipped in the end. -/
theorem mem_skipped_of_comesTo {directory : String} {s : Config.Settings} {files : FileTree}
    {file : String} {p : Xml.Problem} {r : DirectoryRun} (hr : r.ComesTo directory s files file)
    (hskip : r.convertFile directory s.outDir file = r.skip file p) :
    file ∈ (convertDirectory directory s files).skipped := by
  obtain ⟨before, after, hfind, hbefore⟩ := hr.turn
  have hmem : file ∈ (r.skip file p).skipped := by simp [skip]
  have hkept := skipped_prefix_foldl directory s.outDir (r.skip file p) after
  rw [convertDirectory_of_find hfind, List.foldl_append, List.foldl_cons, hbefore, hskip]
  exact hkept.subset hmem

end Docdown
