import Docdown.Proofs.FileTree.Places
import Docdown.Proofs.Run.Turns

/-!
# Docdown.Proofs.Run.Steps

What one turn of a run over a directory can come to.  A turn fails, skips its file or
writes a page (`Step`, `step_convertFile`), and each of these says all that the turn
does to the run.  Both where a run writes and what it leaves are read off these three
cases.
-/

namespace Docdown.DirectoryRun

/-- The path of a document's page below the output directory. -/
def outputPath (outDir file : String) (root : Xml.Element) : String :=
  Path.join [outDir, Group.directory (Group.ofDocument root), Path.stem (Path.base file) ++ ".md"]

theorem pagePath_groupDirectory (outDir file : String) (root : Xml.Element) :
    pagePath (groupDirectory outDir root) file = outputPath outDir file root :=
  Path.join_join [outDir, Group.directory (Group.ofDocument root)] (Path.isSegment_stem_base file)

/-- The last part of the path is the name of the page. -/
theorem exists_parts_outputPath (outDir file : String) (root : Xml.Element) :
    ∃ front, Path.parts (outputPath outDir file root) =
      front ++ [Path.stem (Path.base file) ++ ".md"] := by
  rw [← pagePath_groupDirectory]
  exact Path.exists_parts_join (Path.join_ne_empty _) (Path.isSegment_stem_base file)

/-- The directories that a turn may make: those on the way to the directory of a
document's group. -/
def Makes (outDir : String) (r : DirectoryRun) (place : List String) : Prop :=
  ∃ text root, Xml.parse text = .ok root ∧ r.files.Passes (groupDirectory outDir root) place

/-- What the turn of a file can come to in a run that has not failed. -/
inductive Step (directory outDir : String) (r : DirectoryRun) (file : String) :
    DirectoryRun → Prop
  /-- Something cannot be done with a path. -/
  | fail {u : FileTree} {e : FileTree.Error} :
    r.files.Grows (r.Makes outDir) (fun _ => False) u →
    Step directory outDir r file { r with files := u, failure? := some (.files e) }
  /-- The file is no document. -/
  | skip {bytes : ByteArray} {p : Xml.Problem} :
    r.files.readFile (Path.join [directory, file]) = .ok bytes →
    Xml.parse (Text.Utf8.text bytes) = .error p →
    Step directory outDir r file (r.skip file p)
  /-- The page of the document is written. -/
  | write {bytes : ByteArray} {root : Xml.Element} {u : FileTree} :
    r.files.readFile (Path.join [directory, file]) = .ok bytes →
    Xml.parse (Text.Utf8.text bytes) = .ok root →
    r.files.Grows (r.Makes outDir) (fun _ => False) u →
    u.get? (r.files.destination (outputPath outDir file root)) ≠ some .directory →
    Step directory outDir r file
      { r with
        files := u.put (r.files.destination (outputPath outDir file root))
          (.file (page root).toUTF8)
        log := r.log ++ [⟨.info, "Wrote " ++ outputPath outDir file root, []⟩]
        written := r.written ++ [outputPath outDir file root] }

variable {directory outDir : String} {r : DirectoryRun} {file : String}

/-- Writing a page fails or puts it where its path leads. -/
theorem write_pagePath (r : DirectoryRun) (outDir file : String) (root : Xml.Element)
    (content : String) :
    (∃ e, r.write (pagePath (groupDirectory outDir root) file) content = r.fail (.files e)) ∨
      r.files.get? (r.files.destination (outputPath outDir file root)) ≠ some .directory ∧
        r.write (pagePath (groupDirectory outDir root) file) content =
          { r with
            files := r.files.put (r.files.destination (outputPath outDir file root))
              (.file content.toUTF8)
            log := r.log ++ [⟨.info, "Wrote " ++ outputPath outDir file root, []⟩]
            written := r.written ++ [outputPath outDir file root] } := by
  have hname := Path.isSegment_stem_base file
  obtain ⟨front, hparts⟩ := exists_parts_outputPath outDir file root
  rw [pagePath_groupDirectory]
  unfold write
  split
  · rename_i e _
    exact .inl ⟨e, rfl⟩
  · rename_i u hwrite
    obtain ⟨hfree, rfl⟩ := FileTree.put_of_writeFile hparts hname.isName hwrite
    exact .inr ⟨hfree, rfl⟩

/-- The turn of a document fails or writes its page. -/
theorem step_convertDocument (hr : r.failure? = none) {bytes : ByteArray} {root : Xml.Element}
    (hread : r.files.readFile (Path.join [directory, file]) = .ok bytes)
    (hparse : Xml.parse (Text.Utf8.text bytes) = .ok root) :
    Step directory outDir r file (r.convertDocument outDir file root) := by
  have hmakes : r.files.Grows (r.Makes outDir) (fun _ => False)
      (r.files.makeDirectory (groupDirectory outDir root)).1 :=
    (FileTree.grows_makeDirectory r.files (groupDirectory outDir root)).mono
      (fun _ h => ⟨_, root, hparse, h⟩) fun _ h => h
  have hsame := FileTree.destination_congr hmakes.cwd_eq (outputPath outDir file root)
  rcases hm : r.files.makeDirectory (groupDirectory outDir root) with ⟨u, error?⟩
  rw [hm] at hmakes hsame
  cases error? with
  | some e =>
    have hturn : r.convertDocument outDir file root =
        { r with files := u, failure? := some (.files e) } := by
      simp only [convertDocument, makeDirectory, hm, Option.map_some, Option.isSome_some, if_true]
    rw [hturn]
    exact .fail hmakes
  | none =>
    have hturn : r.convertDocument outDir file root =
        write { r with files := u } (pagePath (groupDirectory outDir root) file) (page root) := by
      simp only [convertDocument, makeDirectory, hm, hr, Option.map_none, Option.isSome_none,
        Bool.false_eq_true, if_false]
    rw [hturn]
    rcases write_pagePath { r with files := u } outDir file root (page root) with
      ⟨e, hwrite⟩ | ⟨hfree, hwrite⟩
    · rw [hwrite]
      exact .fail hmakes
    · dsimp only at hfree hwrite
      rw [hsame] at hfree hwrite
      rw [hwrite]
      exact .write hread hparse hmakes hfree

/-- The turn of a file fails, skips the file or writes its page. -/
theorem step_convertFile (hr : r.failure? = none) (file : String) :
    Step directory outDir r file (r.convertFile directory outDir file) := by
  unfold convertFile
  rw [hr, Option.isSome_none, if_neg Bool.false_ne_true]
  split
  · exact .fail .refl
  · rename_i bytes hread
    split
    · rename_i p hparse
      exact .skip hread hparse
    · rename_i root hparse
      exact step_convertDocument hr hread hparse

end Docdown.DirectoryRun
