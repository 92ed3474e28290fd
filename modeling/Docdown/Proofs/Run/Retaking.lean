import Docdown.Proofs.FileTree.Lasting
import Docdown.Proofs.Run.Effect

/-!
# Docdown.Proofs.Run.Retaking

Turns that can be taken again.  A turn that does not fail takes a file to read, directories
to make and a page to write (`Turn`), and all of this is possible in every tree that has what
the turn left (`Turn.again`).  So the turns of a run that is through can be taken again, one
after the other, in a run that starts where it ended (`foldl_again`), and nothing new comes of
it.
-/

namespace Docdown

open FileTree Docdown.Path

/-! ## single turns -/

namespace DirectoryRun

variable {directory outDir file : String} {r r' w : DirectoryRun}

/-- A turn that does not fail, with all that it takes. -/
inductive Turn (directory outDir : String) (r : DirectoryRun) (file : String) :
    DirectoryRun → Prop
  /-- The file is no document. -/
  | skip {bytes : ByteArray} {p : Xml.Problem} :
    r.files.readFile (join [directory, file]) = .ok bytes →
    Xml.parse (Text.Utf8.text bytes) = .error p →
    Turn directory outDir r file (r.skip file p)
  /-- The page of the document is written. -/
  | write {bytes : ByteArray} {root : Xml.Element} {u v : FileTree} :
    r.files.readFile (join [directory, file]) = .ok bytes →
    Xml.parse (Text.Utf8.text bytes) = .ok root →
    r.files.makeDirectory (groupDirectory outDir root) = (u, none) →
    u.writeFile (outputPath outDir file root) (page root).toUTF8 = .ok v →
    Turn directory outDir r file
      { r with
        files := v
        log := r.log ++ [⟨.info, "Wrote " ++ outputPath outDir file root, []⟩]
        written := r.written ++ [outputPath outDir file root] }

theorem turn_convertFile (hr : r.failure? = none)
    (hnone : (r.convertFile directory outDir file).failure? = none) :
    Turn directory outDir r file (r.convertFile directory outDir file) := by
  unfold convertFile at hnone ⊢
  rw [hr, Option.isSome_none, if_neg Bool.false_ne_true] at hnone ⊢
  split at hnone
  · cases hnone
  · rename_i bytes hread
    split at hnone
    · rename_i p hparse
      exact .skip hread hparse
    · rename_i root hparse
      rcases hmake : r.files.makeDirectory (groupDirectory outDir root) with ⟨u, error?⟩
      cases error? with
      | some e =>
        simp only [convertDocument, makeDirectory, hmake, Option.map_some, Option.isSome_some,
          if_true] at hnone
        cases hnone
      | none =>
        simp only [convertDocument, makeDirectory, hmake, Option.map_none, Option.isSome_none,
          Bool.false_eq_true, if_false, pagePath_groupDirectory, write] at hnone ⊢
        split at hnone
        · cases hnone
        · rename_i v hwrite
          have hturn : Turn directory outDir r file _ := .write hread hparse hmake hwrite
          rw [hr] at hturn
          exact hturn

theorem Turn.convertFile_eq (h : Turn directory outDir r file r') (hr : r.failure? = none) :
    r.convertFile directory outDir file = r' := by
  cases h with
  | skip hread hparse => exact convertFile_of_problem directory outDir hr hread hparse
  | write hread hparse hmake hwrite =>
    simp only [convertFile, hr, hread, hparse, convertDocument, makeDirectory, hmake,
      Option.map_none, Option.isSome_none, Bool.false_eq_true, if_false, pagePath_groupDirectory,
      DirectoryRun.write, hwrite]
    rfl

theorem Turn.failure?_eq (h : Turn directory outDir r file r') : r'.failure? = r.failure? := by
  cases h <;> rfl

theorem Turn.within (h : Turn directory outDir r file r') : r.files.Within r'.files := by
  cases h with
  | skip _ _ => exact .refl _
  | write _ _ hmake hwrite =>
    exact (within_of_makeDirectory hmake).trans (within_of_writeFile hwrite)

theorem Turn.isTree (h : Turn directory outDir r file r') (hr : r.files.IsTree) :
    r'.files.IsTree := by
  cases h with
  | skip _ _ => exact hr
  | write _ _ hmake hwrite =>
    obtain ⟨front, hparts⟩ := exists_parts_outputPath outDir file _
    exact (hr.makeDirectory hmake).writeFile hparts (isSegment_stem_base file) hwrite

/-- A turn logs one entry, and none for debugging. -/
theorem Turn.exists_log (h : Turn directory outDir r file r') :
    ∃ e, r'.log = r.log ++ [e] ∧ e.level ≠ .debug := by
  cases h with
  | skip _ _ => exact ⟨_, rfl, nofun⟩
  | write _ _ _ _ => exact ⟨_, rfl, nofun⟩

/-- A turn can be taken again in a run whose tree has all that the turn left.  It adds
nothing to that tree if the file holds the same text. -/
theorem Turn.again (h : Turn directory outDir r file r') (hr : r.files.IsTree)
    (hwithin : r'.files.Within w.files)
    (hsame : ∀ bytes bytes', r.files.readFile (join [directory, file]) = .ok bytes →
      w.files.readFile (join [directory, file]) = .ok bytes' →
      Text.Utf8.text bytes' = Text.Utf8.text bytes) :
    ∃ w', Turn directory outDir w file w' ∧ w.files.Within w'.files ∧ w'.files.Within w.files := by
  have hread' : ∀ bytes, r.files.readFile (join [directory, file]) = .ok bytes →
      ∃ bytes', w.files.readFile (join [directory, file]) = .ok bytes' ∧
        Text.Utf8.text bytes' = Text.Utf8.text bytes := by
    intro bytes hread
    obtain ⟨bytes', hread'⟩ := readFile_of_within (h.within.trans hwithin) hread
    exact ⟨bytes', hread', hsame bytes bytes' hread hread'⟩
  cases h with
  | @skip bytes p hread hparse =>
    obtain ⟨bytes', hread', htext⟩ := hread' bytes hread
    rw [← htext] at hparse
    exact ⟨_, .skip hread' hparse, .refl _, .refl _⟩
  | @write bytes root u v hread hparse hmake hwrite =>
    obtain ⟨bytes', hread', htext⟩ := hread' bytes hread
    rw [← htext] at hparse
    have hmake' := makeDirectory_of_within hr hmake ((within_of_writeFile hwrite).trans hwithin)
    obtain ⟨place, hfile, hwrite'⟩ := writeFile_of_within hwrite hwithin (page root).toUTF8
    obtain ⟨content, hget⟩ := isSome_content?_iff.1 hfile
    exact ⟨_, .write hread' hparse hmake' hwrite',
      .put_file w.files (by rw [hget]; nofun) _, .of_put_file hfile _⟩

/-! ## turn by turn -/

/-- All turns of a run that does not fail. -/
theorem turns_foldl {found : List String} (hr : r.failure? = none)
    (hnone : (found.foldl (convertFile directory outDir) r).failure? = none) :
    r.files.Within (found.foldl (convertFile directory outDir) r).files ∧
      (r.files.IsTree → (found.foldl (convertFile directory outDir) r).files.IsTree) ∧
      ∃ es, (found.foldl (convertFile directory outDir) r).log = r.log ++ es ∧
        ∀ e ∈ es, e.level ≠ .debug := by
  induction found generalizing r with
  | nil => exact ⟨.refl _, fun h => h, [], (List.append_nil _).symm, nofun⟩
  | cons file rest ih =>
    rw [List.foldl_cons] at hnone ⊢
    have hnext := failure?_eq_none_of_foldl directory outDir hnone
    have hturn := turn_convertFile hr hnext
    obtain ⟨hwithin, htree, es, hlog, hlevels⟩ := ih hnext hnone
    obtain ⟨e, hentry, hlevel⟩ := hturn.exists_log
    refine ⟨hturn.within.trans hwithin, fun h => htree (hturn.isTree h), e :: es, ?_, ?_⟩
    · rw [hlog, hentry, List.append_assoc]
      rfl
    · exact List.forall_mem_cons.2 ⟨hlevel, hlevels⟩

/-- The turns of a run that is through can be taken again, in a run whose tree has all that
they left and in which the files hold what they held before. -/
theorem foldl_again {files other : FileTree} {done turns found : List String}
    (h : Effect files directory outDir done r) (h' : Effect other directory outDir done w)
    (hapart : Apart files directory outDir found) (hapart' : Apart other directory outDir found)
    (htext : ∀ f ∈ found, textIn other directory f = textIn files directory f)
    (hdone : ∀ f ∈ done, f ∈ found) (hturns : ∀ f ∈ turns, f ∈ found)
    (hr : r.failure? = none) (hw : w.failure? = none) (htree : r.files.IsTree)
    (hnone : (turns.foldl (convertFile directory outDir) r).failure? = none)
    (hwithin : (turns.foldl (convertFile directory outDir) r).files.Within w.files) :
    (turns.foldl (convertFile directory outDir) w).failure? = none ∧
      w.files.Within (turns.foldl (convertFile directory outDir) w).files ∧
      (turns.foldl (convertFile directory outDir) w).files.Within w.files := by
  induction turns generalizing done r w with
  | nil => exact ⟨hw, .refl _, .refl _⟩
  | cons file rest ih =>
    rw [List.foldl_cons] at hnone hwithin
    have hfile := hturns file List.mem_cons_self
    have hnext := failure?_eq_none_of_foldl directory outDir hnone
    have hturn := turn_convertFile hr hnext
    have hrest := (turns_foldl hnext hnone).1
    obtain ⟨w', hturn', hto, hback⟩ := hturn.again htree (hrest.trans hwithin)
      fun bytes bytes' hread hread' => by
        rw [← textIn_of_readFile hapart hdone hfile h hread,
          ← textIn_of_readFile hapart' hdone hfile h' hread', htext file hfile]
    have heq := hturn'.convertFile_eq hw
    have hw' := hturn'.failure?_eq.trans hw
    -- Both effects go on by the same file.
    have heffect := (h.step hapart hdone hfile (step_convertFile hr file)).resolve_left
      fun hfailed => hfailed.1 hnext
    have heffect' := (h'.step hapart' hdone hfile (step_convertFile hw file)).resolve_left
      fun hfailed => hfailed.1 (by rw [heq, hw'])
    rw [heq] at heffect'
    obtain ⟨hlast, hto', hback'⟩ := ih heffect.2 heffect'.2
      (List.forall_mem_append.2 ⟨hdone, List.forall_mem_singleton.2 hfile⟩)
      (fun f hf => hturns f (List.mem_cons_of_mem _ hf)) hnext hw' (hturn.isTree htree) hnone
      (hwithin.trans hto)
    rw [List.foldl_cons, heq]
    exact ⟨hlast, hto.trans hto', hback'.trans hback⟩

end DirectoryRun

end Docdown
