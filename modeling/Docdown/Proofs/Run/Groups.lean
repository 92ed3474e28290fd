import Docdown.Proofs.Run.Pages
import Mathlib.Data.List.Induction

/-!
# Docdown.Proofs.Run.Groups

Which pages have a directory of their group.  The directory of a group is one segment, or
empty if the group is (`Group.directory_eq_empty_iff`), and the group of a document is empty
just where the first scope of its compound is (`Group.HasEmptyScope`,
`Group.ofSource_eq_empty_iff`).  So a run puts each page one directory below the output
directory but those of documents with an empty scope, which it puts into the output directory
itself (`Conversion.IsPlaced`).

What a run has written is told for runs that fail as well (`exists_wrote`): a turn that fails
changes no file.
-/

namespace Docdown

open FileTree Docdown.Path

namespace Group

/-! ## empty groups -/

/-- Whether the first scope of a compound is the empty text: it is no namespace, and its name
begins with a scope separator but for blanks. -/
def HasEmptyScope (source? : Option Source) : Prop :=
  ∃ kind name rest, source? = some ⟨kind, name⟩ ∧ kind ≠ "namespace" ∧
    Text.trim name = "::" ++ rest

theorem firstScope?_eq_some_nil_iff {cs : List Char} :
    firstScope? cs = some [] ↔ ∃ rest, cs = ':' :: ':' :: rest := by
  unfold firstScope?
  split
  · exact iff_of_false nofun nofun
  · exact iff_of_true rfl ⟨_, rfl⟩
  · rename_i c cs hno
    refine iff_of_false ?_ ?_
    · cases firstScope? cs <;> nofun
    · rintro ⟨rest, h⟩
      obtain ⟨rfl, rfl⟩ := List.cons.inj h
      exact hno rest rfl rfl

theorem hasEmptyScope_some_iff {kind name : String} :
    HasEmptyScope (some ⟨kind, name⟩) ↔
      kind ≠ "namespace" ∧ firstScope? (Text.trim name).toList = some [] := by
  rw [firstScope?_eq_some_nil_iff]
  constructor
  · rintro ⟨_, _, rest, ⟨⟩, hkind, hname⟩
    exact ⟨hkind, rest.toList, by rw [hname, String.toList_append]; rfl⟩
  · rintro ⟨hkind, rest, hname⟩
    refine ⟨kind, name, String.ofList rest, rfl, hkind, ?_⟩
    rw [← String.toList_inj, hname]
    simp

/-- The group of a document is empty if and only if the first scope of its compound is. -/
theorem ofSource_eq_empty_iff {source? : Option Source} :
    ofSource source? = "" ↔ HasEmptyScope source? := by
  rcases source? with - | ⟨kind, name⟩
  · exact iff_of_false (by decide) nofun
  · rw [hasEmptyScope_some_iff]
    unfold ofSource
    dsimp only
    split
    · next h => exact iff_of_false h.2 fun hscope => hscope.1 h.1
    · next hno =>
      split
      · next scope hscope =>
        have hkind : kind ≠ "namespace" := by
          intro hkind
          have hname : Text.trim name = "" := Decidable.byContradiction fun hne => hno ⟨hkind, hne⟩
          rw [hname] at hscope
          cases hscope
        rw [hscope, Option.some.injEq, ← String.toList_inj, String.toList_ofList]
        exact (and_iff_right hkind).symm
      · next hscope =>
        rw [hscope]
        exact iff_of_false (by decide) nofun

/-- The name of a directory is empty only for the empty group. -/
theorem directory_eq_empty_iff {group : String} : directory group = "" ↔ group = "" := by
  refine ⟨fun h => ?_, by rintro rfl; rfl⟩
  unfold directory at h
  dsimp only at h
  split at h
  · exact absurd h (by decide)
  · rw [← String.toList_inj, String.toList_ofList] at h
    rw [← String.toList_inj]
    exact List.map_eq_nil_iff.1 h

theorem directory_ofDocument_eq_empty_iff {root : Xml.Element} :
    directory (ofDocument root) = "" ↔ HasEmptyScope (source? root) :=
  directory_eq_empty_iff.trans ofSource_eq_empty_iff

end Group

/-! ## conversions of a run -/

namespace Conversion

/-- Whether a run makes a conversion: the file has its turn, and holds the document then. -/
def IsMade (directory : String) (s : Config.Settings) (files : FileTree) (c : Conversion) :
    Prop :=
  ∃ r : DirectoryRun, r.ComesTo directory s files c.file ∧ r.conversion? directory c.file = some c

/-- Where the page of a conversion is put: one directory below the output directory, in that
of the group, or in the output directory itself if the scope of the document is empty. -/
structure IsPlaced (t : FileTree) (outDir : String) (c : Conversion) : Prop where
  isSegment_name : IsSegment c.name
  below : ¬Group.HasEmptyScope (Group.source? c.root) →
    IsSegment c.group ∧
      t.destination (c.path outDir) = t.destination outDir ++ [c.group, c.name]
  inside : Group.HasEmptyScope (Group.source? c.root) →
    t.destination (c.path outDir) = t.destination outDir ++ [c.name]

theorem isPlaced (t : FileTree) {outDir : String} (hout : outDir ≠ "") (c : Conversion) :
    c.IsPlaced t outDir where
  isSegment_name := isSegment_stem_base c.file
  below hscope := by
    have hgroup : c.group ≠ "" := mt Group.directory_ofDocument_eq_empty_iff.1 hscope
    refine ⟨Group.isSegment_directory hgroup, ?_⟩
    rw [destination_path t hout, List.filter_cons_of_pos (by simpa using hgroup)]
    rfl
  inside hscope := by
    have hgroup : c.group = "" := Group.directory_ofDocument_eq_empty_iff.2 hscope
    rw [destination_path t hout, hgroup]
    rfl

end Conversion

namespace DirectoryRun

variable {files : FileTree} {directory outDir file : String} {s : Config.Settings}
  {done : List Conversion} {r r' : DirectoryRun}

theorem file_of_conversion? {c : Conversion} (h : r.conversion? directory file = some c) :
    c.file = file := by
  simp only [conversion?, Option.bind_eq_bind, Option.bind_eq_some_iff] at h
  obtain ⟨_, -, _, -, ⟨⟩⟩ := h
  rfl

theorem ComesTo.outDir_ne_empty (h : r.ComesTo directory s files file) : s.outDir ≠ "" := by
  obtain ⟨before, after, -, rfl⟩ := h.turn
  exact outDir_ne_empty_of_begin (failure?_eq_none_of_foldl directory s.outDir h.failure?)

/-- A turn that fails has written nothing. -/
theorem Wrote.of_failure (h : Wrote files outDir done r) (hr : r.failure? = none)
    (hstep : Step directory outDir r file r') (hfailed : r'.failure? ≠ none) :
    Wrote files outDir done r' := by
  cases hstep with
  | fail hgrows =>
    exact ⟨h.written, fun place => (hgrows.content?_eq not_false).trans (h.content? place),
      hgrows.cwd_eq.trans h.cwd⟩
  | skip _ _ => exact absurd hr hfailed
  | write _ _ _ _ => exact absurd hr hfailed

/-- Any number of turns of a run write the pages of conversions that the run makes. -/
theorem exists_wrote_foldl {found turned : List String}
    (hfind : Glob.find files directory s.pattern = .ok found) (hturned : turned <+: found) :
    ∃ done, Wrote files s.outDir done
        (turned.foldl (convertFile directory s.outDir) (begin directory s files found)) ∧
      ∀ c ∈ done, c.IsMade directory s files := by
  induction turned using List.reverseRecOn with
  | nil => exact ⟨[], wrote_begin directory s files found, nofun⟩
  | append_singleton before file ih =>
    obtain ⟨done, hwrote, hmade⟩ := ih ((List.prefix_append _ _).trans hturned)
    rw [List.foldl_append, List.foldl_cons, List.foldl_nil]
    generalize hbefore :
      before.foldl (convertFile directory s.outDir) (begin directory s files found) = r at *
    by_cases hr : r.failure? = none
    · have hstep : Step directory s.outDir r file (r.convertFile directory s.outDir file) :=
        step_convertFile hr file
      by_cases hnone : (r.convertFile directory s.outDir file).failure? = none
      · refine ⟨_, hwrote.step hstep hnone, List.forall_mem_append.2 ⟨hmade, fun c hc => ?_⟩⟩
        have hc := Option.mem_toList.1 hc
        obtain rfl := file_of_conversion? hc
        obtain ⟨after, rfl⟩ := hturned
        rw [List.append_assoc, List.singleton_append] at hfind hbefore
        exact ⟨r, ⟨⟨before, after, hfind, hbefore⟩, hr⟩, hc⟩
      · exact ⟨done, hwrote.of_failure hr hstep hnone, hmade⟩
    · rw [convertFile_of_failure directory s.outDir hr]
      exact ⟨done, hwrote, hmade⟩

end DirectoryRun

/-- What a run has written when it is through or has failed are the pages of conversions that it
makes. -/
theorem exists_wrote (directory : String) (s : Config.Settings) (files : FileTree) :
    ∃ done, DirectoryRun.Wrote files s.outDir done (convertDirectory directory s files) ∧
      ∀ c ∈ done, c.IsMade directory s files := by
  cases hfind : Glob.find files directory s.pattern with
  | error e =>
    refine ⟨[], ?_, nofun⟩
    rw [convertDirectory, hfind]
    exact ⟨rfl, fun _ => rfl, rfl⟩
  | ok found =>
    rw [convertDirectory_of_find hfind]
    exact DirectoryRun.exists_wrote_foldl hfind List.prefix_rfl

/-- **Which pages have a directory of their group.**  The directory of a document's group never
has a separator in it and is never `.` or `..`.  It is empty if and only if the compound of the
document is no namespace and its name begins with a scope separator.  Whether a run over a
directory is through or fails, it has written the pages of the documents that files held at
their turn, and nothing else.  Each is one directory below the output directory but those of
documents with an empty directory, which are in the output directory itself. -/
theorem groupDirectoryRule (directory : String) (s : Config.Settings) (files : FileTree) :
    (∀ root : Xml.Element,
      '/' ∉ (Group.directory (Group.ofDocument root)).toList ∧
        '\\' ∉ (Group.directory (Group.ofDocument root)).toList ∧
        Group.directory (Group.ofDocument root) ≠ "." ∧
        Group.directory (Group.ofDocument root) ≠ ".." ∧
        (Group.directory (Group.ofDocument root) = "" ↔
          Group.HasEmptyScope (Group.source? root))) ∧
      ∃ done, DirectoryRun.Wrote files s.outDir done (convertDirectory directory s files) ∧
        ∀ c ∈ done, c.IsMade directory s files ∧ c.IsPlaced files s.outDir := by
  constructor
  · intro root
    obtain ⟨hhere, hback⟩ := Group.directory_ne_dots (Group.ofDocument root)
    exact ⟨Group.slash_notMem_directory _, Group.backslash_notMem_directory _, hhere, hback,
      Group.directory_ofDocument_eq_empty_iff⟩
  · obtain ⟨done, hwrote, hmade⟩ := exists_wrote directory s files
    refine ⟨done, hwrote, fun c hc => ⟨hmade c hc, ?_⟩⟩
    obtain ⟨r, hcomes, -⟩ := hmade c hc
    exact c.isPlaced files hcomes.outDir_ne_empty

/-- A directory with one file, whose document is a class with an empty scope. -/
def FileTree.scopeless : FileTree :=
  (FileTree.empty ["work"]).put ["work", "a.xml"] (.file
    ("<a><compounddef kind='class'><compoundname>::A</compoundname></compounddef></a>").toUTF8)

/-- The page of the document is put into the output directory itself. -/
theorem page_outside_groups :
    (convertDirectory "." { outDir := "out" } .scopeless).failure? = none ∧
      (convertDirectory "." { outDir := "out" } .scopeless).written = ["out/a.md"] ∧
      ((convertDirectory "." { outDir := "out" } .scopeless).files.content?
        ["work", "out", "a.md"]).isSome ∧
      (conversionsIn "." { outDir := "out" } .scopeless).map Conversion.group = [""] := by
  decide +kernel

end Docdown
