import Docdown.Glob.Find
import Docdown.Proofs.FileTree.Places
import Docdown.Proofs.Text.Order
import Mathlib.Data.List.Nodup

/-!
# Docdown.Proofs.Glob.Found

What a pattern selects.  Steps lead to files only (`isFile_of_mem_followSteps`), the
names are in order (`pairwise_of_find`), and the path by which a file is named leads to
that file, from the directory or from the root (`destination_nameOf`).  In a tree whose
places are made of segments, as those of a disk are (`IsProper`), a name therefore stands
for one file: each is found once (`nodup_of_find`), and its path leads to it
(`isSome_content?_of_mem_find`).  Put after the directory, the path of a file that is found
from the root leads below the directory instead (`destination_join_absoluteName`).
-/

namespace Docdown

open Docdown.Path

/-- The places of a tree are made of segments. -/
structure FileTree.IsProper (t : FileTree) : Prop where
  places : ∀ place, t.get? place ≠ none → ∀ x ∈ place, IsSegment x
  cwd : ∀ x ∈ t.cwd, IsSegment x

namespace Glob

open FileTree

/-! ## files only -/

theorem isFile_eq (t : FileTree) (p : List String) : isFile t p = (t.content? p).isSome := by
  unfold isFile content?
  cases t.get? p with
  | none => rfl
  | some i => cases i <;> rfl

theorem isFile_of_mem_filesIn {t : FileTree} {place q : List String} {p : String → Bool}
    (h : q ∈ filesIn t place p) : isFile t q = true :=
  (List.mem_filter.1 h).2

/-- Steps lead to files only. -/
theorem isFile_of_mem_followSteps {t : FileTree} {ss : List Step} {place q : List String}
    (h : q ∈ followSteps t ss place) : isFile t q = true := by
  induction ss, place using followSteps.induct t with
  | case1 place => rw [followSteps] at h; cases h
  | case2 place rest => rw [followSteps] at h; cases h
  | case3 rest place ih => rw [followSteps] at h; exact ih h
  | case4 rest place ih => rw [followSteps] at h; exact ih h
  | case5 s place => rw [followSteps] at h; exact isFile_of_mem_filesIn h
  | case6 name rest place hrest ih => rw [followSteps] at h; exact ih h; exact hrest
  | case7 s rest place hrest hs ih =>
    rw [followSteps] at h
    · obtain ⟨n, -, hn⟩ := List.mem_flatMap.1 h
      split at hn
      · exact ih n hn
      · cases hn
    · exact hrest
    · exact hs
  | case8 place hfile =>
    rw [followSteps, if_pos hfile, List.mem_singleton] at h
    rw [h, hfile]
  | case9 place hfile =>
    rw [followSteps, if_neg hfile] at h
    obtain ⟨d, -, hd⟩ := List.mem_flatMap.1 h
    exact isFile_of_mem_filesIn hd
  | case10 rest place hrest ih =>
    rw [followSteps] at h
    · obtain ⟨d, -, hd⟩ := List.mem_flatMap.1 h
      split at hd
      · exact ih d hd
      · cases hd
    · exact hrest

/-! ## relative paths -/

theorem foldl_walk_names (place : List String) {names : List String} (h : ∀ x ∈ names, IsName x) :
    names.foldl walk place = place ++ names := by
  induction names generalizing place with
  | nil => rw [List.append_nil]; rfl
  | cons n names ih =>
    rw [List.foldl_cons, walk_of_isName (h n List.mem_cons_self),
      ih _ fun x hx => h x (List.mem_cons_of_mem _ hx), List.append_assoc]
    rfl

theorem foldl_walk_replicate (place : List String) (n : Nat) :
    (List.replicate n "..").foldl walk place = place.take (place.length - n) := by
  induction n generalizing place with
  | zero => rw [Nat.sub_zero, List.take_length]; rfl
  | succ n ih =>
    rw [List.replicate_succ, List.foldl_cons, walk_back, ih, List.dropLast_eq_take, List.take_take,
      List.length_take]
    congr 1
    omega

/-- Up from one place and down to another. -/
theorem foldl_walk_across (front place : List String) {target : List String}
    (h : ∀ x ∈ target, IsName x) :
    ((place.map fun _ => "..") ++ target).foldl walk (front ++ place) = front ++ target := by
  have hup : (place.map fun _ => "..").foldl walk (front ++ place) = front := by
    rw [List.map_const', foldl_walk_replicate, List.length_append, Nat.add_sub_cancel,
      List.take_left]
  rw [List.foldl_append, hup, foldl_walk_names front h]

/-- The path from one place to another leads there. -/
theorem foldl_walk_relative (front : List String) {place target : List String}
    (h : ∀ x ∈ target, IsName x) :
    (relative place target).foldl walk (front ++ place) = front ++ target := by
  induction place, target using relative.induct generalizing front with
  | case1 as b bs ih =>
    have hrest := ih (front ++ [b]) fun x hx => h x (List.mem_cons_of_mem _ hx)
    rw [List.append_assoc, List.append_assoc] at hrest
    rw [relative, if_pos rfl]
    exact hrest
  | case2 a as b bs hab =>
    rw [relative, if_neg hab]
    exact foldl_walk_across front (a :: as) h
  | case3 as bs hnone =>
    rw [relative]
    · exact foldl_walk_across front as h
    · exact hnone

theorem mem_relative {place target : List String} {x : String} (h : x ∈ relative place target) :
    x = ".." ∨ x ∈ target := by
  induction place, target using relative.induct with
  | case1 as b bs ih =>
    rw [relative, if_pos rfl] at h
    exact (ih h).imp_right fun hx => List.mem_cons_of_mem _ hx
  | case2 a as b bs hab =>
    rw [relative, if_neg hab, List.mem_append, List.mem_map] at h
    exact h.imp_left fun ⟨_, _, e⟩ => e.symm
  | case3 as bs hnone =>
    rw [relative, List.mem_append, List.mem_map] at h
    · exact h.imp_left fun ⟨_, _, e⟩ => e.symm
    · exact hnone

theorem relative_ne_nil {place target : List String} (h : place ≠ target) :
    relative place target ≠ [] := by
  induction place, target using relative.induct with
  | case1 as b bs ih =>
    rw [relative, if_pos rfl]
    exact ih fun e => h (by rw [e])
  | case2 a as b bs hab =>
    rw [relative, if_neg hab]
    simp
  | case3 as bs hnone =>
    rw [relative]
    · intro e
      obtain ⟨has, hbs⟩ := List.append_eq_nil_iff.1 e
      exact h (by rw [List.map_eq_nil_iff.1 has, hbs])
    · exact hnone

/-- A relative path is made of names and two dots. -/
theorem ne_empty_of_mem_relative {place target : List String} (h : ∀ x ∈ target, IsSegment x)
    {x : String} (hx : x ∈ relative place target) : x ≠ "" ∧ '/' ∉ x.toList := by
  rcases mem_relative hx with rfl | hx
  · decide
  · exact ⟨(h x hx).ne_empty, (h x hx).slash_notMem⟩

/-- The parts of the path that leads from one place to another. -/
theorem parts_relative {place target : List String} (hne : place ≠ target)
    (h : ∀ x ∈ target, IsSegment x) :
    parts ("/".intercalate (relative place target)) = relative place target :=
  parts_intercalate (relative_ne_nil hne) fun _ hx => (ne_empty_of_mem_relative h hx).2

/-- The path from the root to a place. -/
theorem parts_absoluteName {p : List String} (hne : p ≠ []) (h : ∀ x ∈ p, IsSegment x) :
    parts (absoluteName p) = "" :: p := by
  have hname : absoluteName p = "" ++ "/" ++ "/".intercalate p := by simp [absoluteName]
  rw [hname, parts_append_slash, parts_intercalate hne fun x hx => (h x hx).slash_notMem]
  rfl

theorem isAbsolute_absoluteName (p : List String) : isAbsolute (absoluteName p) = true := by
  simp [isAbsolute, absoluteName]

theorem absoluteName_ne_empty (p : List String) : absoluteName p ≠ "" := by
  simp [absoluteName]

theorem foldl_walk_parts_absoluteName (place : List String) {p : List String} (hne : p ≠ [])
    (h : ∀ x ∈ p, IsSegment x) : (parts (absoluteName p)).foldl walk place = place ++ p := by
  rw [parts_absoluteName hne h, List.foldl_cons, walk_of_idle (.inl rfl),
    foldl_walk_names place fun x hx => (h x hx).isName]

/-! ## what is found -/

theorem nodup_eraseDups {α : Type} [BEq α] [LawfulBEq α] (xs : List α) : xs.eraseDups.Nodup := by
  match xs with
  | [] => exact List.nodup_nil
  | x :: xs =>
    rw [List.eraseDups_cons, List.nodup_cons, List.mem_eraseDups]
    exact ⟨by simp, nodup_eraseDups _⟩
termination_by xs.length
decreasing_by exact Nat.lt_succ_of_le (List.length_filter_le _ _)

section Find

variable {t : FileTree} {directory pattern : String} {rs : List Route} {p : List String}
  {found : List String}

theorem mem_selected : p ∈ selected t directory rs ↔ ∃ r ∈ rs, p ∈ r.files t directory := by
  rw [selected, List.mem_eraseDups, List.mem_flatMap]

theorem nodup_selected (t : FileTree) (directory : String) (rs : List Route) :
    (selected t directory rs).Nodup :=
  nodup_eraseDups _

theorem exists_followSteps_of_mem_files {r : Route} (h : p ∈ r.files t directory) :
    ∃ place, p ∈ followSteps t r.steps place := by
  unfold Route.files at h
  split at h
  · exact ⟨[], h⟩
  · split at h
    · cases h
    · exact ⟨_, h⟩

/-- Only files are selected. -/
theorem isFile_of_mem_selected (h : p ∈ selected t directory rs) : isFile t p = true := by
  obtain ⟨r, -, hp⟩ := mem_selected.1 h
  obtain ⟨place, hq⟩ := exists_followSteps_of_mem_files hp
  exact isFile_of_mem_followSteps hq

/-- The places of the files that are found are made of segments. -/
theorem isSegment_of_mem_selected (ht : t.IsProper) (h : p ∈ selected t directory rs) :
    p ≠ [] ∧ ∀ x ∈ p, IsSegment x := by
  have hfile := isFile_of_mem_selected h
  refine ⟨fun e => ?_, ht.places p fun e => ?_⟩
  · rw [e] at hfile
    cases hfile
  · rw [isFile, e] at hfile
    cases hfile

/-- What is found is what is selected, in the order of names. -/
theorem find_of_perm (listed : List String)
    (hlisted : (routes pattern).toOption.map (fun rs =>
      (selected t directory rs).map (nameOf t directory rs)) = some listed)
    (hperm : listed.Perm found) (hsorted : found.Pairwise fun f g => Text.nameLE f g = true) :
    find t directory pattern = .ok found := by
  unfold find
  cases hroutes : routes pattern with
  | error r => rw [hroutes] at hlisted; cases hlisted
  | ok rs =>
    rw [hroutes] at hlisted
    have hnames := Option.some.inj hlisted
    dsimp only at hnames
    rw [Except.map, hnames, Text.mergeSort_nameLE_of_perm hperm hsorted]

/-- A pattern that starts at the root is followed even where there is no directory. -/
example : find ((FileTree.empty ["work"]).put ["work", "a.xml"] (.file .empty)) "in"
    "{/work,.}/*.xml" = .ok ["/work/a.xml"] :=
  find_of_perm ["/work/a.xml"] (by decide +kernel) (.refl _) (by decide)

theorem find_eq_ok (h : find t directory pattern = .ok found) :
    ∃ rs, routes pattern = .ok rs ∧
      found = ((selected t directory rs).map (nameOf t directory rs)).mergeSort Text.nameLE := by
  unfold find at h
  cases hroutes : routes pattern with
  | error e => rw [hroutes] at h; cases h
  | ok rs => rw [hroutes] at h; exact ⟨rs, rfl, (Except.ok.inj h).symm⟩

theorem pairwise_of_find (h : find t directory pattern = .ok found) :
    found.Pairwise fun f g => Text.nameLE f g = true := by
  obtain ⟨rs, -, rfl⟩ := find_eq_ok h
  exact Text.pairwise_mergeSort_nameLE _

/-- A name that is found is that of a file that is selected. -/
theorem exists_nameOf_of_mem_find (h : find t directory pattern = .ok found) {f : String}
    (hf : f ∈ found) :
    ∃ rs p, routes pattern = .ok rs ∧ p ∈ selected t directory rs ∧
      f = nameOf t directory rs p := by
  obtain ⟨rs, hroutes, rfl⟩ := find_eq_ok h
  obtain ⟨p, hp, rfl⟩ := List.mem_map.1 ((List.mergeSort_perm _ _).mem_iff.1 hf)
  exact ⟨rs, p, hroutes, hp, rfl⟩

/-! ## where names lead -/

/-- A pattern is followed from where the path of the directory leads. -/
theorem origin_eq_destination (ht : t.IsProper) (directory : String) :
    origin t directory = t.destination directory := by
  have hnames : ∀ x ∈ origin t directory, IsName x := fun x hx => mem_reduce_true hx
  have hstart : ∀ x ∈ t.start directory, IsName x := by
    intro x hx
    rw [start] at hx
    split at hx
    · cases hx
    · exact (ht.cwd x hx).isName
  have horigin : (origin t directory).foldl walk [] =
      (t.start directory ++ parts directory).foldl walk [] :=
    foldl_reduce heeds_walk (fun _ => rfl) _
  rw [List.foldl_append, foldl_walk_names [] hstart, List.nil_append] at horigin
  rw [destination, ← horigin]
  exact (foldl_walk_names [] hnames).symm

/-- The relative path of a place from a directory leads there. -/
theorem destination_join_relative (ht : t.IsProper) (hne : origin t directory ≠ p)
    (hp : ∀ x ∈ p, IsSegment x) :
    isAbsolute ("/".intercalate (relative (origin t directory) p)) = false ∧
      t.destination (join [directory, "/".intercalate (relative (origin t directory) p)]) = p := by
  obtain ⟨x, xs, hxs⟩ := List.exists_cons_of_ne_nil (relative_ne_nil hne)
  have hx := ne_empty_of_mem_relative hp (by rw [hxs]; exact List.mem_cons_self)
  have hempty : "/".intercalate (relative (origin t directory) p) ≠ "" := fun e =>
    relative_ne_nil hne (intercalate_eq_empty (fun _ h => (ne_empty_of_mem_relative hp h).1) e)
  have hrelative : isAbsolute ("/".intercalate (relative (origin t directory) p)) = false := by
    rw [hxs]
    exact isAbsolute_intercalate hx.1 hx.2 xs
  refine ⟨hrelative, ?_⟩
  rw [destination_join_append t directory hempty hrelative, parts_relative hne hp,
    ← origin_eq_destination ht]
  exact foldl_walk_relative [] fun x hx => (hp x hx).isName

/-- A file is named from the root, or by a path from the directory that leads there. -/
theorem nameOf_cases (ht : t.IsProper) (directory : String) (rs : List Route)
    (hp : ∀ x ∈ p, IsSegment x) :
    nameOf t directory rs p = absoluteName p ∨
      isAbsolute (nameOf t directory rs p) = false ∧
        t.destination (join [directory, nameOf t directory rs p]) = p := by
  unfold nameOf
  split
  · exact .inl rfl
  · unfold nameFrom
    split
    · rename_i hsame
      have hhere : isAbsolute "." = false := by decide
      refine .inr ⟨hhere, ?_⟩
      rw [destination_join_append t directory (by decide) hhere, hsame,
        origin_eq_destination ht]
      rfl
    · rename_i hother
      split
      · exact .inr (destination_join_relative ht (fun e => hother e.symm) hp)
      · exact .inl rfl

/-- The path that the name of a file stands for, seen from a directory. -/
def pathFrom (directory name : String) : String :=
  if isAbsolute name then name else join [directory, name]

/-- The name of a file stands for the path of the file. -/
theorem destination_nameOf (ht : t.IsProper) (directory : String) (rs : List Route)
    (hne : p ≠ []) (hp : ∀ x ∈ p, IsSegment x) :
    t.destination (pathFrom directory (nameOf t directory rs p)) = p := by
  rcases nameOf_cases ht directory rs hp with hname | ⟨hrelative, hleads⟩
  · rw [pathFrom, hname, isAbsolute_absoluteName, if_pos rfl, destination, start,
      isAbsolute_absoluteName, if_pos rfl]
    exact foldl_walk_parts_absoluteName [] hne hp
  · rwa [pathFrom, hrelative, if_neg Bool.false_ne_true]

/-- A name from the root, put after a directory, leads below the directory. -/
theorem destination_join_absoluteName (t : FileTree) (hdirectory : directory ≠ "") (hne : p ≠ [])
    (hp : ∀ x ∈ p, IsSegment x) :
    t.destination (join [directory, absoluteName p]) = t.destination directory ++ p := by
  rw [t.destination_join_of_ne_empty hdirectory (absoluteName_ne_empty p)]
  exact foldl_walk_parts_absoluteName _ hne hp

/-- Wherever the path of a file leads after a directory, it ends in the place of the file. -/
theorem suffix_destination_join_nameOf (ht : t.IsProper) (directory : String) (rs : List Route)
    (hne : p ≠ []) (hp : ∀ x ∈ p, IsSegment x) :
    p <:+ t.destination (join [directory, nameOf t directory rs p]) := by
  rcases nameOf_cases ht directory rs hp with hname | ⟨-, hleads⟩
  · rw [hname]
    by_cases hdirectory : directory = ""
    · rw [hdirectory, t.destination_join_empty (absoluteName_ne_empty p), destination,
        foldl_walk_parts_absoluteName _ hne hp]
      exact List.suffix_append _ _
    · rw [destination_join_absoluteName t hdirectory hne hp]
      exact List.suffix_append _ _
  · exact ⟨[], by rw [hleads, List.nil_append]⟩

/-- Each file is found once. -/
theorem nodup_of_find (ht : t.IsProper) (h : find t directory pattern = .ok found) :
    found.Nodup := by
  obtain ⟨rs, -, rfl⟩ := find_eq_ok h
  rw [(List.mergeSort_perm _ _).nodup_iff]
  refine List.Nodup.map_on (fun p hp q hq hpq => ?_) (nodup_selected t directory rs)
  -- A name leads back to its file.
  obtain ⟨hpne, hpsegments⟩ := isSegment_of_mem_selected ht hp
  obtain ⟨hqne, hqsegments⟩ := isSegment_of_mem_selected ht hq
  rw [← destination_nameOf ht directory rs hpne hpsegments, hpq,
    destination_nameOf ht directory rs hqne hqsegments]

/-- The path of a file that is found leads to a file. -/
theorem isSome_content?_of_mem_find (ht : t.IsProper) (h : find t directory pattern = .ok found)
    {file : String} (hfile : file ∈ found) :
    (t.content? (t.destination (pathFrom directory file))).isSome := by
  obtain ⟨rs, p, -, hp, rfl⟩ := exists_nameOf_of_mem_find h hfile
  obtain ⟨hne, hsegments⟩ := isSegment_of_mem_selected ht hp
  rw [destination_nameOf ht directory rs hne hsegments, ← isFile_eq]
  exact isFile_of_mem_selected hp

/-- A file that is found from the root is not read there, but below the directory. -/
theorem exists_absoluteName_of_mem_find (ht : t.IsProper)
    (h : find t directory pattern = .ok found) (hdirectory : directory ≠ "") {file : String}
    (hfile : file ∈ found) (habsolute : isAbsolute file = true) :
    ∃ p, file = absoluteName p ∧ (t.content? p).isSome ∧
      t.destination (join [directory, file]) = t.destination directory ++ p := by
  obtain ⟨rs, p, -, hp, rfl⟩ := exists_nameOf_of_mem_find h hfile
  obtain ⟨hne, hsegments⟩ := isSegment_of_mem_selected ht hp
  obtain hname | ⟨hrelative, -⟩ := nameOf_cases ht directory rs hsegments
  · have hcontent := isFile_of_mem_selected hp
    rw [isFile_eq] at hcontent
    refine ⟨p, hname, hcontent, ?_⟩
    rw [hname]
    exact destination_join_absoluteName t hdirectory hne hsegments
  · rw [hrelative] at habsolute
    cases habsolute

end Find

end Glob

end Docdown
