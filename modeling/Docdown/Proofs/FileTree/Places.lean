import Docdown.FileTree
import Docdown.Proofs.Path.Joining

/-!
# Docdown.Proofs.FileTree.Places

Which places an action on a path can change.  The place a path leads to
(`destination`) and the places it leads through (`Passes`) depend on its text and on
the working directory only; making a directory makes directories at the latter
(`grows_makeDirectory`), and writing a file puts it at the former
(`put_of_writeFile`).  `Grows` is what such actions do to a tree over time: nothing is
ever removed, and `Grows.change` says what can be told from the tree before and the
tree after.
-/

namespace Docdown.FileTree

open Docdown.Path

/-! ## where a path leads -/

/-- The place a path leads to, whatever there is. -/
def destination (t : FileTree) (path : String) : List String :=
  (parts path).foldl walk (t.start path)

/-- A path leads through a place, or to it. -/
def Passes (t : FileTree) (path : String) (place : List String) : Prop :=
  ∃ ps, ps <+: parts path ∧ place = ps.foldl walk (t.start path)

theorem start_congr {t u : FileTree} (h : t.cwd = u.cwd) (path : String) :
    t.start path = u.start path := by
  rw [start, start, h]

theorem destination_congr {t u : FileTree} (h : t.cwd = u.cwd) (path : String) :
    t.destination path = u.destination path := by
  rw [destination, destination, start_congr h]

theorem Passes.congr {t u : FileTree} (h : t.cwd = u.cwd) {path : String} {place : List String}
    (hp : t.Passes path place) : u.Passes path place := by
  obtain ⟨ps, hps, rfl⟩ := hp
  exact ⟨ps, hps, by rw [start_congr h]⟩

/-- Nothing is above the root. -/
theorem walk_start_back (t : FileTree) {path : String} (h : isAbsolute path = true) :
    walk (t.start path) ".." = t.start path := by
  rw [start, h]
  rfl

theorem start_join (t : FileTree) {a n : String} (ha : a ≠ "") (hn : n ≠ "") :
    t.start (join [a, n]) = t.start a := by
  rw [start, isAbsolute_join ha hn, start]

/-- A segment below a path leads to the place below where the path leads. -/
theorem destination_join (t : FileTree) {a n : String} (ha : a ≠ "") (hn : IsSegment n) :
    t.destination (join [a, n]) = t.destination a ++ [n] := by
  rw [destination, start_join t ha hn.ne_empty, foldl_parts_join ha hn (t.walk_start_back),
    destination]

theorem start_normalize (t : FileTree) (path : String) :
    t.start (normalize path) = t.start path := by
  rw [start, isAbsolute_normalize, start]

theorem destination_normalize (t : FileTree) (path : String) :
    t.destination (normalize path) = t.destination path := by
  rw [destination, start_normalize, foldl_parts_normalize heeds_walk t.walk_start_back, destination]

/-- A path put after another leads on from where that one leads, even if it starts at the
root. -/
theorem destination_join_of_ne_empty (t : FileTree) {a q : String} (ha : a ≠ "") (hq : q ≠ "") :
    t.destination (join [a, q]) = (parts q).foldl walk (t.destination a) := by
  have hstart : t.start (a ++ "/" ++ q) = t.start a := by
    rw [start, isAbsolute_append_slash ha, start]
  rw [join_pair ha hq, destination_normalize, destination, hstart, parts_append_slash,
    List.foldl_append, destination]

theorem destination_join_empty (t : FileTree) {q : String} (hq : q ≠ "") :
    t.destination (join ["", q]) = t.destination q := by
  have hjoin : join ["", q] = normalize q := by simp [join, hq]
  rw [hjoin, destination_normalize]

/-- A relative path leads on from where another leads, even if that one is empty. -/
theorem destination_join_append (t : FileTree) (a : String) {q : String} (hq : q ≠ "")
    (hrelative : isAbsolute q = false) :
    t.destination (join [a, q]) = (parts q).foldl walk (t.destination a) := by
  by_cases ha : a = ""
  · have hstart : t.start q = t.destination "" := by
      rw [start, hrelative]
      rfl
    rw [ha, t.destination_join_empty hq, destination, hstart]
  · exact t.destination_join_of_ne_empty ha hq

theorem Passes.of_normalize {t : FileTree} {path : String} {place : List String}
    (h : t.Passes (normalize path) place) : t.Passes path place := by
  obtain ⟨ps, hps, rfl⟩ := h
  rw [start_normalize]
  exact exists_prefix_parts_of_normalize heeds_walk t.walk_start_back hps

theorem Passes.of_join {t : FileTree} {a n : String} (ha : a ≠ "") (hn : IsSegment n)
    {place : List String} (h : t.Passes (join [a, n]) place) :
    t.Passes a place ∨ place = t.destination a ++ [n] := by
  obtain ⟨ps, hps, rfl⟩ := h
  rw [start_join t ha hn.ne_empty]
  exact exists_prefix_parts_of_join ha hn t.walk_start_back hps

/-! ## following a path -/

/-- What is found by following a path is found where it leads. -/
theorem eq_foldl_of_follow {t : FileTree} {place place' ps : List String}
    (h : t.follow place ps = .ok place') : place' = ps.foldl walk place := by
  induction ps generalizing place with
  | nil => exact (Except.ok.inj h).symm
  | cons part rest ih =>
    rw [List.foldl_cons]
    unfold follow at h
    split at h
    · cases h
    · cases h
    · split at h
      · rename_i hidle
        rw [walk_of_idle hidle]
        exact ih h
      · rename_i hidle
        split at h
        · rename_i hback
          rw [hback, walk_back]
          exact ih h
        · rename_i hback
          rw [walk_of_isName (isName_of_not hidle hback)]
          split at h
          · cases h
          · split at h
            · exact ih h
            · cases h

/-- What a file holds at a place. -/
def content? (t : FileTree) (place : List String) : Option ByteArray :=
  match t.get? place with
  | some (.file content) => some content
  | _ => none

/-- What is read is what the file holds where the path leads. -/
theorem content?_of_readFile {t : FileTree} {path : String} {bytes : ByteArray}
    (h : t.readFile path = .ok bytes) : t.content? (t.destination path) = some bytes := by
  unfold readFile at h
  split at h
  · cases h
  · rename_i place hlocate
    have hplace : place = t.destination path := by
      unfold locate at hlocate
      split at hlocate
      · cases hlocate
      · exact eq_foldl_of_follow hlocate
    rw [content?, ← hplace]
    split at h
    · rename_i content hget
      rw [hget]
      exact congrArg some (Except.ok.inj h)
    · cases h
    · cases h

/-- What can be read as a file is one. -/
theorem stat_of_readFile {t : FileTree} {path : String} {bytes : ByteArray}
    (h : t.readFile path = .ok bytes) : t.stat path = .ok (.file bytes) := by
  unfold readFile at h
  unfold stat
  cases hlocate : t.locate path with
  | error o => rw [hlocate] at h; cases h
  | ok place =>
    rw [hlocate] at h
    dsimp only at h ⊢
    split at h
    · rename_i content hget
      rw [hget]
      cases h
      rfl
    · cases h
    · cases h

/-- What is there as a file can be read. -/
theorem readFile_of_stat {t : FileTree} {path : String} {bytes : ByteArray}
    (h : t.stat path = .ok (.file bytes)) : t.readFile path = .ok bytes := by
  unfold stat at h
  unfold readFile
  cases hlocate : t.locate path with
  | error o => rw [hlocate] at h; cases h
  | ok place =>
    rw [hlocate] at h
    dsimp only at h ⊢
    split at h
    · rename_i i hget
      rw [hget]
      cases h
      rfl
    · cases h

/-! ## growing -/

/-- A tree grows by new directories at some places and by files at others, where
they may replace files. -/
inductive Grows (D F : List String → Prop) (t : FileTree) : FileTree → Prop
  | refl : Grows D F t t
  | directory {u : FileTree} {place : List String} : Grows D F t u → D place →
    u.get? place = none → Grows D F t (u.put place .directory)
  | file {u : FileTree} {place : List String} {content : ByteArray} : Grows D F t u → F place →
    u.get? place ≠ some .directory → Grows D F t (u.put place (.file content))

namespace Grows

variable {D F D' F' : List String → Prop} {t u v : FileTree}

theorem trans (h : Grows D F t u) (h' : Grows D F u v) : Grows D F t v := by
  induction h' with
  | refl => exact h
  | directory _ hd hnone ih => exact ih.directory hd hnone
  | file _ hf hget ih => exact ih.file hf hget

theorem mono (hD : ∀ place, D place → D' place) (hF : ∀ place, F place → F' place)
    (h : Grows D F t u) : Grows D' F' t u := by
  induction h with
  | refl => exact .refl
  | directory _ hd hnone ih => exact ih.directory (hD _ hd) hnone
  | file _ hf hget ih => exact ih.file (hF _ hf) hget

theorem cwd_eq (h : Grows D F t u) : u.cwd = t.cwd := by
  induction h with
  | refl => rfl
  | directory _ _ _ ih => exact ih
  | file _ _ _ ih => exact ih

theorem rootFirst_eq (h : Grows D F t u) : u.rootFirst = t.rootFirst := by
  induction h with
  | refl => rfl
  | directory _ _ _ ih => exact ih
  | file _ _ _ ih => exact ih

/-- What is at a place after a tree has grown: what was there, a directory where there
was nothing, or a file where there was no directory. -/
theorem change (h : Grows D F t u) (place : List String) :
    u.get? place = t.get? place ∨
      (D place ∧ t.get? place = none ∧ u.get? place = some .directory) ∨
      (F place ∧ t.get? place ≠ some .directory ∧
        ∃ content, u.get? place = some (.file content)) := by
  induction h with
  | refl => exact .inl rfl
  | @directory u p _ hd hnone ih =>
    by_cases hp : place = p
    · subst hp
      have hroot : place ≠ [] := by rintro rfl; simp [get?] at hnone
      rcases ih with ih | ⟨-, -, ih⟩ | ⟨-, -, content, ih⟩
      · exact .inr (.inl ⟨hd, ih.symm.trans hnone, get?_put_self _ hroot _⟩)
      · rw [hnone] at ih; cases ih
      · rw [hnone] at ih; cases ih
    · rw [get?_put_of_ne _ hp]
      exact ih
  | @file u p content _ hf hget ih =>
    by_cases hp : place = p
    · subst hp
      have hroot : place ≠ [] := by rintro rfl; simp [get?] at hget
      have hfile := get?_put_self u hroot (.file content)
      rcases ih with ih | ⟨-, -, ih⟩ | ⟨-, hfree, -⟩
      · exact .inr (.inr ⟨hf, ih ▸ hget, content, hfile⟩)
      · exact absurd ih hget
      · exact .inr (.inr ⟨hf, hfree, content, hfile⟩)
    · rw [get?_put_of_ne _ hp]
      exact ih

/-- Where no file is put the files stay as they were. -/
theorem content?_eq (h : Grows D F t u) {place : List String} (hF : ¬F place) :
    u.content? place = t.content? place := by
  unfold content?
  rcases h.change place with h | ⟨-, hnone, hdir⟩ | ⟨hf, -⟩
  · rw [h]
  · rw [hnone, hdir]
  · exact absurd hf hF

end Grows

/-! ## making directories and files -/

theorem grows_makeAlong {F : List String → Prop} (t : FileTree) (place ps : List String) :
    Grows (fun p => ∃ qs, qs <+: ps ∧ p = qs.foldl walk place) F t (t.makeAlong place ps).1 := by
  induction ps generalizing t place with
  | nil => unfold makeAlong; split <;> exact .refl
  | cons part rest ih =>
    -- The rest of the path leads through places that the whole leads through.
    have hrest : ∀ (u : FileTree),
        Grows (fun p => ∃ qs, qs <+: part :: rest ∧ p = qs.foldl walk place) F u
          (u.makeAlong (walk place part) rest).1 := fun u =>
      (ih u (walk place part)).mono
        (fun p ⟨qs, hqs, hp⟩ => ⟨part :: qs, by simpa using hqs, hp⟩) fun _ h => h
    have hpart : ∃ qs, qs <+: part :: rest ∧ walk place part = qs.foldl walk place :=
      ⟨[part], by simp, rfl⟩
    unfold makeAlong
    split
    · exact .refl
    · split
      · rename_i hidle
        rw [walk_of_idle hidle] at hrest
        exact hrest t
      · rename_i hidle
        split
        · rename_i hback
          rw [hback, walk_back] at hrest
          rw [hback]
          exact hrest t
        · rename_i hback
          rw [walk_of_isName (isName_of_not hidle hback)] at hrest hpart
          split
          · exact .refl
          · split
            · exact hrest t
            · rename_i hsome
              have hnone : t.get? (place ++ [part]) = none := by simpa using hsome
              exact (Grows.refl.directory hpart hnone).trans (hrest _)

/-- Making a directory makes directories at places that its path leads through. -/
theorem grows_makeDirectory {F : List String → Prop} (t : FileTree) (path : String) :
    Grows (t.Passes path) F t (t.makeDirectory path).1 := by
  unfold makeDirectory
  split
  · exact .refl
  · exact grows_makeAlong t (t.start path) (parts path)

/-- A file is written where its path leads, and not over a directory. -/
theorem put_of_writeFile {t u : FileTree} {path name : String} {front : List String}
    {content : ByteArray} (hparts : parts path = front ++ [name]) (hname : IsName name)
    (h : t.writeFile path content = .ok u) :
    t.get? (t.destination path) ≠ some .directory ∧
      u = t.put (t.destination path) (.file content) := by
  unfold writeFile at h
  split at h
  · cases h
  · rename_i place hlocate
    have hu := (Except.ok.inj h).symm
    unfold locateNew at hlocate
    rw [hparts] at hlocate
    dsimp only at hlocate
    rw [List.dropLast_concat, List.getLast?_concat, Option.getD_some] at hlocate
    split at hlocate
    · cases hlocate
    · rename_i above habove
      have hplace : t.destination path = above ++ [name] := by
        rw [destination, hparts, List.foldl_append, ← eq_foldl_of_follow habove]
        exact walk_of_isName hname above
      split at hlocate
      · split at hlocate
        · cases hlocate
        · split at hlocate
          · cases hlocate
          · rename_i hfree
            cases hlocate
            rw [hplace]
            exact ⟨hfree, hu⟩
      · cases hlocate

end Docdown.FileTree
