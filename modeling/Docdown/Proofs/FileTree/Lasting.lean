import Docdown.Proofs.Glob.Found
import Mathlib.Data.List.Induction

/-!
# Docdown.Proofs.FileTree.Lasting

What can be done with a path can be done again.  Whether a part of a path leads on is all
that a step along the path depends on (`LeadsOn`).  As a tree grows its directories stay
directories and its files stay files (`Within`), so a path that led somewhere still leads
there (`follow_of_within`), a file that could be read still can (`readFile_of_within`), a
directory that was made is there (`makeDirectory_of_within`), and where a file was
written there is one to write over (`writeFile_of_within`).

For making directories this takes a tree in which everything stands in a directory
(`IsTree`), as on a disk; what a run does to a tree keeps it one.
-/

namespace Docdown.FileTree

open Docdown.Path

/-! ## trees -/

theorem mem_places {t : FileTree} {place : List String} (h : place ≠ []) :
    place ∈ t.places ↔ t.get? place ≠ none := by
  rw [places, List.mem_eraseDups, get?, if_neg h, Ne, List.lookup_eq_none_iff]
  constructor
  · intro hmem hnone
    obtain ⟨p, hp, rfl⟩ := List.mem_map.1 hmem
    exact bne_iff_ne.1 (hnone p hp) rfl
  · intro hsome
    refine Decidable.byContradiction fun hmem => hsome fun p hp => bne_iff_ne.2 ?_
    rintro rfl
    exact hmem (List.mem_map.2 ⟨p, hp, rfl⟩)

/-- Everything stands in a directory, and the working directory is one. -/
structure IsTree (t : FileTree) : Prop extends t.IsProper where
  parent : ∀ place, t.get? place ≠ none → t.get? place.dropLast = some .directory
  home : t.get? t.cwd = some .directory

instance (s : String) : Decidable (IsSegment s) :=
  decidable_of_iff (s ≠ "" ∧ s ≠ "." ∧ s ≠ ".." ∧ '/' ∉ s.toList)
    ⟨fun ⟨h1, h2, h3, h4⟩ => ⟨⟨h1, h2, h3⟩, h4⟩, fun h => ⟨h.1.1, h.1.2.1, h.1.2.2, h.2⟩⟩

/-- It is enough to look where something was put. -/
theorem isTree_iff {t : FileTree} :
    t.IsTree ↔ (∀ p ∈ t.places, p ≠ [] →
        (∀ x ∈ p, IsSegment x) ∧ t.get? p.dropLast = some .directory) ∧
      (∀ x ∈ t.cwd, IsSegment x) ∧ t.get? t.cwd = some .directory := by
  constructor
  · intro h
    refine ⟨fun p hp hroot => ?_, h.cwd, h.home⟩
    have hthere := (mem_places hroot).1 hp
    exact ⟨h.places p hthere, h.parent p hthere⟩
  · rintro ⟨hplaces, hcwd, hhome⟩
    refine ⟨⟨fun p hp => ?_, hcwd⟩, fun p hp => ?_, hhome⟩
    · by_cases hroot : p = []
      · rw [hroot]
        nofun
      · exact (hplaces p ((mem_places hroot).2 hp) hroot).1
    · by_cases hroot : p = []
      · rw [hroot]
        rfl
      · exact (hplaces p ((mem_places hroot).2 hp) hroot).2

instance (t : FileTree) : Decidable t.IsTree := decidable_of_iff _ isTree_iff.symm

namespace IsTree

variable {t : FileTree}

/-- What something stands below is a directory. -/
theorem get?_of_append (h : t.IsTree) {place back : List String} (hback : back ≠ [])
    (hthere : t.get? (place ++ back) ≠ none) : t.get? place = some .directory := by
  induction back using List.reverseRecOn with
  | nil => exact absurd rfl hback
  | append_singleton back x ih =>
    have hparent := h.parent _ hthere
    rw [← List.append_assoc, List.dropLast_concat] at hparent
    by_cases hempty : back = []
    · rwa [hempty, List.append_nil] at hparent
    · exact ih hempty (by rw [hparent]; nofun)

/-- On the way to what is there something is at every place. -/
theorem get?_ne_none_of_prefix (h : t.IsTree) {place q : List String} (hway : place <+: q)
    (hthere : t.get? q ≠ none) : t.get? place ≠ none := by
  obtain ⟨back, rfl⟩ := hway
  by_cases hback : back = []
  · rwa [hback, List.append_nil] at hthere
  · rw [h.get?_of_append hback hthere]
    exact Option.some_ne_none _

theorem get?_start (h : t.IsTree) (path : String) : t.get? (t.start path) = some .directory := by
  unfold start
  split
  · rfl
  · exact h.home

/-- Something may be put into a directory, but no file over a directory. -/
theorem put (h : t.IsTree) {place : List String} {name : String} {i : Item}
    (hdir : t.get? place = some .directory) (hname : IsSegment name)
    (hfree : i = .directory ∨ t.get? (place ++ [name]) ≠ some .directory) :
    (t.put (place ++ [name]) i).IsTree := by
  have hself := get?_put_self t (List.concat_ne_nil name place) i
  -- A directory is one afterwards.
  have hkept : ∀ p, t.get? p = some .directory →
      (t.put (place ++ [name]) i).get? p = some .directory := by
    intro p hp
    by_cases heq : p = place ++ [name]
    · subst heq
      rw [hself, hfree.resolve_right (not_not_intro hp)]
    · rwa [get?_put_of_ne t heq]
  refine ⟨⟨fun p hp => ?_, h.cwd⟩, fun p hp => ?_, hkept _ h.home⟩
  · by_cases heq : p = place ++ [name]
    · subst heq
      exact List.forall_mem_append.2
        ⟨h.places place (by rw [hdir]; nofun), List.forall_mem_singleton.2 hname⟩
    · rw [get?_put_of_ne t heq] at hp
      exact h.places p hp
  · by_cases heq : p = place ++ [name]
    · rw [heq, List.dropLast_concat]
      exact hkept place hdir
    · rw [get?_put_of_ne t heq] at hp
      exact hkept _ (h.parent p hp)

end IsTree

/-! ## one tree within another -/

/-- The directories of a tree are directories in another, and its files are files there. -/
structure Within (t u : FileTree) : Prop where
  cwd : u.cwd = t.cwd
  directory : ∀ place, t.get? place = some .directory → u.get? place = some .directory
  file : ∀ place, (t.content? place).isSome → (u.content? place).isSome

theorem isSome_content?_iff {t : FileTree} {place : List String} :
    (t.content? place).isSome ↔ ∃ content, t.get? place = some (.file content) := by
  unfold content?
  cases t.get? place with
  | none => simp
  | some i => cases i <;> simp

namespace Within

variable {t u v : FileTree}

theorem refl (t : FileTree) : t.Within t := ⟨rfl, fun _ h => h, fun _ h => h⟩

theorem trans (h : t.Within u) (h' : u.Within v) : t.Within v where
  cwd := h'.cwd.trans h.cwd
  directory place hplace := h'.directory place (h.directory place hplace)
  file place hplace := h'.file place (h.file place hplace)

theorem start (h : t.Within u) (path : String) : u.start path = t.start path :=
  start_congr h.cwd path

theorem get?_ne_none (h : t.Within u) {place : List String} (hplace : t.get? place ≠ none) :
    u.get? place ≠ none := by
  cases hget : t.get? place with
  | none => exact absurd hget hplace
  | some i =>
    cases i with
    | directory => rw [h.directory place hget]; nofun
    | file content =>
      obtain ⟨content', hfile⟩ := isSome_content?_iff.1
        (h.file place (isSome_content?_iff.2 ⟨content, hget⟩))
      rw [hfile]
      nofun

/-- A file may be put where there is no directory. -/
theorem put_file (t : FileTree) {place : List String} (h : t.get? place ≠ some .directory)
    (content : ByteArray) : t.Within (t.put place (.file content)) := by
  have hroot : place ≠ [] := by rintro rfl; simp [get?] at h
  refine ⟨rfl, fun p hp => ?_, fun p hp => ?_⟩
  · rwa [get?_put_of_ne t fun e => h (by rw [← e, hp])]
  · by_cases heq : p = place
    · rw [heq]
      exact isSome_content?_iff.2 ⟨content, get?_put_self t hroot _⟩
    · rwa [content?, get?_put_of_ne t heq]

/-- A file put over a file adds nothing. -/
theorem of_put_file {place : List String} (h : (t.content? place).isSome) (content : ByteArray) :
    (t.put place (.file content)).Within t := by
  obtain ⟨before, hbefore⟩ := isSome_content?_iff.1 h
  have hroot : place ≠ [] := by rintro rfl; simp [get?] at hbefore
  refine ⟨rfl, fun p hp => ?_, fun p hp => ?_⟩
  · by_cases heq : p = place
    · rw [heq, get?_put_self t hroot] at hp
      cases hp
    · rwa [get?_put_of_ne t heq] at hp
  · by_cases heq : p = place
    · rwa [heq]
    · rwa [content?, get?_put_of_ne t heq] at hp

end Within

/-- A tree is within what it grows to. -/
theorem Grows.within {D F : List String → Prop} {t u : FileTree} (h : Grows D F t u) :
    t.Within u where
  cwd := h.cwd_eq
  directory place hplace := by
    rcases h.change place with hsame | ⟨-, hnone, -⟩ | ⟨-, hfree, -⟩
    · rw [hsame, hplace]
    · rw [hplace] at hnone
      cases hnone
    · exact absurd hplace hfree
  file place hplace := by
    obtain ⟨content, hfile⟩ := isSome_content?_iff.1 hplace
    rcases h.change place with hsame | ⟨-, hnone, -⟩ | ⟨-, -, hput⟩
    · exact isSome_content?_iff.2 ⟨content, hsame.trans hfile⟩
    · rw [hfile] at hnone
      cases hnone
    · exact isSome_content?_iff.2 hput

theorem within_of_makeAlong {t u : FileTree} {place ps : List String} {obstacle? : Option Obstacle}
    (h : t.makeAlong place ps = (u, obstacle?)) : t.Within u := by
  have hgrows := grows_makeAlong (F := fun _ => False) t place ps
  rw [h] at hgrows
  exact hgrows.within

theorem within_of_makeDirectory {t u : FileTree} {path : String} {error? : Option Error}
    (h : t.makeDirectory path = (u, error?)) : t.Within u := by
  have hgrows := grows_makeDirectory (F := fun _ => False) t path
  rw [h] at hgrows
  exact hgrows.within

/-! ## reading again -/

section

variable {t u v : FileTree} {path part : String} {place place' rest : List String}

/-- A part of a path leads on from a place: if it is a name, there is something by that name. -/
def LeadsOn (t : FileTree) (place : List String) (part : String) : Prop :=
  IsName part → isTooLong part = false ∧ t.get? (place ++ [part]) ≠ none

/-- Whatever is done with the parts of a path one by one, where a part leads on it is done
with the place it leads to. -/
theorem LeadsOn.ite_eq {α : Type} (hpart : t.LeadsOn place part) (f : List String → α)
    (long missing : α) :
    (if part = "" ∨ part = "." then f place
      else if part = ".." then f place.dropLast
      else if isTooLong part then long
      else if (t.get? (place ++ [part])).isSome then f (place ++ [part])
      else missing) = f (walk place part) := by
  split
  · rename_i hidle
    rw [walk_of_idle hidle]
  · rename_i hidle
    split
    · rename_i hback
      rw [hback, walk_back]
    · rename_i hback
      have hname := isName_of_not hidle hback
      obtain ⟨hshort, hthere⟩ := hpart hname
      rw [walk_of_isName hname, if_neg (by rw [hshort]; exact Bool.false_ne_true),
        if_pos (Option.isSome_iff_ne_none.2 hthere)]

/-- Where a part does not lead on it is a name, too long or of nothing. -/
theorem ite_eq_of_not_leadsOn {α : Type} (hpart : ¬t.LeadsOn place part) (f : List String → α)
    (long missing : α) :
    (if part = "" ∨ part = "." then f place
      else if part = ".." then f place.dropLast
      else if isTooLong part then long
      else if (t.get? (place ++ [part])).isSome then f (place ++ [part])
      else missing) = if isTooLong part then long else missing := by
  obtain ⟨hname, hmissing⟩ := Classical.not_imp.1 hpart
  rw [if_neg (not_or.2 ⟨hname.1, hname.2.1⟩), if_neg hname.2.2]
  split
  · rfl
  · rename_i hshort
    have hnone : t.get? (place ++ [part]) = none :=
      Decidable.not_not.1 fun h => hmissing ⟨by simpa using hshort, h⟩
    rw [hnone]
    rfl

theorem follow_cons_of_leadsOn (hdir : t.get? place = some .directory)
    (hpart : t.LeadsOn place part) :
    t.follow place (part :: rest) = t.follow (walk place part) rest := by
  rw [follow, hdir]
  exact hpart.ite_eq (t.follow · rest) _ _

theorem follow_cons_of_not_leadsOn (rest : List String) (hdir : t.get? place = some .directory)
    (hpart : ¬t.LeadsOn place part) :
    t.follow place (part :: rest) =
      .error (if isTooLong part then .nameTooLong else .missing) := by
  rw [follow, hdir, apply_ite Except.error]
  exact ite_eq_of_not_leadsOn hpart (t.follow · rest) _ _

/-- A path is followed part by part. -/
theorem follow_cons_eq_ok :
    t.follow place (part :: rest) = .ok place' ↔
      t.get? place = some .directory ∧ t.LeadsOn place part ∧
        t.follow (walk place part) rest = .ok place' := by
  cases hget : t.get? place with
  | none => simp [follow, hget]
  | some i =>
    cases i with
    | file content => simp [follow, hget]
    | directory =>
      by_cases hpart : t.LeadsOn place part
      · simp [follow_cons_of_leadsOn hget hpart, hpart]
      · simp [follow_cons_of_not_leadsOn rest hget hpart, hpart]

theorem Within.leadsOn (h : t.Within u) (hpart : t.LeadsOn place part) : u.LeadsOn place part :=
  fun hname => (hpart hname).imp_right h.get?_ne_none

/-- A path still leads where it led. -/
theorem follow_of_within (h : t.Within u) {ps : List String}
    (hfollow : t.follow place ps = .ok place') : u.follow place ps = .ok place' := by
  induction ps generalizing place with
  | nil => exact hfollow
  | cons part rest ih =>
    obtain ⟨hdir, hpart, hrest⟩ := follow_cons_eq_ok.1 hfollow
    exact follow_cons_eq_ok.2 ⟨h.directory place hdir, h.leadsOn hpart, ih hrest⟩

/-- A name on the way that was too long still is. -/
theorem follow_nameTooLong_of_within (h : t.Within u) {ps : List String}
    (hfollow : t.follow place ps = .error .nameTooLong) :
    u.follow place ps = .error .nameTooLong := by
  induction ps generalizing place with
  | nil => cases hfollow
  | cons part rest ih =>
    cases hget : t.get? place with
    | none => rw [follow, hget] at hfollow; cases hfollow
    | some i =>
      cases i with
      | file content => rw [follow, hget] at hfollow; cases hfollow
      | directory =>
        have hdir := h.directory place hget
        by_cases hpart : t.LeadsOn place part
        · rw [follow_cons_of_leadsOn hget hpart] at hfollow
          rw [follow_cons_of_leadsOn hdir (h.leadsOn hpart)]
          exact ih hfollow
        · obtain ⟨hname, -⟩ := Classical.not_imp.1 hpart
          have hlong : isTooLong part = true := by
            rw [follow_cons_of_not_leadsOn rest hget hpart] at hfollow
            split at hfollow
            · assumption
            · cases hfollow
          have hpart' : ¬u.LeadsOn place part := fun hleads => by
            rw [(hleads hname).1] at hlong
            cases hlong
          rw [follow_cons_of_not_leadsOn rest hdir hpart', if_pos hlong]

/-- What is in a tree is reached, unless a name on the way is too long. -/
theorem IsTree.follow_of_get? (h : t.IsTree) {back : List String}
    (hthere : t.get? (place ++ back) ≠ none) :
    t.follow place back = .ok (place ++ back) ∨ t.follow place back = .error .nameTooLong := by
  induction back generalizing place with
  | nil => exact .inl (by rw [List.append_nil]; rfl)
  | cons part rest ih =>
    have hdir := h.get?_of_append (List.cons_ne_nil part rest) hthere
    have hname := (h.places _ hthere part (by simp)).isName
    have hsplit : place ++ part :: rest = place ++ [part] ++ rest := by simp
    by_cases hpart : t.LeadsOn place part
    · rw [follow_cons_of_leadsOn hdir hpart, walk_of_isName hname, hsplit]
      exact ih (by rwa [← hsplit])
    · have hnext := h.get?_ne_none_of_prefix ⟨rest, hsplit.symm⟩ hthere
      have hlong : isTooLong part = true := by
        by_contra hshort
        exact hpart fun _ => ⟨by simpa using hshort, hnext⟩
      exact .inr (by rw [follow_cons_of_not_leadsOn rest hdir hpart, if_pos hlong])

/-- A file that could be read can be read. -/
theorem readFile_of_within (h : t.Within u) {bytes : ByteArray}
    (hread : t.readFile path = .ok bytes) : ∃ bytes', u.readFile path = .ok bytes' := by
  unfold readFile at hread
  split at hread
  · cases hread
  · rename_i place hlocate
    have hlocate' : u.locate path = .ok place := by
      unfold locate at hlocate ⊢
      split
      · rename_i hempty
        rw [if_pos hempty] at hlocate
        cases hlocate
      · rename_i hempty
        rw [if_neg hempty] at hlocate
        rw [h.start]
        exact follow_of_within h hlocate
    split at hread
    · rename_i content hget
      obtain ⟨content', hfile⟩ := isSome_content?_iff.1
        (h.file place (isSome_content?_iff.2 ⟨content, hget⟩))
      refine ⟨content', ?_⟩
      unfold readFile
      rw [hlocate']
      dsimp only
      rw [hfile]
    · cases hread
    · cases hread

/-! ## making directories again -/

/-- Where a part leads on nothing is made for it. -/
theorem makeAlong_of_leadsOn (hdir : t.get? place = some .directory)
    (hpart : t.LeadsOn place part) :
    t.makeAlong place (part :: rest) = t.makeAlong (walk place part) rest := by
  rw [makeAlong, hdir]
  exact hpart.ite_eq (t.makeAlong · rest) _ _

/-- Where it does not its name is too long, or a directory is made. -/
theorem makeAlong_of_not_leadsOn (rest : List String) (hdir : t.get? place = some .directory)
    (hpart : ¬t.LeadsOn place part) :
    IsName part ∧ (t.makeAlong place (part :: rest) = (t, some .nameTooLong) ∨
      isTooLong part = false ∧ t.get? (place ++ [part]) = none ∧
        t.makeAlong place (part :: rest) =
          (t.put (place ++ [part]) .directory).makeAlong (place ++ [part]) rest) := by
  obtain ⟨hname, hmissing⟩ := Classical.not_imp.1 hpart
  have hmake : t.makeAlong place (part :: rest) =
      if isTooLong part then (t, some .nameTooLong)
      else (t.put (place ++ [part]) .directory).makeAlong (place ++ [part]) rest := by
    rw [makeAlong, hdir]
    exact ite_eq_of_not_leadsOn hpart (t.makeAlong · rest) _ _
  refine ⟨hname, ?_⟩
  rw [hmake]
  cases hlong : isTooLong part with
  | true => exact .inl rfl
  | false => exact .inr ⟨rfl, Decidable.not_not.1 fun h => hmissing ⟨hlong, h⟩, rfl⟩

/-- Nothing is made along a path that leads to a directory. -/
theorem makeAlong_of_follow {ps : List String} (hfollow : t.follow place ps = .ok place')
    (hdir : t.get? place' = some .directory) : t.makeAlong place ps = (t, none) := by
  induction ps generalizing place with
  | nil =>
    cases hfollow
    rw [makeAlong, hdir]
  | cons part rest ih =>
    obtain ⟨hplace, hpart, hrest⟩ := follow_cons_eq_ok.1 hfollow
    rw [makeAlong_of_leadsOn hplace hpart, ih hrest]

/-- No directories are made along a path that leads through a file. -/
theorem makeAlong_of_file {content : ByteArray} (hfile : t.get? place = some (.file content))
    (ps : List String) : (t.makeAlong place ps).2 ≠ none := by
  cases ps <;> rw [makeAlong, hfile] <;> nofun

theorem IsTree.get?_walk (h : t.IsTree) (hdir : t.get? place = some .directory)
    (hpart : ¬IsName part) : t.get? (walk place part) = some .directory := by
  by_cases hidle : part = "" ∨ part = "."
  · rwa [walk_of_idle hidle]
  · have hback : part = ".." := Decidable.not_not.1 fun hback => hpart (isName_of_not hidle hback)
    rw [hback, walk_back]
    exact h.parent place (by rw [hdir]; nofun)

/-- Once directories are made along a path it leads to one, and the tree is one still. -/
theorem IsTree.makeAlong (h : t.IsTree) (hdir : t.get? place = some .directory)
    {ps : List String} (hps : ∀ x ∈ ps, '/' ∉ x.toList) (hmake : t.makeAlong place ps = (u, none)) :
    u.IsTree ∧ ∃ place', u.follow place ps = .ok place' ∧ u.get? place' = some .directory := by
  induction ps generalizing t place with
  | nil =>
    rw [FileTree.makeAlong, hdir] at hmake
    cases hmake
    exact ⟨h, place, rfl, hdir⟩
  | cons part rest ih =>
    have hrest : ∀ x ∈ rest, '/' ∉ x.toList := fun x hx => hps x (List.mem_cons_of_mem _ hx)
    have hwithin := within_of_makeAlong hmake
    have hplace := hwithin.directory place hdir
    by_cases hpart : t.LeadsOn place part
    · rw [makeAlong_of_leadsOn hdir hpart] at hmake
      -- What a name leads to can only be a directory, since nothing is in the way.
      have hnext : t.get? (walk place part) = some .directory := by
        by_cases hname : IsName part
        · rw [walk_of_isName hname] at hmake ⊢
          cases hget : t.get? (place ++ [part]) with
          | none => exact absurd hget (hpart hname).2
          | some i =>
            cases i with
            | directory => rfl
            | file content =>
              have hfailed := makeAlong_of_file hget rest
              rw [hmake] at hfailed
              exact absurd rfl hfailed
        · exact h.get?_walk hdir hname
      obtain ⟨hu, place', hfollow, hdir'⟩ := ih h hnext hrest hmake
      exact ⟨hu, place', follow_cons_eq_ok.2 ⟨hplace, hwithin.leadsOn hpart, hfollow⟩, hdir'⟩
    · obtain ⟨hname, hlong | ⟨hshort, hnone, hnew⟩⟩ :=
        makeAlong_of_not_leadsOn rest hdir hpart
      · rw [hlong] at hmake
        cases hmake
      · rw [hnew] at hmake
        have hsegment : IsSegment part := ⟨hname, hps part List.mem_cons_self⟩
        have hmade := get?_put_self t (List.concat_ne_nil part place) .directory
        obtain ⟨hu, place', hfollow, hdir'⟩ :=
          ih (h.put hdir hsegment (.inl rfl)) hmade hrest hmake
        have hnext := (within_of_makeAlong hmake).directory _ hmade
        have hleads : u.LeadsOn place part := fun _ => ⟨hshort, by rw [hnext]; nofun⟩
        rw [← walk_of_isName hname] at hfollow
        exact ⟨hu, place', follow_cons_eq_ok.2 ⟨hplace, hleads, hfollow⟩, hdir'⟩

theorem makeDirectory_eq_none (h : t.makeDirectory path = (u, none)) :
    path ≠ "" ∧ t.makeAlong (t.start path) (parts path) = (u, none) := by
  unfold makeDirectory at h
  split at h
  · cases h
  · rename_i hpath
    refine ⟨hpath, ?_⟩
    obtain ⟨htree, hnone⟩ := Prod.mk.inj h
    exact Prod.ext htree (Option.map_eq_none_iff.1 hnone)

/-- A tree is one still when a directory has been made in it. -/
theorem IsTree.makeDirectory (h : t.IsTree) (hmake : t.makeDirectory path = (u, none)) :
    u.IsTree := by
  obtain ⟨-, halong⟩ := makeDirectory_eq_none hmake
  exact (h.makeAlong (h.get?_start path) (fun _ => slash_notMem_of_mem_parts) halong).1

/-- Where a directory has been made it need not be made again. -/
theorem makeDirectory_of_within (h : t.IsTree) (hmake : t.makeDirectory path = (u, none))
    (huv : u.Within v) : v.makeDirectory path = (v, none) := by
  obtain ⟨hpath, halong⟩ := makeDirectory_eq_none hmake
  obtain ⟨-, place, hfollow, hdir⟩ :=
    h.makeAlong (h.get?_start path) (fun _ => slash_notMem_of_mem_parts) halong
  have htu := within_of_makeDirectory hmake
  have hsame : v.makeAlong (v.start path) (parts path) = (v, none) := by
    rw [(htu.trans huv).start]
    exact makeAlong_of_follow (follow_of_within huv hfollow) (huv.directory place hdir)
  rw [FileTree.makeDirectory, if_neg hpath, hsame]
  rfl

/-! ## writing again -/

/-- A file that is written is put into a directory, and not over one. -/
theorem writeFile_eq_ok {content : ByteArray} (h : t.writeFile path content = .ok u) :
    ∃ above name, t.follow (t.start path) (parts path).dropLast = .ok above ∧
      t.get? above = some .directory ∧ (parts path).getLast?.getD "" = name ∧
      isTooLong name = false ∧ t.get? (above ++ [name]) ≠ some .directory ∧
      u = t.put (above ++ [name]) (.file content) := by
  unfold writeFile at h
  split at h
  · cases h
  · rename_i place hlocate
    unfold locateNew at hlocate
    dsimp only at hlocate
    split at hlocate
    · cases hlocate
    · rename_i above habove
      split at hlocate
      · rename_i hdir
        split at hlocate
        · cases hlocate
        · rename_i hshort
          split at hlocate
          · cases hlocate
          · rename_i hfree
            cases hlocate
            cases h
            exact ⟨above, _, habove, hdir, rfl, by simpa using hshort, hfree, rfl⟩
      · cases hlocate

/-- A tree is one still when a file has been written in it. -/
theorem IsTree.writeFile (h : t.IsTree) {content : ByteArray} {name : String}
    {front : List String} (hparts : parts path = front ++ [name]) (hname : IsSegment name)
    (hwrite : t.writeFile path content = .ok u) : u.IsTree := by
  obtain ⟨above, last, -, hdir, hlast, -, hfree, rfl⟩ := writeFile_eq_ok hwrite
  rw [hparts, List.getLast?_concat, Option.getD_some] at hlast
  subst hlast
  exact h.put hdir hname (.inr hfree)

theorem within_of_writeFile {content : ByteArray} (h : t.writeFile path content = .ok u) :
    t.Within u := by
  obtain ⟨above, name, -, -, -, -, hfree, rfl⟩ := writeFile_eq_ok h
  exact .put_file t hfree content

/-- Where a file has been written there is one, and another can be put over it. -/
theorem writeFile_of_within {content : ByteArray} (h : t.writeFile path content = .ok u)
    (huv : u.Within v) (content' : ByteArray) :
    ∃ place, (v.content? place).isSome ∧
      v.writeFile path content' = .ok (v.put place (.file content')) := by
  have htu := within_of_writeFile h
  have htv := htu.trans huv
  obtain ⟨above, name, hfollow, hdir, hname, hshort, hfree, rfl⟩ := writeFile_eq_ok h
  have hput := get?_put_self t (List.concat_ne_nil name above) (.file content)
  have hthere := huv.file (above ++ [name]) (isSome_content?_iff.2 ⟨content, hput⟩)
  obtain ⟨before, hbefore⟩ := isSome_content?_iff.1 hthere
  refine ⟨above ++ [name], hthere, ?_⟩
  have hlocate : v.locateNew path = .ok (above ++ [name]) := by
    unfold locateNew
    dsimp only
    rw [htv.start, follow_of_within htv hfollow]
    dsimp only
    rw [htv.directory above hdir, hname]
    dsimp only
    rw [hshort, hbefore]
    rfl
  rw [FileTree.writeFile, hlocate]

end

end Docdown.FileTree
