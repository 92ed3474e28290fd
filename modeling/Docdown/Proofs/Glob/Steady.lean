import Docdown.Proofs.FileTree.Lasting

/-!
# Docdown.Proofs.Glob.Steady

What a pattern selects in a tree that has grown.  Steps lead to every file to which they
led before (`mem_followSteps_of_within`).  They also lead to no other file of the tree as
it was, as long as no two dots come after a step that depends on what is there
(`mem_followSteps_of_steady`): then the steps only lead down, to a file through the
directories that it stands in, and these were there before.  Where all routes of a pattern
lead to the same files the same is found (`find_congr`).
-/

namespace Docdown.Glob

open FileTree Docdown.Path

/-! ## what is listed -/

section

variable {t u : FileTree} {place q : List String} {n : String}

theorem mem_listing : n ∈ listing t place ↔ t.get? (place ++ [n]) ≠ none := by
  rw [← mem_places (by simp), listing, List.mem_filterMap]
  constructor
  · rintro ⟨p, hp, hlast⟩
    cases h : p.getLast? with
    | none => rw [h] at hlast; cases hlast
    | some name =>
      obtain ⟨above, rfl⟩ := List.getLast?_eq_some_iff.1 h
      rw [h] at hlast
      dsimp only at hlast
      rw [List.dropLast_concat] at hlast
      split at hlast
      · rename_i habove
        rwa [← habove, ← Option.some.inj hlast]
      · cases hlast
  · intro hp
    refine ⟨place ++ [n], hp, ?_⟩
    rw [List.getLast?_concat, List.dropLast_concat]
    exact if_pos rfl

theorem mem_filesIn {p : String → Bool} :
    q ∈ filesIn t place p ↔ ∃ n, q = place ++ [n] ∧ p n = true ∧ isFile t q = true := by
  rw [filesIn, List.mem_filter, List.mem_map]
  constructor
  · rintro ⟨⟨n, hn, rfl⟩, hfile⟩
    exact ⟨n, rfl, (List.mem_filter.1 hn).2, hfile⟩
  · rintro ⟨n, rfl, hn, hfile⟩
    have hthere : t.get? (place ++ [n]) ≠ none := fun e => by rw [isFile, e] at hfile; cases hfile
    exact ⟨⟨n, List.mem_filter.2 ⟨mem_listing.2 hthere, hn⟩, rfl⟩, hfile⟩

theorem mem_reachable {d : List String} :
    d ∈ reachable t place ↔ d = place ∨ ∃ back, back ≠ [] ∧ d = place ++ back ∧
      t.get? d = some .directory ∧ ∀ n ∈ back, isHidden n = false := by
  rw [reachable, List.mem_cons]
  refine or_congr_right ?_
  constructor
  · intro h
    obtain ⟨-, hd⟩ := List.mem_filter.1 h
    rw [Bool.and_eq_true, beq_iff_eq] at hd
    obtain ⟨hdir, hbelow⟩ := hd
    unfold below? at hbelow
    split at hbelow
    · rename_i s ss hback
      split at hback
      · rename_i hprefix
        obtain ⟨back, rfl⟩ := List.isPrefixOf_iff_prefix.1 hprefix
        rw [List.drop_left] at hback
        cases hback
        exact ⟨s :: ss, List.cons_ne_nil _ _, rfl, hdir, by simpa using hbelow⟩
      · cases hback
    · cases hbelow
  · rintro ⟨back, hback, rfl, hdir, hseen⟩
    refine List.mem_filter.2 ⟨(mem_places (by simp [hback])).2 (by rw [hdir]; nofun), ?_⟩
    obtain ⟨s, ss, rfl⟩ := List.exists_cons_of_ne_nil hback
    rw [hdir, below?, if_pos (List.isPrefixOf_iff_prefix.2 (List.prefix_append _ _)), List.drop_left]
    simpa using hseen

theorem isFile_of_within (h : t.Within u) (hfile : isFile t q = true) : isFile u q = true := by
  rw [isFile_eq] at hfile ⊢
  exact h.file q hfile

theorem get?_ne_directory_of_isFile (h : isFile t q = true) : t.get? q ≠ some .directory :=
  fun e => by rw [isFile, e] at h; cases h

theorem get?_ne_none_of_isFile (h : isFile t q = true) : t.get? q ≠ none :=
  fun e => by rw [isFile, e] at h; cases h

end

/-! ## every file that was found -/

section

variable {t u : FileTree} {place q : List String}

theorem not_isEmpty_listing_of_within (h : t.Within u)
    (hlisted : (!(listing t place).isEmpty) = true) :
    (!(listing u place).isEmpty) = true := by
  obtain ⟨n, hn⟩ := List.exists_mem_of_ne_nil (listing t place) (by simpa using hlisted)
  have hn' : n ∈ listing u place := mem_listing.2 (h.get?_ne_none (mem_listing.1 hn))
  simpa using List.ne_nil_of_mem hn'

theorem startsIn_of_within (h : t.Within u) {ss : List Step} (hstart : startsIn t place ss = true) :
    startsIn u place ss = true := by
  unfold startsIn at hstart ⊢
  split at hstart
  · cases hstart
  · cases hstart
  · cases hstart
  · rw [beq_iff_eq] at hstart ⊢
    exact h.directory _ hstart
  · exact not_isEmpty_listing_of_within h hstart

theorem leadsOn_of_within (h : t.Within u) {ss : List Step} (hlead : leadsOn t place ss = true) :
    leadsOn u place ss = true := by
  unfold leadsOn at hlead ⊢
  split at hlead
  · rw [Bool.or_eq_true] at hlead ⊢
    exact hlead.imp (not_isEmpty_listing_of_within h) (startsIn_of_within h)
  · exact startsIn_of_within h hlead

theorem mem_reachable_of_within (h : t.Within u) {d : List String} (hd : d ∈ reachable t place) :
    d ∈ reachable u place :=
  mem_reachable.2 ((mem_reachable.1 hd).imp_right fun ⟨back, hback, heq, hdir, hseen⟩ =>
    ⟨back, hback, heq, h.directory d hdir, hseen⟩)

theorem mem_filesIn_of_within (h : t.Within u) {p : String → Bool} (hq : q ∈ filesIn t place p) :
    q ∈ filesIn u place p := by
  obtain ⟨n, heq, hn, hfile⟩ := mem_filesIn.1 hq
  exact mem_filesIn.2 ⟨n, heq, hn, isFile_of_within h hfile⟩

/-- Steps still lead to the files to which they led. -/
theorem mem_followSteps_of_within (ht : t.IsTree) (h : t.Within u) {ss : List Step}
    (hq : q ∈ followSteps t ss place) : q ∈ followSteps u ss place := by
  induction ss, place using followSteps.induct t with
  | case1 place => rw [followSteps] at hq; cases hq
  | case2 place rest => rw [followSteps] at hq; cases hq
  | case3 rest place ih => rw [followSteps] at hq ⊢; exact ih hq
  | case4 rest place ih => rw [followSteps] at hq ⊢; exact ih hq
  | case5 s place =>
    rw [followSteps] at hq ⊢
    exact mem_filesIn_of_within h hq
  | case6 name rest place hrest ih =>
    rw [followSteps] at hq ⊢
    · exact ih hq
    · exact hrest
    · exact hrest
  | case7 s rest place hrest hs ih =>
    rw [followSteps] at hq ⊢
    · obtain ⟨n, hn, hnq⟩ := List.mem_flatMap.1 hq
      split at hnq
      · rename_i hdir
        obtain ⟨hlisted, hpasses⟩ := List.mem_filter.1 hn
        have hlisted' := mem_listing.2 (h.get?_ne_none (mem_listing.1 hlisted))
        refine List.mem_flatMap.2 ⟨n, List.mem_filter.2 ⟨hlisted', hpasses⟩, ?_⟩
        rw [if_pos (h.directory _ hdir)]
        exact ih n hnq
      · cases hnq
    · exact hrest
    · exact hs
    · exact hrest
    · exact hs
  | case8 place hfile =>
    rw [followSteps, if_pos hfile] at hq
    rw [followSteps, if_pos (isFile_of_within h hfile)]
    exact hq
  | case9 place hfile =>
    rw [followSteps, if_neg hfile] at hq
    obtain ⟨d, hd, hqd⟩ := List.mem_flatMap.1 hq
    -- Files are found below, so there is a directory and can be no file later.
    have hplace : t.get? place = some .directory := by
      obtain ⟨n, rfl, -, hthere⟩ := mem_filesIn.1 hqd
      rcases mem_reachable.1 hd with rfl | ⟨back, -, rfl, -, -⟩
      · exact ht.get?_of_append (List.cons_ne_nil _ _) (get?_ne_none_of_isFile hthere)
      · rw [List.append_assoc] at hthere
        exact ht.get?_of_append (by simp) (get?_ne_none_of_isFile hthere)
    have hfile' : ¬isFile u place = true := fun e =>
      get?_ne_directory_of_isFile e (h.directory place hplace)
    rw [followSteps, if_neg hfile']
    exact List.mem_flatMap.2 ⟨d, mem_reachable_of_within h hd, mem_filesIn_of_within h hqd⟩
  | case10 rest place hrest ih =>
    rw [followSteps] at hq ⊢
    · obtain ⟨d, hd, hdq⟩ := List.mem_flatMap.1 hq
      split at hdq
      · rename_i hlead
        refine List.mem_flatMap.2 ⟨d, mem_reachable_of_within h hd, ?_⟩
        rw [if_pos (leadsOn_of_within h hlead)]
        exact ih d hdq
      · cases hdq
    · exact hrest
    · exact hrest

/-! ## no other file -/

/-- Steps that lead on by their text alone, whatever there is. -/
def Step.isPlain : Step → Bool
  | .here | .up | .nowhere | .names (.exactly _) => true
  | .anywhere | .names _ => false

/-- No two dots come after a step that depends on what there is. -/
def IsSteady (ss : List Step) : Prop := Step.up ∉ ss.dropWhile Step.isPlain

instance (ss : List Step) : Decidable (IsSteady ss) := inferInstanceAs (Decidable (_ ∉ _))

theorem isSteady_of_up_notMem {ss : List Step} (h : Step.up ∉ ss) : IsSteady ss :=
  fun hup => h ((List.dropWhile_sublist _).subset hup)

theorem IsSteady.tail {s : Step} {ss : List Step} (h : IsSteady (s :: ss))
    (hs : s.isPlain = true) : IsSteady ss := by
  unfold IsSteady at h
  rwa [List.dropWhile_cons_of_pos hs] at h

theorem IsSteady.up_notMem {s : Step} {ss : List Step} (h : IsSteady (s :: ss))
    (hs : s.isPlain = false) : Step.up ∉ ss := by
  unfold IsSteady at h
  rw [List.dropWhile_cons_of_neg (by rw [hs]; exact Bool.false_ne_true)] at h
  exact fun hup => h (List.mem_cons_of_mem _ hup)

/-- Without two dots steps only lead down. -/
theorem prefix_of_mem_followSteps {ss : List Step} (hup : Step.up ∉ ss)
    (hq : q ∈ followSteps t ss place) : place <+: q := by
  induction ss, place using followSteps.induct t with
  | case1 place => rw [followSteps] at hq; cases hq
  | case2 place rest => rw [followSteps] at hq; cases hq
  | case3 rest place ih =>
    rw [followSteps] at hq
    exact ih (fun h => hup (List.mem_cons_of_mem _ h)) hq
  | case4 rest place ih => exact absurd List.mem_cons_self hup
  | case5 s place =>
    rw [followSteps] at hq
    obtain ⟨n, rfl, -, -⟩ := mem_filesIn.1 hq
    exact List.prefix_append _ _
  | case6 name rest place hrest ih =>
    rw [followSteps] at hq
    · exact (List.prefix_append _ _).trans (ih (fun h => hup (List.mem_cons_of_mem _ h)) hq)
    · exact hrest
  | case7 s rest place hrest hs ih =>
    rw [followSteps] at hq
    · obtain ⟨n, -, hnq⟩ := List.mem_flatMap.1 hq
      split at hnq
      · exact (List.prefix_append _ _).trans
          (ih n (fun h => hup (List.mem_cons_of_mem _ h)) hnq)
      · cases hnq
    · exact hrest
    · exact hs
  | case8 place hfile =>
    rw [followSteps, if_pos hfile, List.mem_singleton] at hq
    exact hq ▸ List.prefix_rfl
  | case9 place hfile =>
    rw [followSteps, if_neg hfile] at hq
    obtain ⟨d, hd, hqd⟩ := List.mem_flatMap.1 hq
    obtain ⟨n, rfl, -, -⟩ := mem_filesIn.1 hqd
    rcases mem_reachable.1 hd with rfl | ⟨back, -, rfl, -, -⟩
    · exact List.prefix_append _ _
    · exact (List.prefix_append _ _).trans (List.prefix_append _ _)
  | case10 rest place hrest ih =>
    rw [followSteps] at hq
    · obtain ⟨d, hd, hdq⟩ := List.mem_flatMap.1 hq
      split at hdq
      · have hdown := ih d (fun h => hup (List.mem_cons_of_mem _ h)) hdq
        rcases mem_reachable.1 hd with rfl | ⟨back, -, rfl, -, -⟩
        · exact hdown
        · exact (List.prefix_append _ _).trans hdown
      · cases hdq
    · exact hrest

/-- A directory on the way down to a file that was there was there. -/
theorem get?_of_prefix (ht : t.IsTree) {d : List String} (hdq : d <+: q) (hfile : isFile t q = true)
    (hfile' : isFile u q = true) (hd : u.get? d = some .directory) :
    t.get? d = some .directory := by
  obtain ⟨back, rfl⟩ := hdq
  have hback : back ≠ [] := by
    rintro rfl
    rw [List.append_nil] at hfile'
    exact get?_ne_directory_of_isFile hfile' hd
  exact ht.get?_of_append hback (get?_ne_none_of_isFile hfile)

/-- On the way down to a file that was there something stood in the directories above. -/
theorem not_isEmpty_listing_of_prefix (ht : t.IsTree) (hu : u.IsTree) (hdown : place <+: q)
    (hfile : isFile t q = true) (hfile' : isFile u q = true)
    (hlisted : (!(listing u place).isEmpty) = true) : (!(listing t place).isEmpty) = true := by
  obtain ⟨back, rfl⟩ := hdown
  obtain ⟨n, hn⟩ := List.exists_mem_of_ne_nil (listing u place) (by simpa using hlisted)
  have hdir := hu.get?_of_append (List.cons_ne_nil n []) (mem_listing.1 hn)
  cases back with
  | nil =>
    rw [List.append_nil] at hfile'
    exact absurd hdir (get?_ne_directory_of_isFile hfile')
  | cons x back =>
    have hx : x ∈ listing t place := by
      refine mem_listing.2 (ht.get?_ne_none_of_prefix ⟨back, ?_⟩ (get?_ne_none_of_isFile hfile))
      rw [List.append_assoc, List.singleton_append]
    simpa using List.ne_nil_of_mem hx

/-- Steps that led down to a file that was there did so from a directory then. -/
theorem leadsOn_of_steady (ht : t.IsTree) (hu : u.IsTree) {ss : List Step} (hup : Step.up ∉ ss)
    (hfile : isFile t q = true) (hfile' : isFile u q = true)
    (hlead : leadsOn u place ss = true) (hq : q ∈ followSteps u ss place) :
    leadsOn t place ss = true := by
  unfold leadsOn at hlead ⊢
  split at hlead
  · exact absurd List.mem_cons_self hup
  · unfold startsIn at hlead ⊢
    split at hlead
    · cases hlead
    · cases hlead
    · cases hlead
    · rename_i name s rest _
      rw [beq_iff_eq] at hlead ⊢
      rw [followSteps] at hq
      · have hdown := prefix_of_mem_followSteps (fun h => hup (List.mem_cons_of_mem _ h)) hq
        exact get?_of_prefix ht hdown hfile hfile' hlead
      · exact List.cons_ne_nil _ _
    · exact not_isEmpty_listing_of_prefix ht hu (prefix_of_mem_followSteps hup hq) hfile hfile' hlead

/-- Steady steps lead to no other file of the tree as it was. -/
theorem mem_followSteps_of_steady (ht : t.IsTree) (hu : u.IsTree) (h : t.Within u)
    {ss : List Step} (hss : IsSteady ss) (hfile : isFile t q = true) (hq : q ∈ followSteps u ss place) :
    q ∈ followSteps t ss place := by
  have hfile' := isFile_of_within h hfile
  induction ss, place using followSteps.induct u with
  | case1 place => rw [followSteps] at hq; cases hq
  | case2 place rest => rw [followSteps] at hq; cases hq
  | case3 rest place ih => rw [followSteps] at hq ⊢; exact ih (hss.tail rfl) hq
  | case4 rest place ih => rw [followSteps] at hq ⊢; exact ih (hss.tail rfl) hq
  | case5 s place =>
    rw [followSteps] at hq ⊢
    obtain ⟨n, heq, hn, -⟩ := mem_filesIn.1 hq
    exact mem_filesIn.2 ⟨n, heq, hn, hfile⟩
  | case6 name rest place hrest ih =>
    rw [followSteps] at hq ⊢
    · exact ih (hss.tail rfl) hq
    · exact hrest
    · exact hrest
  | case7 s rest place hrest hs ih =>
    have hplain : (Step.names s).isPlain = false := by
      cases s with
      | exactly name => exact absurd rfl (hs name)
      | ending _ _ | matching _ _ => rfl
    have hup := hss.up_notMem hplain
    rw [followSteps] at hq ⊢
    · obtain ⟨n, hn, hnq⟩ := List.mem_flatMap.1 hq
      split at hnq
      · rename_i hdir
        have hdir' := get?_of_prefix ht (prefix_of_mem_followSteps hup hnq) hfile hfile' hdir
        refine List.mem_flatMap.2 ⟨n, List.mem_filter.2
          ⟨mem_listing.2 (by rw [hdir']; exact Option.some_ne_none _), (List.mem_filter.1 hn).2⟩, ?_⟩
        rw [if_pos hdir']
        exact ih n (isSteady_of_up_notMem hup) hnq
      · cases hnq
    · exact hrest
    · exact hs
    · exact hrest
    · exact hs
  | case8 place hplace =>
    rw [followSteps, if_pos hplace, List.mem_singleton] at hq
    rw [followSteps, ← hq, if_pos hfile]
    exact List.mem_singleton_self q
  | case9 place hplace =>
    rw [followSteps, if_neg hplace] at hq
    have hplace' : ¬isFile t place = true := fun e => hplace (isFile_of_within h e)
    obtain ⟨d, hd, hqd⟩ := List.mem_flatMap.1 hq
    obtain ⟨n, rfl, hn, -⟩ := mem_filesIn.1 hqd
    rw [followSteps, if_neg hplace']
    refine List.mem_flatMap.2 ⟨d, mem_reachable.2 ?_, mem_filesIn.2 ⟨n, rfl, hn, hfile⟩⟩
    refine (mem_reachable.1 hd).imp_right ?_
    rintro ⟨back, hback, heq, hdir, hseen⟩
    exact ⟨back, hback, heq,
      get?_of_prefix ht (List.prefix_append _ _) hfile hfile' hdir, hseen⟩
  | case10 rest place hrest ih =>
    have hup := hss.up_notMem rfl
    rw [followSteps] at hq ⊢
    · obtain ⟨d, hd, hdq⟩ := List.mem_flatMap.1 hq
      split at hdq
      · rename_i hlead
        have hdown := prefix_of_mem_followSteps hup hdq
        have hd' : d ∈ reachable t place := by
          refine mem_reachable.2 ((mem_reachable.1 hd).imp_right ?_)
          rintro ⟨back, hback, heq, hdir, hseen⟩
          exact ⟨back, hback, heq, get?_of_prefix ht hdown hfile hfile' hdir, hseen⟩
        refine List.mem_flatMap.2 ⟨d, hd', ?_⟩
        rw [if_pos (leadsOn_of_steady ht hu hup hfile hfile' hlead hdq)]
        exact ih d (isSteady_of_up_notMem hup) hdq
      · cases hdq
    · exact hrest
    · exact hrest

end

/-! ## where a route starts -/

section Start

variable {t u : FileTree} {place : List String}

/-- What was not missing is not. -/
theorem isMissing_of_within (h : t.Within u) (hplace : isMissing t place = false) :
    isMissing u place = false := by
  unfold isMissing at hplace
  split at hplace
  · rename_i hfollow
    rw [isMissing, follow_of_within h hfollow]
  · rename_i hfollow
    rw [isMissing, follow_nameTooLong_of_within h hfollow]
  · cases hplace

/-- What there is is not missing. -/
theorem isMissing_of_get? (ht : t.IsTree) (hthere : t.get? place ≠ none) :
    isMissing t place = false := by
  have hroot : t.get? ([] ++ place) ≠ none := hthere
  rw [isMissing]
  rcases ht.follow_of_get? hroot with hfollow | hfollow <;> rw [hfollow]

end Start

/-! ## what is found -/

section Find

variable {t u : FileTree} {directory pattern : String} {r : Route} {rs : List Route}
  {p : List String}

theorem origin_congr (h : u.cwd = t.cwd) (directory : String) :
    origin u directory = origin t directory := by
  rw [origin, origin, start_congr h]

/-- A pattern is steady in a directory of a tree if its steps are, and if the directory is
not missing where they lead back from it. -/
def IsSteadyIn (t : FileTree) (directory pattern : String) : Prop :=
  ∀ rs, routes pattern = .ok rs → ∀ r ∈ rs, IsSteady r.steps ∧
    (r.isAbsolute = false → Step.up ∈ r.steps → isMissing t (origin t directory) = false)

/-- A route still leads to the files to which it led. -/
theorem mem_files_of_within (ht : t.IsTree) (h : t.Within u) (hp : p ∈ r.files t directory) :
    p ∈ r.files u directory := by
  unfold Route.files at hp ⊢
  rw [origin_congr h.cwd]
  split at hp
  · rename_i habsolute
    rw [if_pos habsolute]
    exact mem_followSteps_of_within ht h hp
  · rename_i hrelative
    rw [if_neg hrelative]
    split at hp
    · cases hp
    · rename_i hthere
      rw [isMissing_of_within h (by simpa using hthere), if_neg Bool.false_ne_true]
      exact mem_followSteps_of_within ht h hp

/-- A steady route leads to no other file of the tree as it was. -/
theorem mem_files_of_steady (ht : t.IsTree) (hu : u.IsTree) (h : t.Within u)
    (hsteady : IsSteady r.steps)
    (hback : r.isAbsolute = false → Step.up ∈ r.steps → isMissing t (origin t directory) = false)
    (hfile : isFile t p = true) (hp : p ∈ r.files u directory) : p ∈ r.files t directory := by
  unfold Route.files at hp ⊢
  rw [origin_congr h.cwd] at hp
  split at hp
  · rename_i habsolute
    rw [if_pos habsolute]
    exact mem_followSteps_of_steady ht hu h hsteady hfile hp
  · rename_i hrelative
    rw [if_neg hrelative]
    split at hp
    · cases hp
    · have hthere : isMissing t (origin t directory) = false := by
        by_cases hup : Step.up ∈ r.steps
        · exact hback (by simpa using hrelative) hup
        · -- Without two dots the directory is on the way to the file.
          exact isMissing_of_get? ht (ht.get?_ne_none_of_prefix (prefix_of_mem_followSteps hup hp)
            (get?_ne_none_of_isFile hfile))
      rw [hthere, if_neg Bool.false_ne_true]
      exact mem_followSteps_of_steady ht hu h hsteady hfile hp

theorem isLedTo_iff {isAbsolute : Bool} :
    isLedTo t directory rs isAbsolute p = true ↔
      ∃ r ∈ rs, r.isAbsolute = isAbsolute ∧ p ∈ r.files t directory := by
  simp [isLedTo]

/-- Where all routes lead to the same files the same is found. -/
theorem find_congr (hcwd : u.cwd = t.cwd) (hroot : u.rootFirst = t.rootFirst)
    (hsame : ∀ rs, routes pattern = .ok rs → ∀ r ∈ rs,
      ∀ p, p ∈ r.files u directory ↔ p ∈ r.files t directory) :
    find u directory pattern = find t directory pattern := by
  unfold find
  cases hroutes : routes pattern with
  | error e => rw [Except.map, Except.map]
  | ok rs =>
    have hfiles := hsame rs hroutes
    have hselected : (selected u directory rs).Perm (selected t directory rs) := by
      refine (List.perm_ext_iff_of_nodup (nodup_selected u directory rs)
        (nodup_selected t directory rs)).2 fun p => ?_
      rw [mem_selected, mem_selected]
      exact exists_congr fun r => and_congr_right fun hr => hfiles r hr p
    have hled : ∀ isAbsolute p,
        isLedTo u directory rs isAbsolute p = isLedTo t directory rs isAbsolute p := by
      intro isAbsolute p
      rw [Bool.eq_iff_iff, isLedTo_iff, isLedTo_iff]
      exact exists_congr fun r => and_congr_right fun hr => and_congr_right fun _ => hfiles r hr p
    have hnames : nameOf u directory rs = nameOf t directory rs := by
      funext p
      rw [nameOf, nameOf, hled, hled, hroot, origin_congr hcwd]
    rw [Except.map, Except.map, hnames]
    refine congrArg Except.ok (Text.mergeSort_nameLE_of_perm ?_ (Text.pairwise_mergeSort_nameLE _))
    exact (hselected.map _).trans (List.mergeSort_perm _ Text.nameLE).symm

end Find

end Docdown.Glob
