import Docdown.Group
import Docdown.Proofs.Path.Walking

/-!
# Docdown.Proofs.Path.Joining

Paths put below one another.  A segment joined to a path leads just one place
further (`foldl_parts_join`), and paths may be joined one by one
(`join_join`).  The name of a page is always a segment (`isSegment_stem_base`), and so
is the directory of a group unless it is empty (`Group.isSegment_directory`).
-/

namespace Docdown

namespace Path

/-- A text that names one place below another: it holds no slash and is not made of
dots that lead elsewhere. -/
structure IsSegment (s : String) : Prop where
  isName : IsName s
  slash_notMem : '/' ∉ s.toList

theorem IsSegment.ne_empty {s : String} (h : IsSegment s) : s ≠ "" := h.isName.1

theorem getLast?_append {q : String} (h : q ≠ "") (p : String) :
    (p ++ q).toList.getLast? = q.toList.getLast? := by
  have hne : q.toList ≠ [] := fun e => h (String.toList_inj.1 e)
  rw [String.toList_append, List.getLast?_append, List.getLast?_eq_some_getLast hne, Option.some_or]

/-! ## joining -/

theorem join_pair {a n : String} (ha : a ≠ "") (hn : n ≠ "") :
    join [a, n] = normalize (a ++ "/" ++ n) := by
  simp [join, ha, hn]

theorem join_pair_empty {a : String} (ha : a ≠ "") : join [a, ""] = normalize a := by
  simp [join, ha]

theorem join_pair_drop (a n : String) : join [a, "", n] = join [a, n] := by
  have hempty : [a, "", n].filter (· ≠ "") = [a, n].filter (· ≠ "") := by
    simp [List.filter_cons]
  rw [join, hempty, join]

theorem join_ne_empty (ps : List String) : join ps ≠ "" := normalize_ne_empty _

theorem isAbsolute_join {a n : String} (ha : a ≠ "") (hn : n ≠ "") :
    isAbsolute (join [a, n]) = isAbsolute a := by
  rw [join_pair ha hn, isAbsolute_normalize, isAbsolute_append_slash ha]

/-- A segment put below a path remains its last part. -/
theorem exists_parts_join {a n : String} (ha : a ≠ "") (hn : IsSegment n) :
    ∃ front, parts (join [a, n]) = front ++ [n] := by
  obtain ⟨front, back, hparts, -, -, hback⟩ := exists_parts_normalize (a ++ "/" ++ n)
  have hend : (a ++ "/" ++ n).toList.getLast? ≠ some '/' := fun h =>
    hn.slash_notMem (List.mem_of_getLast? ((getLast?_append hn.ne_empty (a ++ "/")).symm.trans h))
  rw [hback hend, List.append_nil, parts_append_slash, parts_eq_singleton hn.slash_notMem,
    reduce, List.foldl_append] at hparts
  refine ⟨front ++ reduce (isAbsolute (a ++ "/" ++ n)) (parts a), ?_⟩
  rw [join_pair ha hn.ne_empty, hparts, List.append_assoc, reduce, ← List.reverse_cons]
  simp [enter, hn.isName.1, hn.isName.2.1, hn.isName.2.2]

/-- A segment below a path leads to the place below where the path leads. -/
theorem foldl_parts_join {a n : String} (ha : a ≠ "") (hn : IsSegment n) {place : List String}
    (hroot : isAbsolute a = true → walk place ".." = place) :
    (parts (join [a, n])).foldl walk place = (parts a).foldl walk place ++ [n] := by
  have habs := isAbsolute_append_slash ha n
  rw [join_pair ha hn.ne_empty, foldl_parts_normalize heeds_walk (by rwa [habs]),
    parts_append_slash, parts_eq_singleton hn.slash_notMem, List.foldl_append]
  exact walk_of_isName hn.isName _

/-- A path with a segment below it leads through no other places than the path alone,
apart from the one it leads to. -/
theorem exists_prefix_parts_of_join {a n : String} (ha : a ≠ "") (hn : IsSegment n)
    {place : List String} (hroot : isAbsolute a = true → walk place ".." = place)
    {ps : List String} (h : ps <+: parts (join [a, n])) :
    (∃ qs, qs <+: parts a ∧ ps.foldl walk place = qs.foldl walk place) ∨
      ps.foldl walk place = (parts a).foldl walk place ++ [n] := by
  have habs := isAbsolute_append_slash ha n
  rw [join_pair ha hn.ne_empty] at h
  obtain ⟨qs, hqs, hfold⟩ := exists_prefix_parts_of_normalize heeds_walk (by rwa [habs]) h
  rw [parts_append_slash, parts_eq_singleton hn.slash_notMem, List.prefix_concat_iff] at hqs
  rcases hqs with rfl | hqs
  · rw [List.foldl_append] at hfold
    exact .inr (hfold.trans (walk_of_isName hn.isName _))
  · exact .inl ⟨qs, hqs, hfold⟩

/-- A path below a normalized path may be put below the path as it was written. -/
theorem normalize_normalize_append {a : String} (ha : a ≠ "") (n : String) :
    normalize (normalize a ++ "/" ++ n) = normalize (a ++ "/" ++ n) := by
  have habs := isAbsolute_append_slash ha n
  refine normalize_congr ?_ ?_ ?_
  · rw [isAbsolute_append_slash (normalize_ne_empty a), isAbsolute_normalize, habs]
  · have hroot : isAbsolute a = true → enter (isAbsolute a) [] ".." = [] := by
      intro h; rw [h]; rfl
    rw [habs, reduce, reduce, parts_append_slash, parts_append_slash, List.foldl_append,
      foldl_parts_normalize (heeds_enter _) hroot, List.foldl_append]
  · simp [List.getLast?_append, List.getLast?_cons]

theorem intercalate_eq_empty {ps : List String} (h : ∀ p ∈ ps, p ≠ "")
    (hempty : "/".intercalate ps = "") : ps = [] := by
  cases ps with
  | nil => rfl
  | cons p rest =>
    have hp : p ≠ "" := h p List.mem_cons_self
    cases rest with
    | nil => simp_all
    | cons q rest => simp [hp] at hempty

theorem normalize_here_append {n : String} (hn : IsSegment n) :
    normalize ("." ++ "/" ++ n) = normalize n := by
  refine normalize_congr ?_ ?_ ?_
  · rw [isAbsolute_append_slash (by decide), isAbsolute_eq_false hn.slash_notMem]
    decide
  · rw [parts_append_slash]
    rfl
  · rw [getLast?_append hn.ne_empty]

/-- A segment is joined to paths that have been joined before as it is to the paths
themselves. -/
theorem join_join (ps : List String) {n : String} (hn : IsSegment n) :
    join [join ps, n] = join (ps ++ [n]) := by
  have hne : ∀ p ∈ ps.filter (· ≠ ""), p ≠ "" := fun p hp => by simpa using (List.mem_filter.1 hp).2
  have hjoin : join (ps ++ [n]) = normalize ("/".intercalate (ps.filter (· ≠ "") ++ [n])) := by
    simp [join, hn.ne_empty]
  have hpair : join [join ps, n] =
      normalize (normalize ("/".intercalate (ps.filter (· ≠ ""))) ++ "/" ++ n) :=
    join_pair (normalize_ne_empty _) hn.ne_empty
  rw [hpair, hjoin]
  by_cases hps : ps.filter (· ≠ "") = []
  · rw [hps, String.intercalate_nil, normalize_empty, normalize_here_append hn, List.nil_append,
      String.intercalate_singleton]
  · rw [normalize_normalize_append (mt (intercalate_eq_empty hne) hps),
      String.intercalate_append_of_ne_nil hps (by simp), String.intercalate_singleton]

/-! ## the names of pages -/

theorem slash_notMem_base (p : String) : '/' ∉ (base p).toList := by
  unfold base
  cases h : (parts p).getLast? with
  | none => simp
  | some x => exact slash_notMem_of_mem_parts (List.mem_of_getLast? h)

theorem mem_of_mem_stem {name : String} {c : Char} (h : c ∈ (stem name).toList) :
    c ∈ name.toList := by
  unfold stem at h
  dsimp only at h
  split at h
  · rename_i d rest hback
    have hmem : c ∈ name.toList.reverse.dropWhile (· ≠ '.') := by
      rw [hback]
      exact List.mem_cons_of_mem _ (by simpa [or_comm] using h)
    exact List.mem_reverse.1 ((List.dropWhile_sublist _).subset hmem)
  · exact h

/-- The name of a page is a segment, whatever the file it is made from. -/
theorem isSegment_stem_base (file : String) : IsSegment (stem (base file) ++ ".md") where
  isName := by
    have hend : (stem (base file) ++ ".md").toList.getLast? = some 'd' := by
      simp [List.getLast?_append]
    refine ⟨?_, ?_, ?_⟩ <;> intro h <;> rw [h] at hend <;> revert hend <;> decide
  slash_notMem h := by
    rw [String.toList_append, List.mem_append] at h
    rcases h with h | h
    · exact slash_notMem_base file (mem_of_mem_stem h)
    · revert h; decide

end Path

namespace Group

/-! ## the directories of groups -/

theorem slash_notMem_directory (group : String) : '/' ∉ (directory group).toList := fun h =>
  absurd (not_isSeparator_of_mem_directory h) (by decide)

theorem backslash_notMem_directory (group : String) : '\\' ∉ (directory group).toList := fun h =>
  absurd (not_isSeparator_of_mem_directory h) (by decide)

theorem directory_ne_dots (group : String) : directory group ≠ "." ∧ directory group ≠ ".." := by
  unfold directory
  dsimp only
  split
  · decide
  · rename_i h
    exact not_or.1 h

/-- The directory of a group is a segment, unless it is empty. -/
theorem isSegment_directory {group : String} (h : directory group ≠ "") :
    Path.IsSegment (directory group) where
  isName := ⟨h, directory_ne_dots group⟩
  slash_notMem := slash_notMem_directory group

/-- What is the name of a directory stays as it is. -/
theorem directory_directory (group : String) : directory (directory group) = directory group := by
  have hkept : (directory group).toList.map (fun c => if isSeparator c then '_' else c) =
      (directory group).toList := by
    refine (List.map_congr_left fun c hc => ?_).trans (List.map_id _)
    rw [not_isSeparator_of_mem_directory hc]
    rfl
  obtain ⟨h1, h2⟩ := directory_ne_dots group
  rw [directory, hkept]
  simp [h1, h2]

end Group

end Docdown
