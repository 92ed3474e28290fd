import Docdown.Config
import Docdown.Proofs.Glob.Steady

/-!
# Docdown.Proofs.Glob.Sparing

Patterns that select no file called like a page (`SparesPages`).  Wherever the path of a
file that is found leads, it ends in the name of the file (`exists_concat_of_mem_find`).
Which names these can be is up to the last step of a route alone
(`exists_getLast?_of_mem_followSteps`), so a pattern spares pages if the tests that its
routes end in do (`sparesPages_of_routes`).
-/

namespace Docdown.Glob

open FileTree Docdown.Path

variable {t : FileTree} {directory pattern n : String} {found above place q : List String}

/-- A path ends as the paths of pages do. -/
def IsPagePath (path : String) : Prop := ".md".toList <:+ path.toList

instance (path : String) : Decidable (IsPagePath path) :=
  inferInstanceAs (Decidable (_ <:+ _))

theorem isPagePath_append_md (s : String) : IsPagePath (s ++ ".md") := by
  rw [IsPagePath, String.toList_append]
  exact List.suffix_append _ _

/-- No file that a pattern selects is called like a page. -/
def SparesPages (pattern : String) : Prop :=
  ∀ (t : FileTree) (directory : String) (rs : List Route), t.IsTree → routes pattern = .ok rs →
    ∀ above n, above ++ [n] ∈ selected t directory rs → ¬IsPagePath n

/-- Where a run reads a file that is found there is no place of a page. -/
theorem exists_concat_of_mem_find (ht : t.IsTree) (hspares : SparesPages pattern)
    (hfind : find t directory pattern = .ok found) {f : String} (hf : f ∈ found) :
    ∃ above n, t.destination (join [directory, f]) = above ++ [n] ∧ ¬IsPagePath n := by
  obtain ⟨rs, p, hroutes, hp, rfl⟩ := exists_nameOf_of_mem_find hfind hf
  obtain ⟨hne, hsegments⟩ := isSegment_of_mem_selected ht.toIsProper hp
  obtain ⟨front, hfront⟩ :=
    suffix_destination_join_nameOf ht.toIsProper directory rs hne hsegments
  obtain ⟨above, n, rfl⟩ := (p.eq_nil_or_concat').resolve_left hne
  exact ⟨front ++ above, n, by rw [← hfront, List.append_assoc],
    hspares t directory rs ht hroutes above n hp⟩

/-- The last step decides which names the files have. -/
theorem exists_getLast?_of_mem_followSteps {ss : List Step} (hq : q ∈ followSteps t ss place) :
    ss.getLast? = some .anywhere ∨
      ∃ s above n, ss.getLast? = some (.names s) ∧ q = above ++ [n] ∧ s.passes n = true := by
  -- What comes last in the rest of the steps comes last in all of them.
  have hlast : ∀ {s : Step} {rest : List Step}, rest ≠ [] →
      (s :: rest).getLast? = rest.getLast? := by
    intro s rest hrest
    obtain ⟨x, xs, rfl⟩ := List.exists_cons_of_ne_nil hrest
    exact List.getLast?_cons_cons
  have hne : ∀ {rest : List Step} {p : List String}, q ∈ followSteps t rest p → rest ≠ [] := by
    rintro _ _ h rfl
    rw [followSteps] at h
    cases h
  induction ss, place using followSteps.induct t with
  | case1 place => rw [followSteps] at hq; cases hq
  | case2 place rest => rw [followSteps] at hq; cases hq
  | case3 rest place ih =>
    rw [followSteps] at hq
    rw [hlast (hne hq)]
    exact ih hq
  | case4 rest place ih =>
    rw [followSteps] at hq
    rw [hlast (hne hq)]
    exact ih hq
  | case5 s place =>
    rw [followSteps] at hq
    obtain ⟨n, rfl, hn, -⟩ := mem_filesIn.1 hq
    exact .inr ⟨s, place, n, rfl, rfl, hn⟩
  | case6 name rest place hrest ih =>
    rw [followSteps] at hq
    · rw [hlast (hne hq)]
      exact ih hq
    · exact hrest
  | case7 s rest place hrest hs ih =>
    rw [followSteps] at hq
    · obtain ⟨n, -, hnq⟩ := List.mem_flatMap.1 hq
      split at hnq
      · rw [hlast (hne hnq)]
        exact ih n hnq
      · cases hnq
    · exact hrest
    · exact hs
  | case8 place hfile => exact .inl rfl
  | case9 place hfile => exact .inl rfl
  | case10 rest place hrest ih =>
    rw [followSteps] at hq
    · obtain ⟨d, -, hdq⟩ := List.mem_flatMap.1 hq
      split at hdq
      · rw [hlast (hne hdq)]
        exact ih d hdq
      · cases hdq
    · exact hrest

/-- A pattern spares pages if its routes end in tests that no such name passes. -/
theorem sparesPages_of_routes (h : ∀ rs, routes pattern = .ok rs → ∀ r ∈ rs,
      r.steps.getLast? ≠ some .anywhere ∧
        ∀ s, r.steps.getLast? = some (.names s) → ∀ n, s.passes n = true → ¬IsPagePath n) :
    SparesPages pattern := by
  intro t directory rs _ hroutes above n hp
  obtain ⟨r, hr, hp⟩ := mem_selected.1 hp
  obtain ⟨place, hq⟩ := exists_followSteps_of_mem_files hp
  obtain ⟨hanywhere, hnames⟩ := h rs hroutes r hr
  obtain hlast | ⟨s, above', n', hlast, hplace, hpass⟩ := exists_getLast?_of_mem_followSteps hq
  · exact absurd hlast hanywhere
  · obtain ⟨-, hname⟩ := List.append_inj' hplace rfl
    cases hname
    exact hnames s hlast n hpass

/-- A name that ends in just some text is no page's if that text ends otherwise. -/
theorem not_isPagePath_of_ending {length? : Option Nat} {tail : List Nat} {u : Nat}
    (hlast : tail.getLast? = some u) (hu : u ≠ 'd'.toNat)
    (hpass : (NameTest.ending length? tail).passes n = true) : ¬IsPagePath n := by
  rintro ⟨front, hfront⟩
  have hsuffix : tail <:+ Text.units n.toList := by
    unfold NameTest.passes at hpass
    simp only [Bool.and_eq_true, List.isSuffixOf_iff_suffix] at hpass
    exact hpass.1.2
  obtain ⟨before, hbefore⟩ := hsuffix
  have hmd : Text.units ".md".toList = ['.'.toNat, 'm'.toNat, 'd'.toNat] := by decide
  have hend := congrArg List.getLast? hbefore
  rw [List.getLast?_append, hlast, ← hfront, Text.units_append, List.getLast?_append, hmd] at hend
  exact hu (Option.some.inj hend)

/-- So a pattern spares pages if it ends in a test for such a text. -/
theorem sparesPages_of_ending (r : Route) {length? : Option Nat} {tail : List Nat} {u : Nat}
    (hroutes : (routes pattern).toOption = some [r])
    (hsteps : r.steps.getLast? = some (.names (.ending length? tail)))
    (hlast : tail.getLast? = some u) (hu : u ≠ 'd'.toNat) : SparesPages pattern := by
  refine sparesPages_of_routes fun rs hrs r' hr' => ?_
  rw [hrs] at hroutes
  cases hroutes
  rw [List.mem_singleton] at hr'
  rw [hr', hsteps]
  refine ⟨nofun, fun s hs n => ?_⟩
  cases hs
  exact not_isPagePath_of_ending hlast hu

/-! ## the default pattern -/

theorem routes_default : (routes ({} : Config.Settings).pattern).toOption =
    some [⟨false, [.names (.ending none (".xml".toList.map Char.toNat))]⟩] := by
  decide +kernel

/-- The default pattern spares pages. -/
theorem sparesPages_default : SparesPages ({} : Config.Settings).pattern :=
  sparesPages_of_ending _ (u := 'l'.toNat) routes_default rfl rfl (by decide)

/-- The default pattern is steady everywhere. -/
theorem isSteadyIn_default (t : FileTree) (directory : String) :
    IsSteadyIn t directory ({} : Config.Settings).pattern := by
  intro rs hrs r hr
  have hroutes := routes_default
  rw [hrs] at hroutes
  cases hroutes
  rw [List.mem_singleton.1 hr]
  exact ⟨by decide, fun _ hup => absurd hup (by decide)⟩

end Docdown.Glob
