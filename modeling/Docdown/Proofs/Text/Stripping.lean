import Docdown.Text.Blank
import Mathlib.Data.List.DropRight

/-!
# Docdown.Proofs.Text.Stripping

What stripping takes away: the elements at both ends for which `p` holds, as many as there
are, and nothing else (`exists_append_strip`).  More of them at the ends change nothing
(`strip_append_append`), and a list that has none there stays as it is (`strip_eq_self`).
A text is trimmed by stripping blanks.
-/

namespace Docdown.Text

/-! ## stripping -/

section Strip

variable {p : α → Bool} {xs : List α}

theorem strip_eq_rdropWhile (p : α → Bool) (xs : List α) :
    strip p xs = (xs.dropWhile p).rdropWhile p := rfl

/-- A list is a stripped list with elements for which `p` holds around it. -/
theorem exists_append_strip (p : α → Bool) (xs : List α) :
    ∃ as bs, xs = as ++ strip p xs ++ bs ∧ (∀ x ∈ as, p x = true) ∧ ∀ x ∈ bs, p x = true := by
  refine ⟨xs.takeWhile p, (xs.dropWhile p).rtakeWhile p, ?_, fun _ => List.mem_takeWhile_imp,
    fun _ => List.mem_rtakeWhile_imp⟩
  rw [strip_eq_rdropWhile, List.append_assoc, List.rdropWhile_append_rtakeWhile,
    List.takeWhile_append_dropWhile]

/-- Nothing is left of a list if and only if `p` holds for all of it. -/
theorem strip_eq_nil_iff : strip p xs = [] ↔ ∀ x ∈ xs, p x = true := by
  constructor
  · intro h
    obtain ⟨as, bs, hxs, has, hbs⟩ := exists_append_strip p xs
    rw [h, List.append_nil] at hxs
    rw [hxs, List.forall_mem_append]
    exact ⟨has, hbs⟩
  · intro h
    rw [strip_eq_rdropWhile, List.dropWhile_eq_nil_iff.2 h, List.rdropWhile_nil]

/-- What is left of a list starts with no element for which `p` holds. -/
theorem head?_strip {x : α} (h : (strip p xs).head? = some x) : p x = false := by
  obtain ⟨rest, hrest⟩ := List.rdropWhile_prefix p (xs.dropWhile p)
  refine head?_dropWhile_not p xs x ?_
  rw [← hrest, List.head?_append, ← strip_eq_rdropWhile, h, Option.some_or]

/-- More elements for which `p` holds at either end are stripped as well. -/
theorem strip_append_append {as bs : List α} (has : ∀ x ∈ as, p x = true)
    (hbs : ∀ x ∈ bs, p x = true) (xs : List α) : strip p (as ++ xs ++ bs) = strip p xs := by
  have hend : ∀ ys, List.rdropWhile p (ys ++ bs) = List.rdropWhile p ys := by
    intro ys
    rw [List.rdropWhile, List.reverse_append,
      List.dropWhile_append_of_pos fun x hx => hbs x (List.mem_reverse.1 hx), List.rdropWhile]
  rw [strip_eq_rdropWhile, strip_eq_rdropWhile, List.append_assoc,
    List.dropWhile_append_of_pos has, List.dropWhile_append]
  split
  next hxs =>
    rw [List.isEmpty_iff] at hxs
    rw [List.dropWhile_eq_nil_iff.2 hbs, hxs]
  next => rw [hend]

/-- A list without elements at its ends for which `p` holds stays as it is. -/
theorem strip_eq_self (hhead : ∀ x ∈ xs.head?, p x = false)
    (hlast : ∀ x ∈ xs.getLast?, p x = false) : strip p xs = xs := by
  cases xs with
  | nil => rfl
  | cons x xs =>
    have hfront : (x :: xs).dropWhile p = x :: xs :=
      List.dropWhile_cons_of_neg (by simp [hhead x rfl])
    rw [strip_eq_rdropWhile, hfront, List.rdropWhile_eq_self_iff]
    intro hne
    rw [hlast _ (List.getLast?_eq_some_getLast hne)]
    exact Bool.false_ne_true

end Strip

/-! ## trimming -/

/-- Whether a text has blanks only. -/
def AllBlank (s : String) : Prop := ∀ c ∈ s.toList, isBlank c = true

instance (s : String) : Decidable (AllBlank s) :=
  List.decidableBAll (isBlank · = true) s.toList

/-- Whether a text neither starts nor ends with a blank. -/
structure IsTrimmed (s : String) : Prop where
  head : ∀ c ∈ s.toList.head?, isBlank c = false
  last : ∀ c ∈ s.toList.getLast?, isBlank c = false

theorem isTrimmed_trim (s : String) : IsTrimmed (trim s) where
  head c hc := head?_strip (by rwa [toList_trim] at hc)
  last c hc := getLast?_strip isBlank s.toList c (by rwa [toList_trim] at hc)

theorem IsTrimmed.trim_eq {s : String} (h : IsTrimmed s) : trim s = s := by
  rw [← String.toList_inj, toList_trim, strip_eq_self h.head h.last]

theorem trim_eq_empty_iff {s : String} : trim s = "" ↔ AllBlank s := by
  rw [← String.toList_inj, toList_trim, String.toList_empty, strip_eq_nil_iff, AllBlank]

/-- Blanks around a text are trimmed with it. -/
theorem trim_append_append {a b : String} (ha : AllBlank a) (hb : AllBlank b) (s : String) :
    trim (a ++ s ++ b) = trim s := by
  rw [← String.toList_inj, toList_trim, toList_trim, String.toList_append, String.toList_append,
    strip_append_append ha hb]

/-- Texts that are trimmed and not empty are trimmed together. -/
theorem IsTrimmed.append {s t : String} (hs : IsTrimmed s) (ht : IsTrimmed t) (hse : s ≠ "")
    (hte : t ≠ "") (separator : String) : IsTrimmed (s ++ separator ++ t) := by
  obtain ⟨c, cs, hc⟩ := List.exists_cons_of_ne_nil (mt String.toList_eq_nil_iff.1 hse)
  have hlast : t.toList.getLast? ≠ none := by simpa using hte
  constructor
  · intro d hd
    refine hs.head d ?_
    rw [String.toList_append, String.toList_append, hc] at hd
    rwa [hc]
  · intro d hd
    refine ht.last d ?_
    rw [String.toList_append, List.getLast?_append] at hd
    rwa [Option.or_of_isSome (Option.isSome_iff_ne_none.2 hlast)] at hd

end Docdown.Text
