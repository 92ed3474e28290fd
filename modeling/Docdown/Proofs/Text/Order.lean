import Docdown.Text.Units

/-!
# Docdown.Proofs.Text.Order

The order of names is a linear order, as texts with the same units are the same
(`units_injective`).  So names in any order are sorted in just one way
(`mergeSort_nameLE_of_perm`).
-/

namespace Docdown.Text

/-- A text is known by its units. -/
theorem units_injective {cs ds : List Char} (h : units cs = units ds) : cs = ds := by
  have hpoints : cs.map Char.toNat = ds.map Char.toNat := by
    rw [← codePoints_units, ← codePoints_units, h]
  exact (List.map_inj_right fun _ _ => Char.toNat_inj.1).1 hpoints

theorem unitsLE_total (us vs : List Nat) : (unitsLE us vs || unitsLE vs us) = true := by
  induction us generalizing vs with
  | nil => simp [unitsLE]
  | cons u us ih =>
    cases vs with
    | nil => simp [unitsLE]
    | cons v vs =>
      have hrest := ih vs
      rcases Nat.lt_trichotomy u v with h | rfl | h
      · simp [unitsLE, h]
      · simpa [unitsLE] using hrest
      · simp [unitsLE, h]

theorem unitsLE_trans {us vs ws : List Nat} (h : unitsLE us vs = true) (h' : unitsLE vs ws = true) :
    unitsLE us ws = true := by
  induction us generalizing vs ws with
  | nil => rfl
  | cons u us ih =>
    cases vs with
    | nil => cases h
    | cons v vs =>
      cases ws with
      | nil => cases h'
      | cons w ws =>
        simp only [unitsLE, Bool.or_eq_true, decide_eq_true_eq, Bool.and_eq_true, beq_iff_eq]
          at h h' ⊢
        rcases h with h | ⟨rfl, h⟩ <;> rcases h' with h' | ⟨rfl, h'⟩
        · exact .inl (Nat.lt_trans h h')
        · exact .inl h
        · exact .inl h'
        · exact .inr ⟨rfl, ih h h'⟩

theorem unitsLE_antisymm {us vs : List Nat} (h : unitsLE us vs = true) (h' : unitsLE vs us = true) :
    us = vs := by
  induction us generalizing vs with
  | nil => cases vs with
    | nil => rfl
    | cons v vs => cases h'
  | cons u us ih =>
    cases vs with
    | nil => cases h
    | cons v vs =>
      simp only [unitsLE, Bool.or_eq_true, decide_eq_true_eq, Bool.and_eq_true, beq_iff_eq]
        at h h'
      rcases h with h | ⟨rfl, h⟩
      · rcases h' with h' | ⟨rfl, -⟩ <;> omega
      · rcases h' with h' | ⟨-, h'⟩
        · omega
        · rw [ih h h']

theorem nameLE_antisymm {s t : String} (h : nameLE s t = true) (h' : nameLE t s = true) : s = t :=
  String.toList_inj.1 (units_injective (unitsLE_antisymm h h'))

theorem nameLE_trans (r s t : String) (h : nameLE r s = true) (h' : nameLE s t = true) :
    nameLE r t = true :=
  unitsLE_trans h h'

theorem nameLE_total (s t : String) : (nameLE s t || nameLE t s) = true := unitsLE_total _ _

theorem pairwise_mergeSort_nameLE (names : List String) :
    (names.mergeSort nameLE).Pairwise fun s t => nameLE s t = true :=
  List.pairwise_mergeSort nameLE_trans nameLE_total names

/-- In whatever order names are listed, they are sorted in one way. -/
theorem mergeSort_nameLE_of_perm {names listed : List String} (h : listed.Perm names)
    (hsorted : names.Pairwise fun s t => nameLE s t = true) : listed.mergeSort nameLE = names :=
  List.Perm.eq_of_pairwise (fun _ _ _ _ => nameLE_antisymm) (pairwise_mergeSort_nameLE listed)
    hsorted ((List.mergeSort_perm listed nameLE).trans h)

end Docdown.Text
