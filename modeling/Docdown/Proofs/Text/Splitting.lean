import Docdown.Text.Slug

/-!
# Docdown.Proofs.Text.Splitting

What splitting a text leaves.  No piece has a character that the text was split at, so a
slug has word characters and hyphens only (`isWordChar_of_mem_slug`).
-/

namespace Docdown.Text

theorem eq_false_of_mem_splitOnP {p : α → Bool} {xs w : List α} (h : w ∈ xs.splitOnP p) :
    ∀ x ∈ w, p x = false := by
  induction xs generalizing w with
  | nil =>
    rw [List.splitOnP_nil, List.mem_singleton] at h
    simp [h]
  | cons y ys ih =>
    rw [List.splitOnP_cons_eq_if_modifyHead] at h
    split at h
    · rcases List.mem_cons.1 h with rfl | h
      · simp
      · exact ih h
    next hy =>
      obtain ⟨v, vs, hvs⟩ := List.exists_cons_of_ne_nil (List.splitOnP_ne_nil p ys)
      rw [hvs, List.modifyHead_cons] at h
      rw [hvs] at ih
      rcases List.mem_cons.1 h with rfl | h
      · rw [List.forall_mem_cons]
        exact ⟨by simpa using hy, ih List.mem_cons_self⟩
      · exact ih (List.mem_cons_of_mem v h)

theorem mem_or_exists_mem_of_mem_intercalate {sep : List α} {xss : List (List α)} {x : α}
    (h : x ∈ sep.intercalate xss) : x ∈ sep ∨ ∃ xs ∈ xss, x ∈ xs := by
  induction xss with
  | nil => simp at h
  | cons xs xss ih =>
    by_cases hnil : xss = []
    · rw [hnil, List.intercalate_singleton] at h
      exact .inr ⟨xs, List.mem_cons_self, h⟩
    · rw [List.intercalate_cons_of_ne_nil hnil, List.mem_append, List.mem_append] at h
      obtain (hxs | hsep) | hrest := h
      · exact .inr ⟨xs, List.mem_cons_self, hxs⟩
      · exact .inl hsep
      · exact (ih hrest).imp_right fun ⟨ys, hys, hx⟩ => ⟨ys, List.mem_cons_of_mem xs hys, hx⟩

/-- A slug has word characters and hyphens only. -/
theorem isWordChar_of_mem_slug {s : String} {c : Char} (h : c ∈ (slug s).toList) :
    isWordChar c = true ∨ c = '-' := by
  rw [slug, String.toList_ofList] at h
  obtain hhyphen | ⟨w, hw, hc⟩ := mem_or_exists_mem_of_mem_intercalate h
  · exact .inr (List.mem_singleton.1 hhyphen)
  · have hpiece := eq_false_of_mem_splitOnP (List.mem_filter.1 hw).1 c hc
    exact .inl (by simpa using hpiece)

end Docdown.Text
