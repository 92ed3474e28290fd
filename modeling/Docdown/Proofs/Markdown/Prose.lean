import Docdown.Doc.Reading
import Docdown.Markdown.Prose
import Docdown.Proofs.Text.Stripping
import Mathlib.Logic.Relation

/-!
# Docdown.Proofs.Markdown.Prose

What is shown of a description (`proseRule`).  The shown text is trimmed, and it is empty only
if nothing but blanks was written.  Blanks around paragraphs and blank paragraphs make no
difference (`Repads`).  For a description read of an element this can be said of the element:
nothing is shown if and only if all its text is blank, for the paragraphs are part of it.
-/

namespace Docdown.Markdown

open Doc
open Text (AllBlank IsTrimmed)
open Xml (Element Content)

/-! ## joined paragraphs -/

theorem joined_ne_empty {separator : String} {ts : List String} (hne : ts ≠ [])
    (h : ∀ t ∈ ts, t ≠ "") : joined separator ts ≠ "" := by
  obtain ⟨t, ts, rfl⟩ := List.exists_cons_of_ne_nil hne
  have ht : t ≠ "" := h t List.mem_cons_self
  by_cases hnil : ts = []
  · rwa [hnil, joined, String.intercalate_singleton]
  · rw [joined, String.intercalate_cons_of_ne_nil hnil]
    simp [ht]

theorem isTrimmed_joined {separator : String} {ts : List String}
    (h : ∀ t ∈ ts, t ≠ "" ∧ IsTrimmed t) : IsTrimmed (joined separator ts) := by
  induction ts with
  | nil => exact ⟨nofun, nofun⟩
  | cons t ts ih =>
    rw [List.forall_mem_cons] at h
    obtain ⟨⟨ht, htrimmed⟩, hrest⟩ := h
    by_cases hnil : ts = []
    · rwa [hnil, joined, String.intercalate_singleton]
    · rw [joined, String.intercalate_cons_of_ne_nil hnil]
      exact htrimmed.append (ih hrest) ht (joined_ne_empty hnil fun u hu => (hrest u hu).1) _

/-! ## shown paragraphs -/

theorem mem_paragraphs {d : Description} {t : String} :
    t ∈ paragraphs d ↔ ∃ p ∈ d.paragraphs, Text.trim p = t ∧ ¬AllBlank p := by
  rw [paragraphs, List.mem_filter, List.mem_map, decide_eq_true_eq]
  constructor
  · rintro ⟨⟨p, hp, rfl⟩, hne⟩
    exact ⟨p, hp, rfl, mt Text.trim_eq_empty_iff.2 hne⟩
  · rintro ⟨p, hp, rfl, hblank⟩
    exact ⟨⟨p, hp, rfl⟩, mt Text.trim_eq_empty_iff.1 hblank⟩

theorem paragraphs_eq_nil_iff {d : Description} :
    paragraphs d = [] ↔ ∀ p ∈ d.paragraphs, AllBlank p := by
  rw [List.eq_nil_iff_forall_not_mem]
  constructor
  · intro h p hp
    by_contra hblank
    exact h (Text.trim p) (mem_paragraphs.2 ⟨p, hp, rfl, hblank⟩)
  · intro h t ht
    obtain ⟨p, hp, -, hblank⟩ := mem_paragraphs.1 ht
    exact hblank (h p hp)

theorem of_mem_paragraphs {d : Description} {t : String} (h : t ∈ paragraphs d) :
    t ≠ "" ∧ IsTrimmed t := by
  obtain ⟨p, -, rfl, hblank⟩ := mem_paragraphs.1 h
  exact ⟨mt Text.trim_eq_empty_iff.1 hblank, Text.isTrimmed_trim p⟩

theorem prose_of_paragraphs {d : Description} (h : paragraphs d ≠ []) :
    prose d = joined "\n\n" (paragraphs d) := by
  rw [prose, if_neg (by simpa using h)]

theorem prose_of_no_paragraphs {d : Description} (h : paragraphs d = []) :
    prose d = Text.trim d.text := by
  rw [prose, h, List.isEmpty_nil, if_pos rfl]

theorem isTrimmed_prose (d : Description) : IsTrimmed (prose d) := by
  by_cases h : paragraphs d = []
  · rw [prose_of_no_paragraphs h]
    exact Text.isTrimmed_trim d.text
  · rw [prose_of_paragraphs h]
    exact isTrimmed_joined fun t => of_mem_paragraphs

/-- Nothing is shown of a description if and only if nothing but blanks is in it. -/
theorem prose_eq_empty_iff {d : Description} :
    prose d = "" ↔ (∀ p ∈ d.paragraphs, AllBlank p) ∧ AllBlank d.text := by
  by_cases h : paragraphs d = []
  · rw [prose_of_no_paragraphs h, Text.trim_eq_empty_iff]
    exact (and_iff_right (paragraphs_eq_nil_iff.1 h)).symm
  · rw [prose_of_paragraphs h]
    exact iff_of_false (joined_ne_empty h fun t ht => (of_mem_paragraphs ht).1)
      fun hblank => h (paragraphs_eq_nil_iff.2 hblank.1)

/-! ## blanks that make no difference -/

/-- Paragraphs with a blank one more, or with blanks around one of them. -/
inductive Repads : List String → List String → Prop
  | insert (before after : List String) {p : String} :
    AllBlank p → Repads (before ++ after) (before ++ p :: after)
  | pad (before after : List String) (p : String) {a b : String} :
    AllBlank a → AllBlank b → Repads (before ++ p :: after) (before ++ (a ++ p ++ b) :: after)

theorem Repads.paragraphs_eq {ps qs : List String} (h : Repads ps qs) (text : String) :
    paragraphs ⟨ps, text⟩ = paragraphs ⟨qs, text⟩ := by
  cases h with
  | insert before after hp =>
    have htrim := Text.trim_eq_empty_iff.2 hp
    simp [paragraphs, htrim]
  | pad before after p ha hb => simp [paragraphs, Text.trim_append_append ha hb]

/-- What is shown of paragraphs stays the same if blank ones are put in or taken out and if
blanks are put around others or taken away. -/
theorem prose_eq_of_eqvGen {ps qs : List String} (h : Relation.EqvGen Repads ps qs)
    (text : String) : prose ⟨ps, text⟩ = prose ⟨qs, text⟩ := by
  have hshown : paragraphs ⟨ps, text⟩ = paragraphs ⟨qs, text⟩ := by
    induction h with
    | rel ps qs h => exact h.paragraphs_eq text
    | refl ps => rfl
    | symm ps qs _ ih => exact ih.symm
    | trans ps qs rs _ _ ih ih' => exact ih.trans ih'
  rw [prose, prose, hshown]

/-- What is shown of a description is shown again as the only paragraph of another. -/
theorem prose_singleton {r : String} (hr : r ≠ "") (htrimmed : IsTrimmed r) (text : String) :
    prose ⟨[r], text⟩ = r := by
  have hshown : paragraphs ⟨[r], text⟩ = [r] := by simp [paragraphs, htrimmed.trim_eq, hr]
  rw [prose_of_paragraphs (by simp [hshown]), hshown, joined, String.intercalate_singleton]

/-! ## descriptions of elements -/

/-- The text of an element in a content is part of the text of the content. -/
theorem exists_toText_eq_of_mem_elements {c : Content} {e : Element} (h : e ∈ c.elements) :
    ∃ before after, c.toText = before ++ e.toText ++ after := by
  induction c with
  | nil => cases h
  | text v r ih =>
    obtain ⟨before, after, hr⟩ := ih h
    exact ⟨v ++ before, after, by simp [Content.toText, hr, String.append_assoc]⟩
  | element n as c r _ ih =>
    rw [Content.elements, List.mem_cons] at h
    obtain rfl | h := h
    · exact ⟨"", r.toText, by rw [String.empty_append]; rfl⟩
    · obtain ⟨before, after, hr⟩ := ih h
      exact ⟨c.toText ++ before, after, by simp [Content.toText, hr, String.append_assoc]⟩

theorem AllBlank.of_mem_children {e child : Element} {name : String} (h : AllBlank e.toText)
    (hchild : child ∈ e.children name) : AllBlank child.toText := by
  obtain ⟨before, after, htext⟩ :=
    exists_toText_eq_of_mem_elements (List.mem_of_mem_filter hchild)
  have hwhole : e.toText = before ++ child.toText ++ after := htext
  intro c hc
  refine h c ?_
  rw [hwhole, String.toList_append, String.toList_append]
  exact List.mem_append_left _ (List.mem_append_right _ hc)

/-- Nothing is shown of the description in an element if and only if all its text is blank. -/
theorem prose_ofElement_eq_empty_iff (e : Element) :
    prose (.ofElement e) = "" ↔ AllBlank e.toText := by
  rw [prose_eq_empty_iff]
  refine and_iff_right_of_imp fun hblank p hp => ?_
  obtain ⟨child, hchild, rfl⟩ := List.mem_map.1 hp
  exact AllBlank.of_mem_children hblank hchild

theorem paragraphs_ofElement (e : Element) :
    paragraphs (.ofElement e) = ((e.children "para").filter fun child =>
      ¬AllBlank child.toText).map fun child => Text.trim child.toText := by
  simp only [paragraphs, Description.ofElement, List.map_map, List.filter_map, Function.comp_def,
    ne_eq, Text.trim_eq_empty_iff]

/-! ## the rule of prose -/

/-- What is shown of descriptions, and of the descriptions in elements. -/
structure ProseRule : Prop where
  /-- The shown text is trimmed. -/
  trimmed : ∀ d, IsTrimmed (prose d)
  /-- It is empty if and only if each paragraph and the whole text are blank. -/
  empty_iff : ∀ d, prose d = "" ↔ (∀ p ∈ d.paragraphs, AllBlank p) ∧ AllBlank d.text
  /-- Blank paragraphs and blanks around paragraphs make no difference. -/
  repadded : ∀ (text : String) (ps qs : List String), Relation.EqvGen Repads ps qs →
    prose ⟨ps, text⟩ = prose ⟨qs, text⟩
  /-- As the only paragraph of a description a shown text is shown again. -/
  again : ∀ d, prose d ≠ "" → ∀ text, prose ⟨[prose d], text⟩ = prose d
  /-- Nothing is shown of an element if and only if all its text is blank. -/
  element_empty_iff : ∀ e, prose (.ofElement e) = "" ↔ AllBlank e.toText
  /-- Of an element with paragraphs that are not blank these are shown, with blank lines
  between them. -/
  element_paragraphs : ∀ e : Element, (∃ child ∈ e.children "para", ¬AllBlank child.toText) →
    prose (.ofElement e) = joined "\n\n" (((e.children "para").filter fun child =>
      ¬AllBlank child.toText).map fun child => Text.trim child.toText)

/-- **What is shown of a description is trimmed, and all that is dropped is blank.** -/
theorem proseRule : ProseRule where
  trimmed := isTrimmed_prose
  empty_iff _ := prose_eq_empty_iff
  repadded text _ _ h := prose_eq_of_eqvGen h text
  again d hd text := prose_singleton hd (isTrimmed_prose d) text
  element_empty_iff := prose_ofElement_eq_empty_iff
  element_paragraphs e h := by
    obtain ⟨child, hchild, hblank⟩ := h
    have hshown : paragraphs (.ofElement e) ≠ [] := by
      rw [Ne, paragraphs_eq_nil_iff]
      exact fun hall => hblank (hall child.toText (List.mem_map_of_mem hchild))
    rw [prose_of_paragraphs hshown, paragraphs_ofElement]

/-- What is written outside the paragraphs of an element is not shown. -/
theorem proseRule_outside :
    prose (.ofElement ⟨"briefdescription", [], .text "out" (.element "para" [] (.text "\n" .nil)
      (.element "para" [] (.text " in " .nil) .nil))⟩) = "in" :=
  (proseRule.element_paragraphs _ ⟨⟨"para", [], .text " in " .nil⟩, by decide,
    by decide⟩).trans (by decide +kernel)

end Docdown.Markdown
