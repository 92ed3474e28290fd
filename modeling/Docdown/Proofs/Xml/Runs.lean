import Docdown.Xml.Tree

/-!
# Docdown.Proofs.Xml.Runs

How content is cut into text runs.  `Content.merge` joins adjacent runs and
leaves empty ones out, so two contents that differ only in their cuts have the
same merged form.  Every query of the tree gives the same texts and, up to
merging, the same elements on the merged form:

* `toText_merge` -- the text inside;
* `elements_merge`, `descendants_merge` -- the elements one level down and at
  any depth.

`Content.isMerged` says of a content that it has no cut to lose, and
`merge_eq_self` that merging then changes nothing.
-/

namespace Docdown.Xml

namespace Content

/-! ## merging -/

/-- Text put in front of a content, as part of the run that stands there if
there is one. -/
def prepend (v : String) : Content → Content
  | .text w r => .text (v ++ w) r
  | c => if v = "" then c else .text v c

/-- A content with its runs joined, in front of a content whose runs are. -/
def mergeOnto : Content → Content → Content
  | .nil, k => k
  | .text v r, k => (r.mergeOnto k).prepend v
  | .element n as c r, k => .element n as (c.mergeOnto .nil) (r.mergeOnto k)

/-- The content with adjacent runs joined and empty runs left out. -/
def merge (c : Content) : Content := c.mergeOnto .nil

/-- Whether a content begins with a text run. -/
def startsWithText : Content → Bool
  | .text _ _ => true
  | _ => false

/-- Whether no run is empty and no two runs are adjacent, at any depth. -/
def isMerged : Content → Bool
  | .nil => true
  | .text v r => v != "" && !r.startsWithText && r.isMerged
  | .element _ _ c r => c.isMerged && r.isMerged

@[simp] theorem merge_nil : merge .nil = .nil := rfl

@[simp] theorem merge_text (v : String) (r : Content) :
    merge (.text v r) = r.merge.prepend v := rfl

@[simp] theorem merge_element (n : String) (as : List Attribute) (c r : Content) :
    merge (.element n as c r) = .element n as c.merge r.merge := rfl

@[simp] theorem prepend_empty (c : Content) : c.prepend "" = c := by
  cases c <;> simp [prepend]

theorem prepend_nil {v : String} (hv : v ≠ "") : prepend v .nil = .text v .nil := if_neg hv

theorem prepend_element {v : String} (hv : v ≠ "") (n : String) (as : List Attribute)
    (c r : Content) : prepend v (.element n as c r) = .text v (.element n as c r) := if_neg hv

/-- Text put in front twice is put in front at once. -/
theorem prepend_prepend (v w : String) (c : Content) :
    (c.prepend w).prepend v = c.prepend (v ++ w) := by
  by_cases hw : w = ""
  · rw [hw, prepend_empty, String.append_empty]
  · have hvw : v ++ w ≠ "" := by
      rw [Ne, ← String.toList_eq_nil_iff, String.toList_append, List.append_eq_nil_iff,
        String.toList_eq_nil_iff, String.toList_eq_nil_iff]
      exact fun h => hw h.2
    cases c with
    | text u r => simp [prepend, String.append_assoc]
    | nil => rw [prepend_nil hw, prepend_nil hvw]; rfl
    | element n as d r => rw [prepend_element hw, prepend_element hvw]; rfl

/-- Where there is no cut to lose merging changes nothing. -/
theorem merge_eq_self {c : Content} (h : c.isMerged = true) : c.merge = c := by
  induction c with
  | nil => rfl
  | text v r ih =>
    simp only [isMerged, Bool.and_eq_true, Bool.not_eq_true', bne_iff_ne] at h
    obtain ⟨⟨hv, hr⟩, hm⟩ := h
    rw [merge_text, ih hm]
    cases r with
    | text w r => simp [startsWithText] at hr
    | nil => exact prepend_nil hv
    | element n as d r => exact prepend_element hv n as d r
  | element n as d r ihd ihr =>
    simp only [isMerged, Bool.and_eq_true] at h
    rw [merge_element, ihd h.1, ihr h.2]

/-! ## queries of merged content -/

@[simp] theorem toText_prepend (v : String) (c : Content) :
    (c.prepend v).toText = v ++ c.toText := by
  cases c with
  | text w r => simp [prepend, toText, String.append_assoc]
  | nil => by_cases hv : v = "" <;> simp [prepend, toText, hv]
  | element n as d r => by_cases hv : v = "" <;> simp [prepend, toText, hv]

/-- The text inside does not depend on the cuts. -/
@[simp] theorem toText_merge (c : Content) : c.merge.toText = c.toText := by
  induction c with
  | nil => rfl
  | text v r ih => rw [merge_text, toText_prepend, ih]; rfl
  | element n as d r ihd ihr => rw [merge_element, toText, ihd, ihr]; rfl

@[simp] theorem elements_prepend (v : String) (c : Content) :
    (c.prepend v).elements = c.elements := by
  cases c with
  | text w r => rfl
  | nil => by_cases hv : v = "" <;> simp [prepend, elements, hv]
  | element n as d r => by_cases hv : v = "" <;> simp [prepend, elements, hv]

@[simp] theorem descendants_prepend (name v : String) (c : Content) :
    (c.prepend v).descendants name = c.descendants name := by
  cases c with
  | text w r => rfl
  | nil => by_cases hv : v = "" <;> simp [prepend, descendants, hv]
  | element n as d r => by_cases hv : v = "" <;> simp [prepend, descendants, hv]

end Content

namespace Element

/-- The element with the runs inside it joined. -/
def merge (e : Element) : Element := ⟨e.name, e.attributes, e.content.merge⟩

@[simp] theorem attribute?_merge (e : Element) (name : String) :
    e.merge.attribute? name = e.attribute? name := rfl

@[simp] theorem toText_merge (e : Element) : e.merge.toText = e.toText :=
  e.content.toText_merge

/-- The text of an element is that of its merged form, as functions. -/
@[simp] theorem toText_comp_merge : toText ∘ merge = toText := funext toText_merge

end Element

namespace Content

/-- The elements directly in a merged content are those of the content, merged. -/
theorem elements_merge (c : Content) : c.merge.elements = c.elements.map Element.merge := by
  induction c with
  | nil => rfl
  | text v r ih => rw [merge_text, elements_prepend, ih]; rfl
  | element n as d r _ ihr => rw [merge_element, elements, ihr]; rfl

/-- The elements of a name in a merged content are those of the content, merged. -/
theorem descendants_merge (name : String) (c : Content) :
    c.merge.descendants name = (c.descendants name).map Element.merge := by
  induction c with
  | nil => rfl
  | text v r ih => rw [merge_text, descendants_prepend, ih]; rfl
  | element n as d r ihd ihr =>
    rw [merge_element, descendants, ihd, ihr, descendants]
    by_cases hn : n = name
    · simp [hn, Element.merge]
    · simp [hn]

end Content

namespace Element

theorem elements_merge (e : Element) : e.merge.elements = e.elements.map merge :=
  e.content.elements_merge

theorem descendants_merge (e : Element) (name : String) :
    e.merge.descendants name = (e.descendants name).map merge :=
  e.content.descendants_merge name

theorem children_merge (e : Element) (name : String) :
    e.merge.children name = (e.children name).map merge := by
  rw [children, elements_merge, List.filter_map]
  rfl

theorem child?_merge (e : Element) (name : String) :
    e.merge.child? name = (e.child? name).map merge := by
  rw [child?_eq_head?_children, child?_eq_head?_children, children_merge, List.head?_map]

/-- Whether an element has no empty run and no two adjacent runs inside it. -/
def isMerged (e : Element) : Bool := e.content.isMerged

theorem merge_eq_self {e : Element} (h : e.isMerged = true) : e.merge = e := by
  rw [merge, Content.merge_eq_self h]

end Element

end Docdown.Xml
