import Docdown.Xml.Tree
import Mathlib.Data.List.Forall2
import Mathlib.Logic.Relation

/-!
# Docdown.Proofs.Xml.Rewriting

Changes of a tree that a reader of its documentation cannot see.  Of some elements only
the text is read (`textNames`), a few are looked for at any depth (`soughtNames`), and one
attribute is read of a few (`kindNames`).  So the text may be cut otherwise, elements of
which only the text is read may lose the markup inside them, other attributes may be
anything, and outside of every definition the elements that are none may be taken away
from around what they hold (`Element.Rewrites`).

What is the same after such a change is the text (`Element.Alike.toText_eq`), and one by
one alike are the elements directly inside (`Element.Alike.children`) and those that are
looked for (`Element.Rewrites.descendants`).
-/

namespace Docdown.Xml

/-- Elements of which only the text is read. -/
def textNames : List String :=
  ["para", "programlisting", "compoundname", "name", "definition", "id", "argsstring", "type",
    "declname", "defname"]

/-- Definitions, which are looked for at any depth below the root. -/
def definitionNames : List String := ["compounddef", "memberdef"]

/-- Elements that are looked for at any depth. -/
def soughtNames : List String := "enum" :: definitionNames

/-- Elements of which the attribute `kind` is read. -/
def kindNames : List String := ["compounddef", "simplesect"]

/-- One content after another. -/
def Content.append : Content → Content → Content
  | .nil, d => d
  | .text v r, d => .text v (r.append d)
  | .element n as c r, d => .element n as c (r.append d)

/-! ## what may change -/

/-- What may change about an element itself: the markup in one of which only the text is
read, unless something in it is looked for, and every attribute that is not read. -/
inductive Element.Redresses : Element → Element → Prop
  | flatten {n : String} {as : List Attribute} {c : Content} : n ∈ textNames →
    (∀ name ∈ soughtNames, c.descendants name = []) →
    Redresses ⟨n, as, c⟩ ⟨n, as, .text c.toText .nil⟩
  | attributes {n : String} {as bs : List Attribute} {c : Content} :
    (n ∈ kindNames → bs.lookup "kind" = as.lookup "kind") → Redresses ⟨n, as, c⟩ ⟨n, bs, c⟩

/-- What may change in a content.  Only where it is open, outside of every definition, an
element may be taken away from around what it holds. -/
inductive Content.Rewrites : (isOpen : Bool) → Content → Content → Prop
  /-- A run is cut in two. -/
  | cut {isOpen : Bool} {v w : String} {r : Content} :
    Rewrites isOpen (.text (v ++ w) r) (.text v (.text w r))
  /-- An empty run is put in. -/
  | blank {isOpen : Bool} {r : Content} : Rewrites isOpen r (.text "" r)
  | unwrap {n : String} {as : List Attribute} {c r : Content} : n ∉ definitionNames →
    Rewrites true (.element n as c r) (c.append r)
  | redress {isOpen : Bool} {n m : String} {as bs : List Attribute} {c d r : Content} :
    Element.Redresses ⟨n, as, c⟩ ⟨m, bs, d⟩ →
    Rewrites isOpen (.element n as c r) (.element m bs d r)
  | inside {isOpen : Bool} {n : String} {as : List Attribute} {c d r : Content} :
    Rewrites (isOpen && n ∉ definitionNames) c d →
    Rewrites isOpen (.element n as c r) (.element n as d r)
  | afterText {isOpen : Bool} {v : String} {r s : Content} : Rewrites isOpen r s →
    Rewrites isOpen (.text v r) (.text v s)
  | afterElement {isOpen : Bool} {n : String} {as : List Attribute} {c r s : Content} :
    Rewrites isOpen r s → Rewrites isOpen (.element n as c r) (.element n as c s)

namespace Element

/-- What may change about an element or anywhere in it. -/
inductive Rewrites (isOpen : Bool) : Element → Element → Prop
  | redress {e d : Element} : e.Redresses d → Rewrites isOpen e d
  | content {n : String} {as : List Attribute} {c d : Content} : c.Rewrites isOpen d →
    Rewrites isOpen ⟨n, as, c⟩ ⟨n, as, d⟩

/-- Two elements are the same or differ by one change, where nothing is open. -/
abbrev Alike : Element → Element → Prop := Relation.ReflGen (Rewrites false)

end Element

/-! ## the text -/

@[simp] theorem Content.toText_append (c d : Content) :
    (c.append d).toText = c.toText ++ d.toText := by
  induction c with
  | nil => simp [append, toText]
  | text v r ih => simp [append, toText, ih, String.append_assoc]
  | element n as c r _ ih => simp [append, toText, ih, String.append_assoc]

theorem Element.Redresses.toText_eq {e d : Element} (h : e.Redresses d) :
    d.toText = e.toText := by
  cases h with
  | flatten _ _ => simp [Element.toText, Content.toText]
  | attributes _ => rfl

theorem Content.Rewrites.toText_eq {isOpen : Bool} {c d : Content} (h : c.Rewrites isOpen d) :
    d.toText = c.toText := by
  induction h with
  | cut => simp [toText, String.append_assoc]
  | blank => simp [toText]
  | unwrap _ => simp [toText]
  | @redress _ _ _ _ _ c d _ h =>
    have hfirst : d.toText = c.toText := h.toText_eq
    rw [toText, hfirst, toText]
  | inside _ ih => simp [toText, ih]
  | afterText _ ih => simp [toText, ih]
  | afterElement _ ih => simp [toText, ih]

theorem Element.Rewrites.toText_eq {isOpen : Bool} {e d : Element} (h : e.Rewrites isOpen d) :
    d.toText = e.toText := by
  cases h with
  | redress h => exact h.toText_eq
  | content h => exact h.toText_eq

theorem Element.Alike.toText_eq {e d : Element} (h : e.Alike d) : d.toText = e.toText := by
  cases h with
  | refl => rfl
  | single h => exact h.toText_eq

/-! ## names and kinds -/

theorem Element.Redresses.name_eq {e d : Element} (h : e.Redresses d) : d.name = e.name := by
  cases h <;> rfl

theorem Element.Alike.name_eq {e d : Element} (h : e.Alike d) : d.name = e.name := by
  cases h with
  | refl => rfl
  | single h =>
    cases h with
    | redress h => exact h.name_eq
    | content _ => rfl

/-- Where the kind is read it stays. -/
theorem Element.Alike.kind_eq {e d : Element} (h : e.Alike d) (hname : e.name ∈ kindNames) :
    d.attribute? "kind" = e.attribute? "kind" := by
  cases h with
  | refl => rfl
  | single h =>
    cases h with
    | content _ => rfl
    | redress h =>
      cases h with
      | flatten _ _ => rfl
      | attributes hkind => exact hkind hname

/-! ## elements directly inside -/

theorem forall₂_alike_refl (es : List Element) : List.Forall₂ Element.Alike es es :=
  List.forall₂_same.2 fun _ _ => .refl

/-- Where nothing is open no element directly in a content comes or goes. -/
theorem Content.Rewrites.elements {c d : Content} (h : c.Rewrites false d) :
    List.Forall₂ Element.Alike c.elements d.elements := by
  generalize hclosed : false = isOpen at h
  induction h with
  | cut => exact forall₂_alike_refl _
  | blank => exact forall₂_alike_refl _
  | unwrap _ => cases hclosed
  | redress h => exact .cons (.single (.redress h)) (forall₂_alike_refl _)
  | inside h _ =>
    subst hclosed
    exact .cons (.single (.content h)) (forall₂_alike_refl _)
  | afterText _ ih => exact ih hclosed
  | afterElement _ ih => exact .cons .refl (ih hclosed)

theorem name_of_mem_descendants {name : String} {c : Content} {e : Element}
    (h : e ∈ c.descendants name) : e.name = name := by
  induction c with
  | nil => cases h
  | text v r ih => exact ih h
  | element n as c r ihc ihr =>
    rw [Content.descendants] at h
    split at h
    · rename_i hn
      rcases List.mem_cons.1 h with rfl | h
      · exact hn
      · exact (List.mem_append.1 h).elim ihc ihr
    · exact (List.mem_append.1 h).elim ihc ihr

/-- What is directly inside is also found at any depth. -/
theorem mem_descendants_of_mem_elements {c : Content} {e : Element} (h : e ∈ c.elements) :
    e ∈ c.descendants e.name := by
  induction c with
  | nil => cases h
  | text v r ih => exact ih h
  | element n as c r _ ihr =>
    rw [Content.descendants]
    rcases List.mem_cons.1 h with rfl | h
    · rw [if_pos rfl]
      exact List.mem_cons_self
    · have hrest := List.mem_append_right (c.descendants e.name) (ihr h)
      split
      · exact List.mem_cons_of_mem _ hrest
      · exact hrest

namespace Element

theorem children_eq_nil {e : Element} {name : String} (h : e.content.descendants name = []) :
    e.children name = [] := by
  refine List.filter_eq_nil_iff.2 fun d hd hname => ?_
  have hmem := mem_descendants_of_mem_elements hd
  rw [eq_of_beq hname, h] at hmem
  cases hmem

/-- Elements of a name directly inside alike elements are alike, one by one.  Inside an
element of which only the text is read this goes for what is looked for. -/
theorem Alike.children {e d : Element} (h : e.Alike d) {name : String}
    (hname : e.name ∈ textNames → name ∈ soughtNames) :
    List.Forall₂ Alike (e.children name) (d.children name) := by
  have hfilter : ∀ {es ds : List Element}, List.Forall₂ Alike es ds →
      List.Forall₂ Alike (es.filter (·.name == name)) (ds.filter (·.name == name)) :=
    fun h => List.rel_filter (fun e d hed => by simp [Alike.name_eq hed]) h
  cases h with
  | refl => exact forall₂_alike_refl _
  | single h =>
    cases h with
    | content h => exact hfilter h.elements
    | redress h =>
      cases h with
      | attributes _ => exact forall₂_alike_refl _
      | flatten htext hnone =>
        rw [children_eq_nil (hnone name (hname htext))]
        exact .nil

end Element

/-! ## elements at any depth -/

@[simp] theorem Content.descendants_append (name : String) (c d : Content) :
    (c.append d).descendants name = c.descendants name ++ d.descendants name := by
  induction c with
  | nil => rfl
  | text v r ih => exact ih
  | element n as c r _ ih =>
    rw [append, descendants, descendants, ih]
    by_cases hn : n = name <;> simp [hn]

/-- The elements of a name in a content, given those in its first element and in the
rest. -/
theorem forall₂_descendants_element {name n m : String} {as bs : List Attribute}
    {c d r s : Content} (hname : m = n) (hfirst : n = name → Element.Alike ⟨n, as, c⟩ ⟨m, bs, d⟩)
    (hc : List.Forall₂ Element.Alike (c.descendants name) (d.descendants name))
    (hr : List.Forall₂ Element.Alike (r.descendants name) (s.descendants name)) :
    List.Forall₂ Element.Alike ((Content.element n as c r).descendants name)
      ((Content.element m bs d s).descendants name) := by
  have hbelow := List.rel_append hc hr
  subst hname
  rw [Content.descendants, Content.descendants]
  split
  · rename_i hn
    exact .cons (hfirst hn) hbelow
  · exact hbelow

/-- Elements that are looked for in a content are alike, one by one, if they are looked for
inside definitions only or are definitions. -/
theorem Content.Rewrites.descendants {isOpen : Bool} {c d : Content} (h : c.Rewrites isOpen d)
    {name : String} (hsought : name ∈ soughtNames)
    (hopen : isOpen = true → name ∈ definitionNames) :
    List.Forall₂ Element.Alike (c.descendants name) (d.descendants name) := by
  induction h with
  | cut => exact forall₂_alike_refl _
  | blank => exact forall₂_alike_refl _
  | @unwrap n as c r hn =>
    have hne : n ≠ name := fun e => hn (e ▸ hopen rfl)
    rw [descendants_append, Content.descendants, if_neg hne]
    exact forall₂_alike_refl _
  | redress h =>
    have hfirst : Relation.ReflGen (Element.Rewrites false) _ _ := .single (.redress h)
    refine forall₂_descendants_element h.name_eq (fun _ => hfirst) ?_ (forall₂_alike_refl _)
    cases h with
    | attributes _ => exact forall₂_alike_refl _
    | flatten _ hnone =>
      rw [hnone name hsought]
      exact .nil
  | @inside isOpen n as c d r h ih =>
    refine forall₂_descendants_element rfl (fun hn => ?_)
      (ih fun hinner => hopen (Bool.and_eq_true_iff.1 hinner).1) (forall₂_alike_refl _)
    -- Inside an element that is looked for nothing is open.
    have hclosed : (isOpen && n ∉ definitionNames) = false := by
      cases isOpen with
      | false => rfl
      | true => simp [hn, hopen rfl]
    rw [hclosed] at h
    exact .single (.content h)
  | afterText _ ih => exact ih hopen
  | afterElement _ ih =>
    exact forall₂_descendants_element rfl (fun _ => .refl) (forall₂_alike_refl _) (ih hopen)

namespace Element

theorem Rewrites.descendants {isOpen : Bool} {e d : Element} (h : e.Rewrites isOpen d)
    {name : String} (hsought : name ∈ soughtNames)
    (hopen : isOpen = true → name ∈ definitionNames) :
    List.Forall₂ Alike (e.descendants name) (d.descendants name) := by
  cases h with
  | content h => exact h.descendants hsought hopen
  | redress h =>
    cases h with
    | attributes _ => exact forall₂_alike_refl _
    | flatten _ hnone =>
      rw [Element.descendants, hnone name hsought]
      exact .nil

theorem Alike.descendants {e d : Element} (h : e.Alike d) {name : String}
    (hsought : name ∈ soughtNames) :
    List.Forall₂ Alike (e.descendants name) (d.descendants name) := by
  cases h with
  | refl => exact forall₂_alike_refl _
  | single h => exact h.descendants hsought nofun

end Element

/-! ## what is read of alike elements -/

/-- What is read of each of some alike elements of a name is the same if it is for any
two. -/
theorem map_eq_of_forall₂ {α : Type} {name : String} {es ds : List Element} {f : Element → α}
    (h : List.Forall₂ Element.Alike es ds) (hname : ∀ e ∈ es, e.name = name)
    (hf : ∀ e d : Element, e.name = name → e.Alike d → f d = f e) : ds.map f = es.map f := by
  induction h with
  | nil => rfl
  | @cons e d es ds hed _ ih =>
    rw [List.map_cons, List.map_cons, hf e d (hname e List.mem_cons_self) hed,
      ih fun e he => hname e (List.mem_cons_of_mem _ he)]

namespace Element

theorem name_of_mem_children {e d : Element} {name : String} (h : d ∈ e.children name) :
    d.name = name :=
  eq_of_beq (List.mem_filter.1 h).2

section

variable {α : Type} {e d : Element} {name : String} {f : Element → α}

theorem map_children_eq (h : e.Alike d) (hname : e.name ∈ textNames → name ∈ soughtNames)
    (hf : ∀ e d : Element, e.name = name → e.Alike d → f d = f e) :
    (d.children name).map f = (e.children name).map f :=
  map_eq_of_forall₂ (h.children hname) (fun _ => name_of_mem_children) hf

theorem map_child?_eq (h : e.Alike d) (hname : e.name ∈ textNames → name ∈ soughtNames)
    (hf : ∀ e d : Element, e.name = name → e.Alike d → f d = f e) :
    (d.child? name).map f = (e.child? name).map f := by
  rw [child?_eq_head?_children, child?_eq_head?_children, ← List.head?_map, ← List.head?_map,
    map_children_eq h hname hf]

theorem map_descendants_eq (h : List.Forall₂ Alike (e.descendants name) (d.descendants name))
    (hf : ∀ e d : Element, e.name = name → e.Alike d → f d = f e) :
    (d.descendants name).map f = (e.descendants name).map f :=
  map_eq_of_forall₂ h (fun _ => name_of_mem_descendants) hf

end

end Element

end Docdown.Xml
