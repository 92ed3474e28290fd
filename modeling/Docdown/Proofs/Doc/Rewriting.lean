import Docdown.Convert
import Docdown.Group
import Docdown.Proofs.Xml.Rewriting

/-!
# Docdown.Proofs.Doc.Rewriting

A conversion sees only what is read of a tree.  Each record is the same when it is read of
alike elements, one lemma per record; so the documentation, its page and, where no element
is taken away from around others, the group of a document do not depend on the changes of
`Docdown.Proofs.Xml.Rewriting` (`page_eq_of_rewrites`).
-/

namespace Docdown.Doc

open Xml (Element)

variable {e d : Element}

/-- An element of which more than the text is read. -/
def IsStructural (e : Element) : Prop := e.name ∉ Xml.textNames

theorem isStructural_of_name {e : Element} {name : String} (h : e.name = name)
    (hname : name ∉ Xml.textNames) : IsStructural e := fun htext => hname (h ▸ htext)

/-! ## fields -/

theorem toText_eq_of_alike (name : String) (e d : Element) (_ : e.name = name)
    (h : e.Alike d) : d.toText = e.toText := h.toText_eq

theorem firstText_eq_of_alike (h : e.Alike d) (he : IsStructural e) (names : List String) :
    firstText d names = firstText e names := by
  have hchild : ∀ name, (d.child? name).map Element.toText = (e.child? name).map Element.toText :=
    fun name => Element.map_child?_eq h (fun ht => absurd ht he) (toText_eq_of_alike name)
  simp only [firstText, hchild]

theorem attributeText_kind_eq_of_alike (h : e.Alike d) (hname : e.name ∈ Xml.kindNames) :
    attributeText d "kind" = attributeText e "kind" := by
  rw [attributeText, h.kind_eq hname, attributeText]

/-! ## descriptions -/

theorem Description.ofElement_eq_of_alike (h : e.Alike d) (he : IsStructural e) :
    Description.ofElement d = Description.ofElement e := by
  rw [Description.ofElement, h.toText_eq,
    Element.map_children_eq h (fun ht => absurd ht he) (toText_eq_of_alike "para")]
  rfl

theorem description?_eq_of_alike (h : e.Alike d) (he : IsStructural e) {name : String}
    (hname : name ∉ Xml.textNames) : description? d name = description? e name :=
  Element.map_child?_eq h (fun ht => absurd ht he) fun _ _ hn h =>
    Description.ofElement_eq_of_alike h (isStructural_of_name hn hname)

theorem brief_eq_of_alike (h : e.Alike d) (he : IsStructural e) :
    description? d "briefdescription" = description? e "briefdescription" :=
  description?_eq_of_alike h he (by decide)

theorem Remark.ofElement_eq_of_alike (e d : Element) (hname : e.name = "simplesect")
    (h : e.Alike d) : Remark.ofElement d = Remark.ofElement e := by
  have he := isStructural_of_name hname (by decide)
  rw [Remark.ofElement, Description.ofElement_eq_of_alike h he,
    attributeText_kind_eq_of_alike h (by rw [hname]; decide), Remark.ofElement]

theorem Detail.ofElement_eq_of_alike (e d : Element) (hname : e.name = "detaileddescription")
    (h : e.Alike d) : Detail.ofElement d = Detail.ofElement e := by
  have he := isStructural_of_name hname (by decide)
  rw [Detail.ofElement, Description.ofElement_eq_of_alike h he,
    Element.map_children_eq h (fun ht => absurd ht he) (toText_eq_of_alike "programlisting"),
    Element.map_children_eq h (fun ht => absurd ht he) Remark.ofElement_eq_of_alike,
    Detail.ofElement]

/-! ## compounds -/

theorem EnumValue.ofElement_eq_of_alike (e d : Element) (hname : e.name = "enumvalue")
    (h : e.Alike d) : EnumValue.ofElement d = EnumValue.ofElement e := by
  have he := isStructural_of_name hname (by decide)
  rw [EnumValue.ofElement, firstText_eq_of_alike h he, brief_eq_of_alike h he,
    EnumValue.ofElement]

theorem Enumeration.ofElement_eq_of_alike (e d : Element) (hname : e.name = "enum")
    (h : e.Alike d) : Enumeration.ofElement d = Enumeration.ofElement e := by
  have he := isStructural_of_name hname (by decide)
  rw [Enumeration.ofElement, firstText_eq_of_alike h he, brief_eq_of_alike h he,
    Element.map_children_eq h (fun ht => absurd ht he) EnumValue.ofElement_eq_of_alike,
    Enumeration.ofElement]

theorem Compound.ofElement_eq_of_alike (e d : Element) (hname : e.name = "compounddef")
    (h : e.Alike d) : Compound.ofElement d = Compound.ofElement e := by
  have he := isStructural_of_name hname (by decide)
  rw [Compound.ofElement, attributeText_kind_eq_of_alike h (by rw [hname]; decide),
    firstText_eq_of_alike h he, brief_eq_of_alike h he,
    description?_eq_of_alike h he (by decide),
    Element.map_descendants_eq (h.descendants (by decide)) Enumeration.ofElement_eq_of_alike,
    Compound.ofElement]

/-! ## members -/

theorem Parameter.ofElement_eq_of_alike (e d : Element) (hname : e.name = "param")
    (h : e.Alike d) : Parameter.ofElement d = Parameter.ofElement e := by
  have he := isStructural_of_name hname (by decide)
  rw [Parameter.ofElement, firstText_eq_of_alike h he, firstText_eq_of_alike h he,
    brief_eq_of_alike h he, Parameter.ofElement]

theorem templateParameter_eq_of_alike (e d : Element) (hname : e.name = "param")
    (h : e.Alike d) : templateParameter d = templateParameter e := by
  have he := isStructural_of_name hname (by decide)
  rw [templateParameter, firstText_eq_of_alike h he, h.toText_eq, templateParameter]

theorem templateParameters_eq_of_alike (e d : Element) (hname : e.name = "templateparamlist")
    (h : e.Alike d) :
    (d.children "param").map templateParameter = (e.children "param").map templateParameter :=
  Element.map_children_eq h (fun ht => absurd ht (isStructural_of_name hname (by decide)))
    templateParameter_eq_of_alike

theorem Member.ofElement_eq_of_alike (e d : Element) (hname : e.name = "memberdef")
    (h : e.Alike d) : Member.ofElement d = Member.ofElement e := by
  have he := isStructural_of_name hname (by decide)
  simp only [Member.ofElement, firstText_eq_of_alike h he, brief_eq_of_alike h he,
    Element.map_child?_eq h (fun ht => absurd ht he) Detail.ofElement_eq_of_alike,
    Element.map_children_eq h (fun ht => absurd ht he) Parameter.ofElement_eq_of_alike,
    Element.map_child?_eq h (fun ht => absurd ht he) templateParameters_eq_of_alike]

/-! ## documents -/

/-- The documentation below a root element is the same after a change, open or not. -/
theorem Document.ofElement_eq_of_rewrites {isOpen : Bool} (h : e.Rewrites isOpen d) :
    Document.ofElement d = Document.ofElement e := by
  have hdefinition : ∀ {name : String}, name ∈ Xml.definitionNames →
      List.Forall₂ Element.Alike (e.descendants name) (d.descendants name) :=
    fun hname => h.descendants (List.mem_cons_of_mem _ hname) fun _ => hname
  rw [Document.ofElement,
    Element.map_descendants_eq (hdefinition (by decide)) Compound.ofElement_eq_of_alike,
    Element.map_descendants_eq (hdefinition (by decide)) Member.ofElement_eq_of_alike,
    Document.ofElement]

end Docdown.Doc

namespace Docdown

open Xml (Element)

/-- What a group is chosen by in a compound. -/
theorem groupSource_eq_of_alike (e d : Element) (hname : e.name = "compounddef")
    (h : e.Alike d) :
    (⟨(d.attribute? "kind").getD "", ((d.child? "compoundname").map Element.toText).getD ""⟩ :
      Group.Source) =
    ⟨(e.attribute? "kind").getD "", ((e.child? "compoundname").map Element.toText).getD ""⟩ := by
  have he := Doc.isStructural_of_name hname (by decide)
  rw [h.kind_eq (by rw [hname]; decide),
    Element.map_child?_eq h (fun ht => absurd ht he) (Doc.toText_eq_of_alike "compoundname")]

/-- The group of a document is the same after a change where nothing is open. -/
theorem Group.ofDocument_eq_of_alike {root other : Element} (h : root.Alike other) :
    Group.ofDocument other = Group.ofDocument root := by
  have hsource : Group.source? other = Group.source? root :=
    Element.map_child?_eq h (fun _ => by decide) groupSource_eq_of_alike
  rw [Group.ofDocument, hsource, Group.ofDocument]

/-- **A conversion sees only what is read.**  Any number of changes of a tree, one way or
the other, leave the documentation and the page as they are, and the group of the document
too if no element is taken away from around others or put there. -/
theorem page_eq_of_rewrites {isOpen : Bool} {root other : Element}
    (h : Relation.EqvGen (Element.Rewrites isOpen) root other) :
    Doc.Document.ofElement other = Doc.Document.ofElement root ∧ page other = page root ∧
      (isOpen = false → Group.ofDocument other = Group.ofDocument root) := by
  induction h with
  | rel root other h =>
    have hdocument := Doc.Document.ofElement_eq_of_rewrites h
    refine ⟨hdocument, congrArg Markdown.page hdocument, fun hclosed => ?_⟩
    subst hclosed
    exact Group.ofDocument_eq_of_alike (.single h)
  | refl root => exact ⟨rfl, rfl, fun _ => rfl⟩
  | symm root other _ ih => exact ⟨ih.1.symm, ih.2.1.symm, fun hclosed => (ih.2.2 hclosed).symm⟩
  | trans root middle other _ _ ih ih' =>
    exact ⟨ih'.1.trans ih.1, ih'.2.1.trans ih.2.1,
      fun hclosed => (ih'.2.2 hclosed).trans (ih.2.2 hclosed)⟩

/-- A class with an identifier, whose name is marked up. -/
def Xml.Element.markedUp : Element :=
  ⟨"doxygen", [], .element "compounddef" [("id", "x"), ("kind", "class")]
    (.element "compoundname" [] (.element "b" [] (.text "A::B" .nil) .nil) .nil) .nil⟩

/-- The class without these, its name in two runs. -/
def Xml.Element.cutUp : Element :=
  ⟨"doxygen", [], .element "compounddef" [("kind", "class")]
    (.element "compoundname" [] (.text "A" (.text "::B" .nil)) .nil) .nil⟩

/-- The class in a section. -/
def Xml.Element.sectioned : Element :=
  ⟨"doxygen", [], .element "section" [] Xml.Element.markedUp.content .nil⟩

/-- All three have one page, and the first two one group. -/
theorem page_eq_of_rewrites_markedUp :
    Relation.EqvGen (Element.Rewrites false) .markedUp .cutUp ∧
      Relation.EqvGen (Element.Rewrites true) .sectioned .markedUp ∧
      page .sectioned = "## A::B\n" ∧ page .cutUp = "## A::B\n" ∧
      Group.ofDocument .cutUp = "A" := by
  have hidentifier : Element.Rewrites false .markedUp ⟨"doxygen", [], .element "compounddef"
      [("kind", "class")] (.element "compoundname" [] (.element "b" [] (.text "A::B" .nil) .nil)
        .nil) .nil⟩ :=
    .content (.redress (.attributes fun _ => by decide))
  have hmarkup : Element.Rewrites false ⟨"doxygen", [], .element "compounddef"
      [("kind", "class")] (.element "compoundname" [] (.element "b" [] (.text "A::B" .nil) .nil)
        .nil) .nil⟩ ⟨"doxygen", [], .element "compounddef" [("kind", "class")]
        (.element "compoundname" [] (.text "A::B" .nil) .nil) .nil⟩ :=
    .content (.inside (.redress (.flatten (by decide) (by decide))))
  have hcut : Element.Rewrites false ⟨"doxygen", [], .element "compounddef" [("kind", "class")]
      (.element "compoundname" [] (.text "A::B" .nil) .nil) .nil⟩ .cutUp :=
    .content (.inside (.inside (.cut (v := "A") (w := "::B"))))
  have hclosed : Relation.EqvGen (Element.Rewrites false) .markedUp .cutUp :=
    .trans _ _ _ (.rel _ _ hidentifier) (.trans _ _ _ (.rel _ _ hmarkup) (.rel _ _ hcut))
  have hopen : Relation.EqvGen (Element.Rewrites true) .sectioned .markedUp :=
    .rel _ _ (.content (.unwrap (by decide)))
  have hpage : page .markedUp = "## A::B\n" := by decide +kernel
  obtain ⟨-, hsame, hgroup⟩ := page_eq_of_rewrites hclosed
  obtain ⟨-, hsectioned, -⟩ := page_eq_of_rewrites hopen
  exact ⟨hclosed, hopen, hsectioned.symm.trans hpage, hsame.trans hpage,
    (hgroup rfl).trans (by decide)⟩

end Docdown
