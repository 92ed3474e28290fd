import Docdown.Convert
import Docdown.Group
import Docdown.Proofs.Xml.Runs

/-!
# Docdown.Proofs.Doc.Runs

The documentation read from a tree, its page and its group do not depend on how
the text in the tree is cut into runs: `Doc.ofElement_merge`, `page_merge` and
`Group.ofDocument_merge`, each built from one lemma per record that is read.
-/

namespace Docdown.Doc

open Xml (Element)

/-! ## fields -/

theorem firstText_merge (e : Element) (names : List String) :
    firstText e.merge names = firstText e names := by
  simp only [firstText, Element.child?_merge, Option.map_map, Element.toText_comp_merge]

theorem attributeText_merge (e : Element) (name : String) :
    attributeText e.merge name = attributeText e name := rfl

/-! ## descriptions -/

theorem Description.ofElement_merge (e : Element) :
    Description.ofElement e.merge = Description.ofElement e := by
  simp only [Description.ofElement, Element.children_merge, List.map_map,
    Element.toText_comp_merge, Element.toText_merge]

theorem description?_merge (e : Element) (name : String) :
    description? e.merge name = description? e name := by
  rw [description?, Element.child?_merge, Option.map_map]
  exact congrArg (Option.map · _) (funext Description.ofElement_merge)

theorem Remark.ofElement_merge (e : Element) : Remark.ofElement e.merge = Remark.ofElement e := by
  rw [Remark.ofElement, Description.ofElement_merge, attributeText_merge]
  rfl

theorem Detail.ofElement_merge (e : Element) : Detail.ofElement e.merge = Detail.ofElement e := by
  have hremark : Remark.ofElement ∘ Element.merge = Remark.ofElement :=
    funext Remark.ofElement_merge
  simp only [Detail.ofElement, Description.ofElement_merge, Element.children_merge, List.map_map,
    Element.toText_comp_merge, hremark]

/-! ## compounds and members -/

theorem EnumValue.ofElement_merge (e : Element) :
    EnumValue.ofElement e.merge = EnumValue.ofElement e := by
  rw [EnumValue.ofElement, firstText_merge, description?_merge]
  rfl

theorem Enumeration.ofElement_merge (e : Element) :
    Enumeration.ofElement e.merge = Enumeration.ofElement e := by
  have hvalue : EnumValue.ofElement ∘ Element.merge = EnumValue.ofElement :=
    funext EnumValue.ofElement_merge
  simp only [Enumeration.ofElement, firstText_merge, description?_merge, Element.children_merge,
    List.map_map, hvalue]

theorem Compound.ofElement_merge (e : Element) :
    Compound.ofElement e.merge = Compound.ofElement e := by
  have henum : Enumeration.ofElement ∘ Element.merge = Enumeration.ofElement :=
    funext Enumeration.ofElement_merge
  simp only [Compound.ofElement, attributeText_merge, firstText_merge, description?_merge,
    Element.descendants_merge, List.map_map, henum]

theorem Parameter.ofElement_merge (e : Element) :
    Parameter.ofElement e.merge = Parameter.ofElement e := by
  rw [Parameter.ofElement, firstText_merge, firstText_merge, description?_merge]
  rfl

theorem templateParameter_merge (e : Element) :
    templateParameter e.merge = templateParameter e := by
  simp only [templateParameter, firstText_merge, Element.toText_merge]

theorem Member.ofElement_merge (e : Element) : Member.ofElement e.merge = Member.ofElement e := by
  have hdetail : Detail.ofElement ∘ Element.merge = Detail.ofElement :=
    funext Detail.ofElement_merge
  have hparameter : Parameter.ofElement ∘ Element.merge = Parameter.ofElement :=
    funext Parameter.ofElement_merge
  have htemplate : templateParameter ∘ Element.merge = templateParameter :=
    funext templateParameter_merge
  simp only [Member.ofElement, firstText_merge, description?_merge, Element.child?_merge,
    Element.children_merge, Option.map_map, List.map_map, Function.comp_def]
  simp only [← Function.comp_def, hdetail, hparameter, htemplate]

/-! ## documents -/

/-- The documentation below a root element does not depend on the cuts. -/
theorem Document.ofElement_merge (root : Element) :
    Document.ofElement root.merge = Document.ofElement root := by
  have hcompound : Compound.ofElement ∘ Element.merge = Compound.ofElement :=
    funext Compound.ofElement_merge
  have hmember : Member.ofElement ∘ Element.merge = Member.ofElement :=
    funext Member.ofElement_merge
  simp only [Document.ofElement, Element.descendants_merge, List.map_map, hcompound, hmember]

end Docdown.Doc

namespace Docdown

/-- The page of a root element does not depend on the cuts. -/
theorem page_merge (root : Xml.Element) : page root.merge = page root := by
  rw [page, Doc.Document.ofElement_merge]
  rfl

/-- The group of a document does not depend on the cuts. -/
theorem Group.ofDocument_merge (root : Xml.Element) :
    Group.ofDocument root.merge = Group.ofDocument root := by
  simp only [Group.ofDocument, Group.source?, Xml.Element.child?_merge, Option.map_map,
    Function.comp_def, Xml.Element.attribute?_merge, Xml.Element.toText_merge]

end Docdown
