import Docdown.Doc.Model
import Docdown.Text.Blank
import Docdown.Xml.Tree

/-!
# Docdown.Doc.Reading

Reading a file's documentation out of its tree.  Reading never fails: a missing
attribute or element leaves its field empty, and of several elements that may
give a field the first with a non-empty text does.
-/

namespace Docdown.Doc

open Xml (Element)

/-! ## Fields -/

/-- The first non-empty text among those of the first child of each name. -/
def firstText (e : Element) (names : List String) : String :=
  ((names.filterMap fun n => (e.child? n).map Element.toText).find? (· ≠ "")).getD ""

/-- The value of an attribute, empty if there is none. -/
def attributeText (e : Element) (name : String) : String := (e.attribute? name).getD ""

/-! ## Descriptions -/

def Description.ofElement (e : Element) : Description :=
  ⟨(e.children "para").map Element.toText, e.toText⟩

/-- The description in the first child of a name. -/
def description? (e : Element) (name : String) : Option Description :=
  (e.child? name).map .ofElement

def Remark.ofElement (e : Element) : Remark := ⟨attributeText e "kind", .ofElement e⟩

def Detail.ofElement (e : Element) : Detail :=
  ⟨.ofElement e, (e.children "programlisting").map Element.toText,
    (e.children "simplesect").map .ofElement⟩

/-! ## Compounds -/

def EnumValue.ofElement (e : Element) : EnumValue :=
  ⟨firstText e ["name", "id"], description? e "briefdescription"⟩

def Enumeration.ofElement (e : Element) : Enumeration :=
  ⟨firstText e ["name", "definition"], description? e "briefdescription",
    (e.children "enumvalue").map .ofElement⟩

def Compound.ofElement (e : Element) : Compound :=
  ⟨attributeText e "kind", firstText e ["compoundname"], description? e "briefdescription",
    description? e "detaileddescription", (e.descendants "enum").map .ofElement⟩

/-! ## Members -/

def Parameter.ofElement (e : Element) : Parameter :=
  ⟨firstText e ["declname", "defname"], Text.trim (firstText e ["type"]),
    description? e "briefdescription"⟩

/-- An entry of a template parameter list: its type, or else its whole text. -/
def templateParameter (e : Element) : String :=
  let type := firstText e ["type"]
  Text.trim (if type = "" then e.toText else type)

def Member.ofElement (e : Element) : Member where
  name := firstText e ["name"]
  arguments := firstText e ["argsstring"]
  returnType := Text.trim (firstText e ["type"])
  brief? := description? e "briefdescription"
  detail? := (e.child? "detaileddescription").map .ofElement
  parameters := (e.children "param").map .ofElement
  templateParameters? :=
    (e.child? "templateparamlist").map fun l => (l.children "param").map templateParameter

/-! ## Documents -/

/-- The documentation below the root element of a file. -/
def Document.ofElement (root : Element) : Document :=
  ⟨(root.descendants "compounddef").map .ofElement, (root.descendants "memberdef").map .ofElement⟩

end Docdown.Doc
