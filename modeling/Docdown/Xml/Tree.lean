/-!
# Docdown.Xml.Tree

The tree of a document: elements with attributes in document order, and
content that mixes text runs and elements.  Adjacent text runs are kept apart,
as they were read.

The queries go one level down (`children`, `child?`) or all the way
(`descendants`, `toText`); both list what they find in document order.
-/

namespace Docdown.Xml

/-- An attribute's name and value. -/
abbrev Attribute := String × String

/-- What stands between an element's tags: text runs and elements, in order. -/
inductive Content where
  | nil
  | text (value : String) (rest : Content)
  | element (name : String) (attributes : List Attribute) (inner : Content) (rest : Content)
deriving DecidableEq, Repr

/-- An element. -/
structure Element where
  name : String
  attributes : List Attribute
  content : Content
deriving DecidableEq, Repr

/-- One piece of content. -/
inductive Node where
  | text (value : String)
  | element (e : Element)
deriving DecidableEq, Repr

/-! ## Content as a list of nodes -/

namespace Content

/-- The pieces of a content, in order. -/
def nodes : Content → List Node
  | .nil => []
  | .text v r => .text v :: r.nodes
  | .element n as c r => .element ⟨n, as, c⟩ :: r.nodes

/-- The content with the given pieces. -/
def ofNodes : List Node → Content
  | [] => .nil
  | .text v :: ns => .text v (ofNodes ns)
  | .element e :: ns => .element e.name e.attributes e.content (ofNodes ns)

@[simp] theorem nodes_ofNodes (ns : List Node) : (ofNodes ns).nodes = ns := by
  induction ns with
  | nil => rfl
  | cons n ns ih => cases n <;> simp [ofNodes, nodes, ih]

@[simp] theorem ofNodes_nodes (c : Content) : ofNodes c.nodes = c := by
  induction c with
  | nil => rfl
  | text v r ih => simp [nodes, ofNodes, ih]
  | element n as c r _ ih => simp [nodes, ofNodes, ih]

/-! ## Queries -/

/-- All text below, with the markup left out. -/
def toText : Content → String
  | .nil => ""
  | .text v r => v ++ r.toText
  | .element _ _ c r => c.toText ++ r.toText

/-- The elements directly in a content. -/
def elements : Content → List Element
  | .nil => []
  | .text _ r => r.elements
  | .element n as c r => ⟨n, as, c⟩ :: r.elements

/-- The elements of a given name at any depth.  An element comes before those
inside it. -/
def descendants (name : String) : Content → List Element
  | .nil => []
  | .text _ r => r.descendants name
  | .element n as c r =>
    let below := c.descendants name ++ r.descendants name
    if n = name then ⟨n, as, c⟩ :: below else below

end Content

namespace Element

/-- All text inside an element. -/
def toText (e : Element) : String := e.content.toText

/-- The elements directly inside an element. -/
def elements (e : Element) : List Element := e.content.elements

/-- The elements of a given name directly inside an element. -/
def children (e : Element) (name : String) : List Element :=
  e.elements.filter (fun c => c.name == name)

/-- The first element of a given name directly inside an element. -/
def child? (e : Element) (name : String) : Option Element :=
  e.elements.find? (fun c => c.name == name)

/-- The elements of a given name at any depth inside an element. -/
def descendants (e : Element) (name : String) : List Element := e.content.descendants name

/-- The value of an attribute, if the element has it. -/
def attribute? (e : Element) (name : String) : Option String := e.attributes.lookup name

theorem child?_eq_head?_children (e : Element) (name : String) :
    e.child? name = (e.children name).head? := by
  simp [child?, children]

end Element

end Docdown.Xml
