import Docdown.Markdown.Block
import Docdown.Markdown.Prose
import Docdown.Text.Slug

/-!
# Docdown.Markdown.Page

The page of a document.  First come the compounds, each with its enumerations,
then the members, all in document order.

Whether a member shows its return type depends on what the page already holds:
it does unless one of the last three blocks of the page tells what is returned.
So a page is written from front to back, and each member is given the blocks
before it, newest first.
-/

namespace Docdown.Markdown

open Doc

/-- The block of a text, if there is any text. -/
def ifAny (block : String → Block) (text : String) : List Block :=
  if text = "" then [] else [block text]

/-! ## Compounds -/

/-- The blocks of an enumeration: a heading, its prose, and a line per value. -/
def enumBlocks (e : Enumeration) : List Block :=
  .enumHeading e.name :: ifAny .prose (proseOf e.brief?) ++
    e.values.map fun v => .enumValue v.name (proseOf v.brief?)

/-- Whether compounds of a kind have a heading of their own. -/
def isHeaded (kind : String) : Bool := kind ∈ ["class", "struct", "namespace"]

/-- The blocks of a compound.  One without a heading still shows its
enumerations. -/
def compoundBlocks (c : Compound) : List Block :=
  (if isHeaded c.kind then
    .compoundHeading c.name :: ifAny .prose (proseOf c.brief?) ++ ifAny .prose (proseOf c.detail?)
  else []) ++ c.enums.flatMap enumBlocks

/-! ## Members -/

/-- A listing without the line feeds around it. -/
def code (listing : String) : String :=
  String.ofList (Text.strip (· == '\n') listing.toList)

/-- The blocks of a detailed description: its prose, its listings, and its
remarks on the returned value. -/
def detailBlocks (d : Detail) : List Block :=
  ifAny .prose (prose d.prose) ++
    d.listings.flatMap (fun l => ifAny .listing (code l)) ++
    (d.remarks.filter (·.kind == "return")).flatMap fun r => ifAny .returns (prose r.body)

/-- The anchor of a member. -/
def anchor (m : Member) : String := Text.slug (m.name ++ " " ++ m.arguments)

/-- The cell of a parameter's name, which links into its member's anchor. -/
def nameCell? (anchor name : String) : Option Cell :=
  if name = "" then none else some ⟨name, some (anchor ++ "-" ++ Text.slug name)⟩

/-- The cell of a type, which is a link unless its slug is empty. -/
def typeCell (type : String) : Cell :=
  let s := Text.slug type
  ⟨type, if s = "" then none else some ("type-" ++ s)⟩

def parameterRow (anchor : String) (p : Parameter) : Block :=
  .parameterRow (nameCell? anchor p.name) (typeCell p.type) (proseOf p.brief?)

/-- The table of a member's parameters, if it has any. -/
def parameterBlocks (m : Member) : List Block :=
  if m.parameters.isEmpty then []
  else [.parametersLabel, .tableHeader, .tableRule] ++ m.parameters.map (parameterRow (anchor m))

/-- The list of a member's template parameters, if it has any. -/
def templateBlocks (m : Member) : List Block :=
  match m.templateParameters? with
  | none | some [] => []
  | some ps => .templateLabel :: ps.map .templateParameter

/-- The blocks of a member that do not depend on what is before it. -/
def memberBlocks (m : Member) : List Block :=
  .memberHeading (m.name ++ m.arguments) :: ifAny .brief (proseOf m.brief?) ++
    (m.detail?.map detailBlocks).getD [] ++ parameterBlocks m ++ templateBlocks m

/-- How many of the last blocks are looked at for one on a returned value. -/
def lookback : Nat := 3

/-- The block of a member's return type after a page, newest block first. -/
def typeBlocks (page : List Block) (m : Member) : List Block :=
  if (page.take lookback).any Block.tellsReturn then [] else ifAny .type m.returnType

/-- A page with a member added.  Both pages are given newest block first. -/
def addMember (page : List Block) (m : Member) : List Block :=
  let page := (memberBlocks m).reverse ++ page
  .empty :: typeBlocks page m ++ page

/-! ## Documents -/

/-- The blocks of a document, in order. -/
def blocks (d : Document) : List Block :=
  (d.members.foldl addMember (d.compounds.flatMap compoundBlocks).reverse).reverse

/-- The page of a document: its blocks on lines of their own, without blanks at
either end, and a final line feed. -/
def page (d : Document) : String :=
  Text.trim (joined "\n" ((blocks d).map Block.render)) ++ "\n"

end Docdown.Markdown
