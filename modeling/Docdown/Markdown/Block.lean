/-!
# Docdown.Markdown.Block

The blocks a page is made of, and the text of each.  A block is one unit of a
page whatever the number of its lines.
-/

namespace Docdown.Markdown

/-- The name of something with the anchor it is linked to, if it has one. -/
structure Cell where
  text : String
  anchor? : Option String
deriving DecidableEq, Repr

/-- Code, or a link to an anchor whose text is code. -/
def Cell.render (c : Cell) : String :=
  let code := "`" ++ c.text ++ "`"
  match c.anchor? with
  | some a => "[" ++ code ++ "](#" ++ a ++ ")"
  | none => code

inductive Block where
  | compoundHeading (name : String)
  | enumHeading (name : String)
  | enumValue (name brief : String)
  /-- The heading of a member: its name and its arguments. -/
  | memberHeading (signature : String)
  | prose (text : String)
  | brief (text : String)
  /-- A code listing, between fences. -/
  | listing (code : String)
  | returns (text : String)
  | parametersLabel
  | tableHeader
  | tableRule
  /-- A row of the table of parameters.  A parameter may lack a name. -/
  | parameterRow (name? : Option Cell) (type : Cell) (brief : String)
  | templateLabel
  | templateParameter (text : String)
  | type (text : String)
  | empty
deriving DecidableEq, Repr

/-- What the blocks on returned values start with. -/
def returnsLabel : String := "**Returns:**"

namespace Block

/-- The text of a block. -/
def render : Block → String
  | .compoundHeading name => "## " ++ name
  | .enumHeading name => "### Enum: " ++ name
  | .enumValue name shown => "- `" ++ name ++ "`: " ++ shown
  | .memberHeading signature => "### " ++ signature
  | .prose text => text
  | .brief text => "**Brief:** " ++ text
  | .listing code => "```cpp\n" ++ code ++ "\n```"
  | .returns text => returnsLabel ++ " " ++ text
  | .parametersLabel => "**Parameters:**"
  | .tableHeader => "| Name | Type | Description |"
  | .tableRule => "| --- | --- | --- |"
  | .parameterRow name? cell shown =>
    "| " ++ (name?.map Cell.render).getD "" ++ " | " ++ cell.render ++ " | " ++ shown ++ " |"
  | .templateLabel => "**Template parameters:**"
  | .templateParameter text => "- " ++ text
  | .type text => "**Type:** " ++ text
  | .empty => ""

/-- Whether a block reads as one on a returned value.  Prose that starts like
one does too. -/
def tellsReturn (b : Block) : Bool := returnsLabel.toList.isPrefixOf b.render.toList

theorem tellsReturn_returns (text : String) : (returns text).tellsReturn = true := by
  simp [tellsReturn, render, List.append_assoc]

end Block

end Docdown.Markdown
