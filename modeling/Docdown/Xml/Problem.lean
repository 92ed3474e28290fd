import Docdown.Text.Blank
import Docdown.Text.Units

/-!
# Docdown.Xml.Problem

What can be wrong with a text that should be an XML document, where it is
wrong, and how that is reported.

A fault is a cause.  A problem is a fault together with its place.  Most
reports name the place; those about the document as a whole do not.
-/

namespace Docdown.Xml

/-! ## Faults -/

/-- Pieces of markup whose length is limited while they are unfinished. -/
inductive Piece where
  | comment | declaration | tagName | doctype | instructionName | instructionBody
  | entity | attributeName | attributeValue
deriving DecidableEq, Repr

/-- All pieces, in the order in which their lengths are looked at. -/
def Piece.all : List Piece :=
  [.comment, .declaration, .tagName, .doctype, .instructionName, .instructionBody, .entity,
    .attributeName, .attributeValue]

/-- The name under which a piece is reported. -/
def Piece.label : Piece → String
  | .comment => "comment"
  | .declaration => "sgmlDecl"
  | .tagName => "tagName"
  | .doctype => "doctype"
  | .instructionName => "procInstName"
  | .instructionBody => "procInstBody"
  | .entity => "entity"
  | .attributeName => "attribName"
  | .attributeValue => "attribValue"

/-- Why a text is no document. -/
inductive Fault where
  /-- Something other than blanks precedes the first `<`. -/
  | textBeforeMarkup
  /-- Text stands before or after the root element. -/
  | textOutsideRoot
  /-- A CDATA section with text in it stands before or after the root element. -/
  | sectionOutsideRoot
  /-- An element opens after the root element was closed. -/
  | secondRoot (name : String)
  /-- A `<` starts no markup. -/
  | strayOpening
  | tagNameCharacter
  | emptyTagEnd
  | attributeName
  | attributeWithoutValue
  | unquotedValue
  | attributesTogether
  /-- An attribute follows one that hides the look-up of attributes. -/
  | attributeLookup
  /-- A closing tag has no name. -/
  | endTagStart
  /-- A closing tag's name holds a character that no name has. -/
  | endTagName
  /-- Something other than blanks follows the name of a closing tag. -/
  | endTagRest
  | unmatchedEndTag (name : String)
  /-- A closing tag has another name than the innermost open element. -/
  | crossedEndTag
  | misplacedDoctype
  | commentEnd
  | entityCharacter
  | unknownEntity
  | pieceTooLong (piece : Piece)
  | unclosedRoot
  /-- The text ends inside markup. -/
  | unfinishedMarkup
  | noRoot
deriving DecidableEq, Repr

namespace Fault

/-- The fault in words. -/
def reason : Fault → String
  | .textBeforeMarkup => "Non-whitespace before first tag."
  | .textOutsideRoot => "Text data outside of root node."
  | .sectionOutsideRoot => "Text data outside of root node."
  | .secondRoot name => "Unexpected element <" ++ name ++ "> after the root element."
  | .strayOpening => "Unencoded <"
  | .tagNameCharacter => "Invalid character in tag name"
  | .emptyTagEnd => "Forward-slash in opening tag not followed by >"
  | .attributeName => "Invalid attribute name"
  | .attributeWithoutValue => "Attribute without value"
  | .unquotedValue => "Unquoted attribute value"
  | .attributesTogether => "No whitespace between attributes"
  | .attributeLookup => "parser.tag.attributes.hasOwnProperty is not a function"
  | .endTagStart => "Invalid tagname in closing tag."
  | .endTagName => "Invalid tagname in closing tag"
  | .endTagRest => "Invalid characters in closing tag"
  | .unmatchedEndTag name => "Unmatched closing tag: " ++ name
  | .crossedEndTag => "Unexpected close tag"
  | .misplacedDoctype => "Inappropriately located doctype declaration"
  | .commentEnd => "Malformed comment"
  | .entityCharacter => "Invalid character in entity name"
  | .unknownEntity => "Invalid character entity"
  | .pieceTooLong piece => "Max buffer length exceeded: " ++ piece.label
  | .unclosedRoot => "Unclosed root tag"
  | .unfinishedMarkup => "Unexpected end"
  | .noRoot => "document has no root element"

/-- Whether the report says where the fault was found. -/
def isPlaced : Fault → Bool
  | .sectionOutsideRoot | .secondRoot _ | .attributeLookup | .noRoot => false
  | _ => true

end Fault

/-! ## Places -/

/-- How far a text has been read: the number of line feeds, and the number of
units since the last one. -/
structure Place where
  line : Nat := 0
  column : Nat := 0
deriving DecidableEq, Repr

namespace Place

/-- The place at which a character is met: its first unit counts, and a line
feed is met at the start of the line it begins. -/
def meet (p : Place) (c : Char) : Place :=
  if c = '\n' then ⟨p.line + 1, 0⟩ else ⟨p.line, p.column + 1⟩

/-- The place after a character. -/
def pass (p : Place) (c : Char) : Place :=
  if c = '\n' then ⟨p.line + 1, 0⟩ else ⟨p.line, p.column + Text.width c⟩

end Place

/-! ## Problems -/

/-- A fault, the place where it was met, and the character met there; at the
end of the text there is none. -/
structure Problem where
  fault : Fault
  place : Place
  char : Option Char
deriving DecidableEq, Repr

namespace Problem

/-- The character as a report shows it.  Of a wide character only the first
unit was met, which is no character by itself. -/
def charText : Option Char → String
  | none => ""
  | some c => if Text.isWide c then "\uFFFD" else String.singleton c

/-- The full report: the reason and, if the fault is placed, line, column and
character on lines of their own. -/
def report (p : Problem) : String :=
  if p.fault.isPlaced then
    p.fault.reason ++ "\nLine: " ++ toString p.place.line ++ "\nColumn: " ++
      toString p.place.column ++ "\nChar: " ++ charText p.char
  else p.fault.reason

/-- The report on one line, without blanks around it. -/
def diagnostic (p : Problem) : String :=
  String.ofList ((Text.trim p.report).toList.map fun c => if c = '\n' then ' ' else c)

/-- The report a problem found in the text has.  A document without a root
element has nothing in it to report. -/
def cause? (p : Problem) : Option String :=
  if p.fault = .noRoot then none else some p.report

end Problem

end Docdown.Xml
