import Docdown.Xml.Builder
import Docdown.Xml.Entity
import Docdown.Xml.Name

/-!
# Docdown.Xml.Scanner

Reading markup one character at a time.  A scanner knows what it is in the
middle of (`Mode`), how far the document type declaration has come, the text
run that is being collected, and the tree built so far.  `Scanner.read` takes it
past one character or says what is wrong with it, and `Scanner.finish` says
whether the text may end there.

The rules are strict where a tag is concerned and loose elsewhere: blanks may
follow `<`, a declaration other than a comment, a CDATA section and a document
type is skipped, and whatever stands inside a document type is read as markup
from its `<` on.

Everything collected is held newest first.
-/

namespace Docdown.Xml

/-! ## What a scanner is in the middle of -/

/-- An opening tag whose attributes are being read. -/
structure Tag where
  name : String
  attributes : List Attribute := []
deriving DecidableEq, Repr

/-- The tag with one more attribute.  Of two attributes of one name the first
counts; an attribute named `__proto__` is never stored; and one named
`hasOwnProperty` hides the look-up by which a further one would be stored. -/
def Tag.add (t : Tag) (name value : String) : Except Fault Tag :=
  let names := t.attributes.map Prod.fst
  if "hasOwnProperty" ∈ names then .error .attributeLookup
  else if name ∈ names ∨ name = "__proto__" then .ok t
  else .ok { t with attributes := t.attributes ++ [(name, value)] }

/-- What a scanner is in the middle of. -/
inductive Mode where
  /-- At the very start, where a byte-order mark may stand. -/
  | start
  /-- Before the first `<`. -/
  | prolog
  /-- In text. -/
  | content
  /-- After `<`. -/
  | markup
  | tagName (name : List Char)
  /-- Between the attributes of a tag. -/
  | tag (t : Tag)
  /-- After the slash that ends an empty element's tag. -/
  | emptyTag (t : Tag)
  | attributeName (t : Tag) (name : List Char)
  | afterAttributeName (t : Tag) (name : List Char)
  | beforeValue (t : Tag) (name : List Char)
  | value (t : Tag) (name : List Char) (quote : Char) (value : List Char)
  | valueEntity (t : Tag) (name : List Char) (quote : Char) (value entity : List Char)
  | afterValue (t : Tag)
  | textEntity (entity : List Char)
  /-- In a closing tag, before its name has ended. -/
  | endTag (name : List Char)
  | afterEndTagName (name : List Char)
  | instructionName (name : List Char)
  | instructionBody (name body : List Char)
  /-- After a question mark in an instruction. -/
  | instructionEnd (name body : List Char)
  /-- After `<!`. -/
  | declaration (text : List Char)
  /-- After a quotation mark in a declaration. -/
  | declarationQuoted (text : List Char)
  | doctype
  | doctypeQuoted (quote : Char)
  /-- Between the brackets of a document type. -/
  | subset
  | subsetQuoted (quote : Char)
  | comment (body : List Char)
  /-- After a hyphen in a comment. -/
  | commentHyphen (body : List Char)
  /-- After two hyphens in a comment. -/
  | commentEnd
  | cdata (body : List Char)
  /-- After a bracket in a CDATA section. -/
  | cdataBracket (body : List Char)
  /-- After two brackets in a CDATA section. -/
  | cdataBrackets (body : List Char)
deriving DecidableEq, Repr

/-- The pieces of markup that a mode has left unfinished. -/
def Mode.unfinished : Mode → List (Piece × List Char)
  | .comment body | .commentHyphen body => [(.comment, body)]
  | .declaration text | .declarationQuoted text => [(.declaration, text)]
  | .tagName name | .endTag name | .afterEndTagName name => [(.tagName, name)]
  | .tag t | .emptyTag t | .afterValue t => [(.tagName, t.name.toList)]
  | .attributeName t name | .afterAttributeName t name | .beforeValue t name =>
    [(.tagName, t.name.toList), (.attributeName, name)]
  | .value t name _ text =>
    [(.tagName, t.name.toList), (.attributeName, name), (.attributeValue, text)]
  | .valueEntity t name _ text entity =>
    [(.tagName, t.name.toList), (.entity, entity), (.attributeName, name),
      (.attributeValue, text)]
  | .textEntity entity => [(.entity, entity)]
  | .instructionName name => [(.instructionName, name)]
  | .instructionBody name body | .instructionEnd name body =>
    [(.instructionName, name), (.instructionBody, body)]
  | _ => []

/-- Whether a text may end in a mode. -/
def Mode.isResting : Mode → Bool
  | .start | .prolog | .content => true
  | _ => false

/-- How far the document type declaration has come.  While it is unfinished the
number of units in it is known. -/
inductive Doctype where
  | absent
  | unfinished (length : Nat)
  | finished
deriving DecidableEq, Repr

/-- The declaration with some more units in it. -/
def Doctype.extend (n : Nat) : Doctype → Doctype
  | .unfinished m => .unfinished (m + n)
  | d => d

/-- Whether a document type is being read and has something in it. -/
def Doctype.isOpen : Doctype → Bool
  | .unfinished n => n != 0
  | _ => false

/-- Whether there was a document type already, an empty unfinished one not
counting. -/
def Doctype.isPresent (d : Doctype) : Bool := d.isOpen || d == .finished

/-- A text being read. -/
structure Scanner where
  mode : Mode := .start
  doctype : Doctype := .absent
  /-- The text run being collected, which is empty outside the root element. -/
  run : List Char := []
  tree : Builder := {}
deriving DecidableEq, Repr

namespace Scanner

/-! ## Steps shared by several modes -/

/-- The text collected newest first. -/
def collected (cs : List Char) : String := String.ofList cs.reverse

def inMode (s : Scanner) (m : Mode) : Scanner := { s with mode := m }

/-- Stores the text run collected so far, unless it is empty. -/
def flush (s : Scanner) : Scanner :=
  if s.run.isEmpty then s
  else { s with run := [], tree := s.tree.apply (.text (collected s.run)) }

/-- Passes an event on to the tree. -/
def emit (s : Scanner) (e : Event) : Except Fault Scanner :=
  (s.tree.accept e).map fun tree => { s with tree := tree }

/-- Opens the element of a tag that is complete. -/
def openTag (s : Scanner) (t : Tag) : Except Fault Scanner :=
  (s.emit (.startTag t.name t.attributes)).map (·.inMode .content)

/-- Closes the innermost open element, which has to have the given name. -/
def closeTag (s : Scanner) (name : String) : Except Fault Scanner :=
  match s.tree.frames with
  | [] => .error (.unmatchedEndTag name)
  | f :: _ =>
    if f.name = name then (s.flush.emit .endTag).map (·.inMode .content)
    else .error .crossedEndTag

/-- Where reading goes on after a comment. -/
def afterComment (s : Scanner) : Scanner :=
  s.inMode (if s.doctype.isOpen then .subset else .content)

/-- Whether a text collected newest first is a word, in any ASCII case.  The
word is given in capitals. -/
def spells (word : String) (cs : List Char) : Bool :=
  go word.toList.reverse cs
where
  go : List Char → List Char → Bool
  | [], [] => true
  | w :: ws, c :: cs => w == c.toUpper && go ws cs
  | _, _ => false

/-- Whether a character is a quotation mark. -/
def isQuote (c : Char) : Bool := c == '"' || c == '\''

/-- What one more character makes of an entity's name: a longer name, or at the
semicolon the character the entity stands for. -/
def readEntity (entity : List Char) (c : Char) : Except Fault (List Char ⊕ Char) :=
  if c = ';' then
    match Entity.resolve? entity.reverse with
    | some r => .ok (.inr r)
    | none => .error .unknownEntity
  else if (if entity.isEmpty then isEntityStart c else isEntityChar c) then .ok (.inl (c :: entity))
  else .error .entityCharacter

/-! ## One character -/

/-- In text.  Outside the root element there are only blanks. -/
def readContent (s : Scanner) (c : Char) : Except Fault Scanner :=
  if c = '<' then .ok (s.inMode .markup)
  else if s.tree.isInside then
    if c = '&' then .ok (s.inMode (.textEntity [])) else .ok { s with run := c :: s.run }
  else if isSpace c then .ok s
  else .error .textOutsideRoot

/-- After `<`. -/
def readMarkup (s : Scanner) (c : Char) : Except Fault Scanner :=
  if isSpace c then .ok s
  else if c = '!' then .ok (s.inMode (.declaration []))
  else if c = '/' then .ok (s.inMode (.endTag []))
  else if c = '?' then .ok (s.inMode (.instructionName []))
  else if isNameStart c then .ok (s.inMode (.tagName [c]))
  else .error .strayOpening

/-- In the name of an opening tag.  The text before the tag ends with it. -/
def readTagName (s : Scanner) (name : List Char) (c : Char) : Except Fault Scanner :=
  if isNameChar c then .ok (s.inMode (.tagName (c :: name)))
  else
    let t : Tag := ⟨collected name, []⟩
    if c = '>' then s.flush.openTag t
    else if c = '/' then .ok (s.flush.inMode (.emptyTag t))
    else if isSpace c then .ok (s.flush.inMode (.tag t))
    else .error .tagNameCharacter

/-- Between attributes. -/
def readTag (s : Scanner) (t : Tag) (c : Char) : Except Fault Scanner :=
  if isSpace c then .ok s
  else if c = '>' then s.openTag t
  else if c = '/' then .ok (s.inMode (.emptyTag t))
  else if isNameStart c then .ok (s.inMode (.attributeName t [c]))
  else .error .attributeName

/-- After the slash of an empty element's tag. -/
def readEmptyTag (s : Scanner) (t : Tag) (c : Char) : Except Fault Scanner :=
  if c = '>' then
    match s.openTag t with
    | .ok s => s.emit .endTag
    | .error f => .error f
  else .error .emptyTagEnd

def readAttributeName (s : Scanner) (t : Tag) (name : List Char) (c : Char) :
    Except Fault Scanner :=
  if c = '=' then .ok (s.inMode (.beforeValue t name))
  else if c = '>' then .error .attributeWithoutValue
  else if isSpace c then .ok (s.inMode (.afterAttributeName t name))
  else if isNameChar c then .ok (s.inMode (.attributeName t (c :: name)))
  else .error .attributeName

def readAfterAttributeName (s : Scanner) (t : Tag) (name : List Char) (c : Char) :
    Except Fault Scanner :=
  if c = '=' then .ok (s.inMode (.beforeValue t name))
  else if isSpace c then .ok s
  else .error .attributeWithoutValue

def readBeforeValue (s : Scanner) (t : Tag) (name : List Char) (c : Char) :
    Except Fault Scanner :=
  if isSpace c then .ok s
  else if isQuote c then .ok (s.inMode (.value t name c []))
  else .error .unquotedValue

/-- In a value.  It ends at the quotation mark it began with and holds anything
else, a `<` or a line feed too. -/
def readValue (s : Scanner) (t : Tag) (name : List Char) (quote : Char) (value : List Char)
    (c : Char) : Except Fault Scanner :=
  if c = quote then
    (t.add (collected name) (collected value)).map fun t => s.inMode (.afterValue t)
  else if c = '&' then .ok (s.inMode (.valueEntity t name quote value []))
  else .ok (s.inMode (.value t name quote (c :: value)))

def readValueEntity (s : Scanner) (t : Tag) (name : List Char) (quote : Char)
    (value entity : List Char) (c : Char) : Except Fault Scanner :=
  (readEntity entity c).map fun
    | .inl entity => s.inMode (.valueEntity t name quote value entity)
    | .inr r => s.inMode (.value t name quote (r :: value))

def readAfterValue (s : Scanner) (t : Tag) (c : Char) : Except Fault Scanner :=
  if isSpace c then .ok (s.inMode (.tag t))
  else if c = '>' then s.openTag t
  else if c = '/' then .ok (s.inMode (.emptyTag t))
  else if isNameStart c then .error .attributesTogether
  else .error .attributeName

def readTextEntity (s : Scanner) (entity : List Char) (c : Char) : Except Fault Scanner :=
  (readEntity entity c).map fun
    | .inl entity => s.inMode (.textEntity entity)
    | .inr r => { s with mode := .content, run := r :: s.run }

/-- In a closing tag, up to the end of its name. -/
def readEndTag (s : Scanner) (name : List Char) (c : Char) : Except Fault Scanner :=
  if name.isEmpty then
    if isSpace c then .ok s
    else if isNameStart c then .ok (s.inMode (.endTag [c]))
    else .error .endTagStart
  else if c = '>' then s.closeTag (collected name)
  else if isNameChar c then .ok (s.inMode (.endTag (c :: name)))
  else if isSpace c then .ok (s.inMode (.afterEndTagName name))
  else .error .endTagName

def readAfterEndTagName (s : Scanner) (name : List Char) (c : Char) : Except Fault Scanner :=
  if isSpace c then .ok s
  else if c = '>' then s.closeTag (collected name)
  else .error .endTagRest

def readInstructionName (s : Scanner) (name : List Char) (c : Char) : Scanner :=
  if c = '?' then s.inMode (.instructionEnd name [])
  else if isSpace c then s.inMode (.instructionBody name [])
  else s.inMode (.instructionName (c :: name))

/-- In the body of an instruction, whose leading blanks do not count. -/
def readInstructionBody (s : Scanner) (name body : List Char) (c : Char) : Scanner :=
  if body.isEmpty && isSpace c then s
  else if c = '?' then s.inMode (.instructionEnd name body)
  else s.inMode (.instructionBody name (c :: body))

/-- After a question mark.  Only an immediate `>` ends the instruction; a second
question mark belongs to the body like anything else. -/
def readInstructionEnd (s : Scanner) (name body : List Char) (c : Char) : Scanner :=
  if c = '>' then s.flush.inMode .content
  else s.inMode (.instructionBody name (c :: '?' :: body))

/-- After `<!`.  Two hyphens start a comment.  Inside a document type anything
else that is two units long goes back to it.  Otherwise the text so far is
compared with the words that start a CDATA section and a document type. -/
def readDeclaration (s : Scanner) (text : List Char) (c : Char) : Except Fault Scanner :=
  if text = ['-'] ∧ c = '-' then .ok (s.inMode (.comment []))
  else if s.doctype.isOpen && (!text.isEmpty || Text.isWide c) then
    .ok { s with mode := .subset, doctype := s.doctype.extend (2 + Text.unitLength (c :: text)) }
  else if spells "[CDATA[" (c :: text) then .ok (s.flush.inMode (.cdata []))
  else if spells "DOCTYPE" (c :: text) then
    if s.doctype.isPresent || s.tree.isStarted then .error .misplacedDoctype
    else .ok { s with mode := .doctype, doctype := .unfinished 0 }
  else if c = '>' then .ok (s.flush.inMode .content)
  else if isQuote c then .ok (s.inMode (.declarationQuoted (c :: text)))
  else .ok (s.inMode (.declaration (c :: text)))

/-- In a document type, outside its brackets. -/
def readDoctype (s : Scanner) (c : Char) : Scanner :=
  if c = '>' then { s.flush with mode := .content, doctype := .finished }
  else
    let s := { s with doctype := s.doctype.extend (Text.width c) }
    if c = '[' then s.inMode .subset
    else if isQuote c then s.inMode (.doctypeQuoted c)
    else s

/-- Between the brackets of a document type. -/
def readSubset (s : Scanner) (c : Char) : Scanner :=
  if c = '<' then s.inMode .markup
  else
    let s := { s with doctype := s.doctype.extend (Text.width c) }
    if c = ']' then s.inMode .doctype
    else if isQuote c then s.inMode (.subsetQuoted c)
    else s

/-- In a quoted part of a document type, which leads back to `outer`. -/
def readQuoted (s : Scanner) (quote : Char) (outer : Mode) (c : Char) : Scanner :=
  let s := { s with doctype := s.doctype.extend (Text.width c) }
  if c = quote then s.inMode outer else s

def readComment (s : Scanner) (body : List Char) (c : Char) : Scanner :=
  if c = '-' then s.inMode (.commentHyphen body) else s.inMode (.comment (c :: body))

/-- After a hyphen in a comment.  At the second one the comment is complete; it
separates the text around it unless it is empty. -/
def readCommentHyphen (s : Scanner) (body : List Char) (c : Char) : Scanner :=
  if c = '-' then (if body.isEmpty then s else s.flush).inMode .commentEnd
  else s.inMode (.comment (c :: '-' :: body))

def readCommentEnd (s : Scanner) (c : Char) : Except Fault Scanner :=
  if c = '>' then .ok s.afterComment else .error .commentEnd

def readCdata (s : Scanner) (body : List Char) (c : Char) : Scanner :=
  if c = ']' then s.inMode (.cdataBracket body) else s.inMode (.cdata (c :: body))

def readCdataBracket (s : Scanner) (body : List Char) (c : Char) : Scanner :=
  if c = ']' then s.inMode (.cdataBrackets body) else s.inMode (.cdata (c :: ']' :: body))

/-- After two brackets.  The section ends at `>` and is a text run of its own
unless it is empty. -/
def readCdataBrackets (s : Scanner) (body : List Char) (c : Char) : Except Fault Scanner :=
  if c = '>' then
    let s := s.inMode .content
    if body.isEmpty then .ok s else s.emit (.text (collected body))
  else if c = ']' then .ok (s.inMode (.cdataBrackets (']' :: body)))
  else .ok (s.inMode (.cdata (c :: ']' :: ']' :: body)))

/-- Before the first `<`. -/
def readProlog (s : Scanner) (c : Char) : Except Fault Scanner :=
  if c = '<' then .ok (s.inMode .markup)
  else if isSpace c then .ok (s.inMode .prolog)
  else .error .textBeforeMarkup

/-- The scanner after one character, or what is wrong with the character. -/
def read (s : Scanner) (c : Char) : Except Fault Scanner :=
  match s.mode with
  | .start => if c = '\uFEFF' then .ok (s.inMode .prolog) else s.readProlog c
  | .prolog => s.readProlog c
  | .content => s.readContent c
  | .markup => s.readMarkup c
  | .tagName name => s.readTagName name c
  | .tag t => s.readTag t c
  | .emptyTag t => s.readEmptyTag t c
  | .attributeName t name => s.readAttributeName t name c
  | .afterAttributeName t name => s.readAfterAttributeName t name c
  | .beforeValue t name => s.readBeforeValue t name c
  | .value t name quote value => s.readValue t name quote value c
  | .valueEntity t name quote value entity => s.readValueEntity t name quote value entity c
  | .afterValue t => s.readAfterValue t c
  | .textEntity entity => s.readTextEntity entity c
  | .endTag name => s.readEndTag name c
  | .afterEndTagName name => s.readAfterEndTagName name c
  | .instructionName name => .ok (s.readInstructionName name c)
  | .instructionBody name body => .ok (s.readInstructionBody name body c)
  | .instructionEnd name body => .ok (s.readInstructionEnd name body c)
  | .declaration text => s.readDeclaration text c
  | .declarationQuoted text => .ok (s.inMode (.declarationQuoted (c :: text)))
  | .doctype => .ok (s.readDoctype c)
  | .doctypeQuoted quote => .ok (s.readQuoted quote .doctype c)
  | .subset => .ok (s.readSubset c)
  | .subsetQuoted quote => .ok (s.readQuoted quote .subset c)
  | .comment body => .ok (s.readComment body c)
  | .commentHyphen body => .ok (s.readCommentHyphen body c)
  | .commentEnd => s.readCommentEnd c
  | .cdata body => .ok (s.readCdata body c)
  | .cdataBracket body => .ok (s.readCdataBracket body c)
  | .cdataBrackets body => s.readCdataBrackets body c

/-! ## The end of the text -/

/-- The most units an unfinished piece of markup may have. -/
def pieceLimit : Nat := 65536

/-- The length in units of a piece left unfinished. -/
def pieceLength (s : Scanner) (p : Piece) : Nat :=
  match p, s.doctype with
  | .doctype, .unfinished n => n
  | .doctype, _ => 0
  | p, _ => match s.mode.unfinished.lookup p with
    | some text => Text.unitLength text
    | none => 0

/-- The first of the pieces left unfinished that is too long. -/
def tooLong? (s : Scanner) : Option Piece :=
  Piece.all.find? fun p => pieceLimit < s.pieceLength p

/-- An unfinished CDATA section that is too long is stored as far as it goes. -/
def settleCdata (s : Scanner) : Except Fault Scanner :=
  match s.mode with
  | .cdata body | .cdataBracket body | .cdataBrackets body =>
    if pieceLimit < Text.unitLength body then s.emit (.text (collected body)) else .ok s
  | _ => .ok s

/-- What is too long at the end of a text.  A text shorter than the limit is not
looked at. -/
def checkLengths (s : Scanner) (length : Nat) : Except Fault Scanner :=
  if length < pieceLimit then .ok s
  else match s.tooLong? with
    | some p => .error (.pieceTooLong p)
    | none => s.settleCdata

/-- The root element of a text that ends here. -/
def root (s : Scanner) : Except Fault Element :=
  if s.tree.isInside then .error .unclosedRoot
  else if !s.mode.isResting then .error .unfinishedMarkup
  else match s.tree.root? with
    | some e => .ok e
    | none => .error .noRoot

/-- The root element of a text of the given length in units that ends here. -/
def finish (s : Scanner) (length : Nat) : Except Fault Element :=
  match s.checkLengths length with
  | .ok s => s.root
  | .error f => .error f

end Scanner

end Docdown.Xml
