import Docdown.Proofs.Xml.Runs
import Docdown.Xml.Entity
import Docdown.Xml.Name

/-!
# Docdown.Proofs.Xml.Spelling

The ways to write a tree down.  A tree can be spelled in many ways: blanks may
stand at most places inside a tag, a character may be written as a reference, a
text run may be cut by comments, and so on.  `Document` records one such choice
for a whole document, with the tree it is about inside it:

* `Document.text` -- the characters of the spelling;
* `Document.tree` -- the root element that is spelled;
* `Document.Spells` -- whether a given tree is spelled, however its text is cut
  into runs.

The parts carry the proofs of their own well-formedness, so every value of these
types is a spelling.
-/

namespace Docdown.Xml.Spelling

/-! ## words -/

/-- Whether a text is a name. -/
def isName : List Char → Bool
  | [] => false
  | c :: cs => isNameStart c && cs.all isNameChar

/-- Whether a text can stand between the ampersand and the semicolon of a
reference. -/
def isEntityName : List Char → Bool
  | [] => false
  | c :: cs => isEntityStart c && cs.all isEntityChar

/-- Blanks, none or several. -/
structure Blanks where
  chars : List Char
  all_isSpace : ∀ c ∈ chars, isSpace c = true
deriving DecidableEq, Repr

/-- No blanks. -/
def Blanks.none : Blanks := ⟨[], by simp⟩

/-- Blanks with one more. -/
def Blanks.push (b : Blanks) (c : Char) (hc : isSpace c = true) : Blanks where
  chars := b.chars ++ [c]
  all_isSpace := by
    intro d hd
    rcases List.mem_append.1 hd with hd | hd
    · exact b.all_isSpace d hd
    · rw [List.mem_singleton.1 hd]; exact hc

/-- A name of an element or an attribute. -/
structure Name where
  chars : List Char
  isName : isName chars = true
deriving DecidableEq, Repr

def Name.text (n : Name) : String := String.ofList n.chars

/-- The name of a character that is known: one of the table, or its number in digits
(`Entity.resolve?_decimal`, `Entity.resolve?_hexadecimal`). -/
structure Reference where
  name : List Char
  isEntityName : isEntityName name = true
  isSome_resolve? : (Entity.resolve? name).isSome = true
deriving DecidableEq, Repr

/-- The character a reference stands for. -/
def Reference.char (r : Reference) : Char := (Entity.resolve? r.name).get r.isSome_resolve?

def Reference.text (r : Reference) : List Char := '&' :: (r.name ++ [';'])

theorem Reference.text_append (r : Reference) (rest : List Char) :
    r.text ++ rest = '&' :: (r.name ++ ';' :: rest) := by
  rw [text, List.cons_append, List.append_assoc, List.singleton_append]

/-- A character, written where `stop` would end the text: as itself or as a
reference. -/
inductive Written (stop : Char) where
  | plain (c : Char) (h : c ≠ stop ∧ c ≠ '&')
  | reference (r : Reference)
deriving DecidableEq, Repr

namespace Written

def text {stop : Char} : Written stop → List Char
  | .plain c _ => [c]
  | .reference r => r.text

/-- The character that is written. -/
def char {stop : Char} : Written stop → Char
  | .plain c _ => c
  | .reference r => r.char

end Written

/-! ## tags -/

inductive Quote where
  | single | double
deriving DecidableEq, Repr

def Quote.char : Quote → Char
  | .single => '\''
  | .double => '"'

/-- An attribute in a tag, with the blanks that set it apart from what precedes
it. -/
structure Assignment where
  gap : Blanks
  gap_ne_nil : gap.chars ≠ []
  name : Name
  beforeEquals : Blanks
  afterEquals : Blanks
  quote : Quote
  value : List (Written quote.char)

namespace Assignment

def text (a : Assignment) : List Char :=
  a.gap.chars ++ (a.name.chars ++ (a.beforeEquals.chars ++ '=' :: (a.afterEquals.chars ++
    a.quote.char :: (a.value.flatMap Written.text ++ [a.quote.char]))))

/-- The name and the value that are written. -/
def pair (a : Assignment) : Attribute :=
  (a.name.text, String.ofList (a.value.map Written.char))

end Assignment

/-- The attributes that an element gets from those written in its tag: of several
with one name the first counts, and `__proto__` names none. -/
def effective : List Attribute → List Attribute
  | [] => []
  | a :: as =>
    if a.1 = "__proto__" then effective as
    else a :: (effective as).filter fun b => b.1 ≠ a.1

/-- An opening tag, or the tag of an empty element, up to the `>` or `/>` that
ends it.  No attribute may follow one named `hasOwnProperty`. -/
structure StartTag where
  lead : Blanks
  name : Name
  assignments : List Assignment
  tail : Blanks
  lookup : "hasOwnProperty" ∉ (assignments.map fun a => a.pair.1).dropLast

namespace StartTag

/-- What follows the `<`. -/
def inner (g : StartTag) : List Char :=
  g.lead.chars ++ (g.name.chars ++ (g.assignments.flatMap Assignment.text ++ g.tail.chars))

def text (g : StartTag) : List Char := '<' :: g.inner

def attributes (g : StartTag) : List Attribute := effective (g.assignments.map Assignment.pair)

end StartTag

/-- The blanks of a closing tag: after the `<`, after the slash and after the
name, which is that of the opening tag. -/
structure EndTag where
  lead : Blanks
  afterSlash : Blanks
  tail : Blanks
deriving DecidableEq, Repr

/-- What stands between the `<` and the `>`. -/
def EndTag.inner (e : EndTag) (n : Name) : List Char :=
  e.lead.chars ++ '/' :: (e.afterSlash.chars ++ (n.chars ++ e.tail.chars))

def EndTag.text (e : EndTag) (n : Name) : List Char := '<' :: (e.inner n ++ ['>'])

/-! ## content -/

/-- Markup that says nothing about the tree. -/
inductive Aside where
  | comment (lead : Blanks) (body : List Char) (hbody : ¬ ['-', '-'] <:+: body)
      (hlast : body.getLast? ≠ some '-')
  | instruction (lead : Blanks) (body : List Char) (hbody : '?' ∉ body)
deriving DecidableEq, Repr

def Aside.text : Aside → List Char
  | .comment lead body _ _ =>
    '<' :: (lead.chars ++ ('!' :: '-' :: '-' :: (body ++ ['-', '-', '>'])))
  | .instruction lead body _ => '<' :: (lead.chars ++ '?' :: (body ++ ['?', '>']))

/-- Content as it is written. -/
inductive Markup where
  | nil
  | char (w : Written '<') (rest : Markup)
  | cdata (lead : Blanks) (body : List Char) (h : ¬ [']', ']', '>'] <:+: body) (rest : Markup)
  | aside (a : Aside) (rest : Markup)
  /-- An empty element written with one tag. -/
  | empty (tag : StartTag) (rest : Markup)
  | element (tag : StartTag) (inner : Markup) (close : EndTag) (rest : Markup)

namespace Markup

def text : Markup → List Char
  | .nil => []
  | .char w r => w.text ++ r.text
  | .cdata lead body _ r =>
    '<' :: (lead.chars ++ ('!' :: ("[CDATA[".toList ++ (body ++ [']', ']', '>'])))) ++ r.text
  | .aside a r => a.text ++ r.text
  | .empty tag r => tag.text ++ '/' :: '>' :: r.text
  | .element tag inner close r =>
    tag.text ++ '>' :: (inner.text ++ (close.text tag.name ++ r.text))

/-- The content that is written.  Every character is a run of its own. -/
def content : Markup → Content
  | .nil => .nil
  | .char w r => .text (String.ofList [w.char]) r.content
  | .cdata _ body _ r => .text (String.ofList body) r.content
  | .aside _ r => r.content
  | .empty tag r => .element tag.name.text tag.attributes .nil r.content
  | .element tag inner _ r => .element tag.name.text tag.attributes inner.content r.content

/-- Whether there are tags and characters only: no CDATA section, no comment and
no processing instruction. -/
def isPlain : Markup → Bool
  | .nil => true
  | .char _ r => r.isPlain
  | .cdata _ _ _ _ => false
  | .aside _ _ => false
  | .empty _ r => r.isPlain
  | .element _ inner _ r => inner.isPlain && r.isPlain

/-- One markup after another. -/
def append : Markup → Markup → Markup
  | .nil, m => m
  | .char w r, m => .char w (r.append m)
  | .cdata lead body h r, m => .cdata lead body h (r.append m)
  | .aside a r, m => .aside a (r.append m)
  | .empty tag r, m => .empty tag (r.append m)
  | .element tag inner close r, m => .element tag inner close (r.append m)

theorem text_append (m k : Markup) : (m.append k).text = m.text ++ k.text := by
  induction m with
  | nil => rfl
  | char w r ih => simp only [append, text, ih, List.append_assoc]
  | cdata lead body h r ih => simp only [append, text, ih, List.append_assoc]
  | aside a r ih => simp only [append, text, ih, List.append_assoc]
  | empty tag r ih => simp only [append, text, ih, List.append_assoc, List.cons_append]
  | element tag inner close r _ ih =>
    simp only [append, text, ih, List.append_assoc, List.cons_append]

theorem isPlain_append (m k : Markup) : (m.append k).isPlain = (m.isPlain && k.isPlain) := by
  induction m with
  | nil => rfl
  | char w r ih => simp only [append, isPlain, ih]
  | cdata lead body h r ih => rfl
  | aside a r ih => rfl
  | empty tag r ih => simp only [append, isPlain, ih]
  | element tag inner close r _ ih => simp only [append, isPlain, ih, Bool.and_assoc]

end Markup

/-! ## documents -/

/-- The root element as it is written. -/
inductive Root where
  | empty (tag : StartTag)
  | element (tag : StartTag) (inner : Markup) (close : EndTag)

namespace Root

/-- The root element without the `>` that ends it. -/
def front : Root → List Char
  | .empty tag => tag.text ++ ['/']
  | .element tag inner close => tag.text ++ '>' :: (inner.text ++ '<' :: close.inner tag.name)

def text (r : Root) : List Char := r.front ++ ['>']

def tree : Root → Element
  | .empty tag => ⟨tag.name.text, tag.attributes, .nil⟩
  | .element tag inner _ => ⟨tag.name.text, tag.attributes, inner.content⟩

def isPlain : Root → Bool
  | .empty _ => true
  | .element _ inner _ => inner.isPlain

end Root

/-- What may stand before and after the root element. -/
inductive Misc where
  | blanks (b : Blanks)
  | aside (a : Aside)
deriving DecidableEq, Repr

namespace Misc

def text : Misc → List Char
  | .blanks b => b.chars
  | .aside a => a.text

def isBlanks : Misc → Bool
  | .blanks _ => true
  | .aside _ => false

end Misc

/-- A document as it is written, with or without a byte-order mark. -/
structure Document where
  mark : Bool
  before : List Misc
  root : Root
  after : List Misc

namespace Document

/-- What precedes the root element. -/
def prolog (d : Document) : List Char :=
  (if d.mark then ['\uFEFF'] else []) ++ d.before.flatMap Misc.text

def text (d : Document) : List Char :=
  d.prolog ++ (d.root.text ++ d.after.flatMap Misc.text)

def string (d : Document) : String := String.ofList d.text

/-- The root element that is written. -/
def tree (d : Document) : Element := d.root.tree

/-- Whether there is nothing but blanks around the root element, and nothing but
tags and characters inside it. -/
def isPlain (d : Document) : Bool :=
  d.before.all Misc.isBlanks && d.root.isPlain && d.after.all Misc.isBlanks

/-- A document spells every tree that differs from the one written in it at most
in how text is cut into runs. -/
def Spells (d : Document) (e : Element) : Prop := d.tree.merge = e.merge

end Document

end Docdown.Xml.Spelling
