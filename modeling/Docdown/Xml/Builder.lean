import Docdown.Text.Blank
import Docdown.Xml.Problem
import Docdown.Xml.Tree

/-!
# Docdown.Xml.Builder

Building a tree from the events of a text read from front to back: an opening
tag, a closing tag, a run of text.

The builder holds the chain of open elements, innermost first, and the root
element once it was closed.  Each open element collects its pieces newest first
and joins the one around it when it is closed.
-/

namespace Docdown.Xml

/-- What happens while a document is read. -/
inductive Event where
  | startTag (name : String) (attributes : List Attribute)
  | endTag
  | text (value : String)
deriving DecidableEq, Repr

/-- An open element.  Its pieces are held newest first. -/
structure Frame where
  name : String
  attributes : List Attribute
  nodes : List Node := []
deriving DecidableEq, Repr

/-- The element an open element becomes when it is closed. -/
def Frame.element (f : Frame) : Element :=
  ⟨f.name, f.attributes, .ofNodes f.nodes.reverse⟩

/-- A tree being built: the root element once it was closed, and the open
elements, innermost first. -/
structure Builder where
  root? : Option Element := none
  frames : List Frame := []
deriving DecidableEq, Repr

namespace Builder

/-- Whether some element is open. -/
def isInside (b : Builder) : Bool := !b.frames.isEmpty

/-- Whether an opening tag was seen. -/
def isStarted (b : Builder) : Bool := b.isInside || b.root?.isSome

/-- Why an event cannot happen: outside the root element no text but blanks may
stand, and no second element may open. -/
def fault? (b : Builder) : Event → Option Fault
  | .startTag name _ => if !b.isInside && b.root?.isSome then some (.secondRoot name) else none
  | .endTag => none
  | .text v => if !b.isInside && !v.toList.all Text.isBlank then some .sectionOutsideRoot else none

/-- Adds a piece to the innermost open element.  Outside every element text is
dropped and the first element becomes the root. -/
def add (b : Builder) (n : Node) : Builder :=
  match b.frames, n with
  | f :: fs, _ => { b with frames := { f with nodes := n :: f.nodes } :: fs }
  | [], .element e => { b with root? := b.root? <|> some e }
  | [], .text _ => b

/-- The tree after an event, whether or not there is something wrong with it. -/
def apply (b : Builder) : Event → Builder
  | .startTag name attributes => { b with frames := ⟨name, attributes, []⟩ :: b.frames }
  | .endTag => match b.frames with
    | [] => b
    | f :: fs => { b with frames := fs }.add (.element f.element)
  | .text v => b.add (.text v)

/-- The tree after an event that can happen. -/
def accept (b : Builder) (e : Event) : Except Fault Builder :=
  match b.fault? e with
  | some f => .error f
  | none => .ok (b.apply e)

/-! ## What an event does to the open elements -/

@[simp] theorem frames_apply_startTag (b : Builder) (name : String) (as : List Attribute) :
    (b.apply (.startTag name as)).frames = ⟨name, as, []⟩ :: b.frames := rfl

@[simp] theorem root?_apply_startTag (b : Builder) (name : String) (as : List Attribute) :
    (b.apply (.startTag name as)).root? = b.root? := rfl

theorem length_frames_add (b : Builder) (n : Node) :
    (b.add n).frames.length = b.frames.length := by
  unfold add; split <;> simp_all

/-- A closing tag closes one element if one is open. -/
theorem length_frames_apply_endTag (b : Builder) :
    (b.apply .endTag).frames.length = b.frames.length - 1 := by
  cases hf : b.frames with
  | nil => simp [apply, hf]
  | cons f fs => simp [apply, hf, length_frames_add]

end Builder

end Docdown.Xml
