import Docdown.Regex.Reading
import Docdown.Text.Blank

/-!
# Docdown.Glob.Source

The text of the regular expression that a part of a pattern means, as it is put
together from the texts of smaller parts.

A source without signs of a pattern only spells a name, and a source that names
categories of characters is read by code points.
-/

namespace Docdown.Glob

open Regex (sign isOneOf)

/-- The text of an expression, with whether a sign of a pattern is in it and
whether it is wide. -/
structure Source where
  text : List Nat
  magic : Bool
  wide : Bool
deriving DecidableEq, Repr

/-- The units of an ASCII text. -/
def spelled (s : String) : List Nat := s.toList.map sign

namespace Source

def empty : Source := ⟨[], false, false⟩

/-- A text without a sign of a pattern. -/
def plain (s : List Nat) : Source := ⟨s, false, false⟩

/-- A text that a sign of a pattern means. -/
def meant (s : String) : Source := ⟨spelled s, true, false⟩

/-- Sources one after the other. -/
def append (a b : Source) : Source := ⟨a.text ++ b.text, a.magic || b.magic, a.wide || b.wide⟩

instance : Append Source := ⟨append⟩

@[simp] theorem text_append (a b : Source) : (a ++ b).text = a.text ++ b.text := rfl
@[simp] theorem magic_append (a b : Source) : (a ++ b).magic = (a.magic || b.magic) := rfl
@[simp] theorem wide_append (a b : Source) : (a ++ b).wide = (a.wide || b.wide) := rfl

theorem append_assoc (a b c : Source) : a ++ b ++ c = a ++ (b ++ c) := by
  show Source.mk _ _ _ = Source.mk _ _ _
  simp [Bool.or_assoc]

/-- Sources with bars between them. -/
def alternatives : List Source → Source
  | [] => empty
  | [a] => a
  | a :: b :: r => a ++ plain [sign '|'] ++ alternatives (b :: r)

end Source

/-! ## Escaping -/

/-- A unit, after a backslash if it is one of some signs. -/
def escaped (signs : String) (u : Nat) : List Nat :=
  if isOneOf u signs then [sign '\\', u] else [u]

/-- A unit of a name. -/
def nameUnit (u : Nat) : List Nat :=
  if Text.isBlank (Text.charOf u) then [sign '\\', u]
  else escaped "-[]\x7b\x7d()*+?.,\\^$|#" u

/-- A unit of a pattern that has a backslash before it. -/
def escapedUnit (u : Nat) : List Nat := escaped "().*\x7b\x7d+?[]^$\\!" u

/-- A unit of a class. -/
def classUnit (u : Nat) : List Nat := escaped "[]\\-" u

/-- A text without the backslashes that take the meaning from what follows. -/
def unescaped : List Nat → List Nat
  | [] => []
  | [u] => [u]
  | u :: v :: s =>
    if u = sign '\\' ∧ v ≠ sign '/' then v :: unescaped s else u :: unescaped (v :: s)

/-! ## Recurring texts -/

/-- Any unit, any number of units, and any number but none. -/
def anyUnit : String := "[^/]"
def anyUnits : String := "[^/]*?"
def someUnits : String := "[^/]+?"

/-- Where no dot comes. -/
def noDot : String := "(?!\\.)"

/-- Where no name comes that is nothing but one or two dots. -/
def noDots : String := "(?!(?:^|/)\\.\\.?(?:$|/))"

/-- The end of a name. -/
def nameEnd : String := "(?:$|\\/)"

/-- Whether a source starts with a letter of any kind or with a dot. -/
def startsOpen (s : List Nat) : Bool := s.head?.any fun u => isOneOf u "[."

/-- What has to be ruled out before a source that starts a name.  `dots` says
that a dot at the start is a unit like any other. -/
def guardText (dots : Bool) (s : List Nat) : Source :=
  let afterDots (ds : List Nat) := ds.isPrefixOf s && startsOpen (s.drop ds.length)
  if dots && startsOpen s || afterDots (spelled "\\.") || afterDots (spelled "\\.\\.") then
    .plain (spelled noDots)
  else if !dots && startsOpen s then .plain (spelled noDot)
  else .empty

end Docdown.Glob
