import Docdown.Glob.Source

/-!
# Docdown.Glob.Class

Classes: one unit out of those between brackets, or out of all others after a
`!` or a `^`.

Between the brackets stand units, ranges such as `a-z`, and names such as
`[:alpha:]`.  A range whose last unit precedes its first is left out.  A class
without anything in it matches nothing, and what comes after it in its stretch
does not count; so does a range that would end in a name.
-/

namespace Docdown.Glob

open Regex (sign)

/-! ## Named classes -/

/-- A named class: some categories and some units, or all others. -/
structure NamedClass where
  name : String
  categories : List Text.Category
  units : String
  negated : Bool
deriving Repr

namespace NamedClass

/-- The name as it stands in a class. -/
def label (c : NamedClass) : List Nat := spelled ("[:" ++ c.name ++ ":]")

def text (c : NamedClass) : List Nat :=
  spelled (String.join (c.categories.map fun k => "\\p\x7b" ++ k.label ++ "\x7d") ++ c.units)

def wide (c : NamedClass) : Bool := !c.categories.isEmpty

def all : List NamedClass := [
  ⟨"alnum", [.letter, .letterNumber, .decimalNumber], "", false⟩,
  ⟨"alpha", [.letter, .letterNumber], "", false⟩,
  ⟨"ascii", [], "\\x00-\\x7f", false⟩,
  ⟨"blank", [.spaceSeparator], "\\t", false⟩,
  ⟨"cntrl", [.control], "", false⟩,
  ⟨"digit", [.decimalNumber], "", false⟩,
  ⟨"graph", [.separator, .other], "", true⟩,
  ⟨"lower", [.lowercaseLetter], "", false⟩,
  ⟨"print", [.other], "", true⟩,
  ⟨"punct", [.punctuation], "", false⟩,
  ⟨"space", [.separator], "\\t\\r\\n\\v\\f", false⟩,
  ⟨"upper", [.uppercaseLetter], "", false⟩,
  ⟨"word", [.letter, .letterNumber, .decimalNumber, .connector], "", false⟩,
  ⟨"xdigit", [], "A-Fa-f0-9", false⟩]

/-- The named class that a text starts with. -/
def at? (s : List Nat) : Option NamedClass := all.find? fun c => c.label.isPrefixOf s

end NamedClass

/-! ## Reading -/

/-- What has been read of a class: the texts of what it holds and of what it
leaves out, and the first unit of a range whose last is still to come. -/
structure ClassReading where
  /-- Whether anything has been read. -/
  started : Bool
  /-- Whether a backslash precedes. -/
  escaping : Bool
  lower? : Option Nat
  members : List (List Nat)
  excluded : List (List Nat)
  wide : Bool

namespace ClassReading

def fresh : ClassReading := ⟨false, false, none, [], [], false⟩

def addUnits (r : ClassReading) (us : List Nat) : ClassReading :=
  { r with members := r.members ++ [us.flatMap classUnit] }

def addNamed (r : ClassReading) (c : NamedClass) : ClassReading :=
  if c.negated then { r with excluded := r.excluded ++ [c.text], wide := r.wide || c.wide }
  else { r with members := r.members ++ [c.text], wide := r.wide || c.wide }

/-- The range from one unit to another. -/
def addRange (r : ClassReading) (a b : Nat) : ClassReading :=
  let r := { r with lower? := none }
  if a = b then r.addUnits [b]
  else if a < b then { r with members := r.members ++ [classUnit a ++ sign '-' :: classUnit b] }
  else r

/-- The one unit that a class holds, if there is nothing else in it. -/
def only? (r : ClassReading) : Option Nat :=
  match r.members, r.excluded with
  | [[u]], [] => if Regex.Letters.inLine.has u then some u else none
  | [[_, u]], [] => if Regex.Letters.inLine.has u then some u else none
  | _, _ => none

end ClassReading

/-- A class up to its closing bracket, after `skip` units more, and what comes
after it; no class if a range would end in a name. -/
def readClass : (skip : Nat) → ClassReading → List Nat → Option (Option ClassReading × List Nat)
  | _, _, [] => none
  | skip + 1, r, _ :: s => readClass skip r s
  | 0, r, u :: s =>
    if u = sign ']' ∧ r.started ∧ ¬ r.escaping then some (some r, s)
    else
      let r := { r with started := true }
      if u = sign '\\' ∧ ¬ r.escaping then readClass 0 { r with escaping := true } s
      else match (if r.escaping then none else NamedClass.at? (u :: s)) with
        | some c =>
          if r.lower?.isSome then some (none, [])
          else readClass (c.label.length - 1) (r.addNamed c) s
        | none =>
          let r := { r with escaping := false }
          match r.lower? with
          | some a => readClass 0 (r.addRange a u) s
          | none =>
            match s with
            | d :: e :: _ =>
              if d ≠ sign '-' then readClass 0 (r.addUnits [u]) s
              else if e = sign ']' then readClass 1 (r.addUnits [u, d]) s
              else readClass 1 { r with lower? := some u } s
            | _ => readClass 0 (r.addUnits [u]) s

/-! ## Meaning -/

/-- The source of a class that matches nothing. -/
def voidClass : Source := .meant "$."

/-- The text of a class of letters. -/
def lettersText (negated : Bool) (items : List (List Nat)) : List Nat :=
  spelled (if negated then "[^" else "[") ++ items.flatten ++ spelled "]"

/-- The source of a class that has been read. -/
def classText (negated : Bool) (r : ClassReading) : List Nat :=
  let held := lettersText negated r.members
  let left := lettersText (!negated) r.excluded
  if r.excluded = [] then held
  else if r.members = [] then left
  else spelled "(" ++ held ++ spelled "|" ++ left ++ spelled ")"

/-- The source of the class whose text follows an opening bracket, and what comes
after it. -/
def classSource? (s : List Nat) : Option (Source × List Nat) :=
  let negated := s.head? == some (sign '!') || s.head? == some (sign '^')
  match readClass 0 .fresh (if negated then s.tail else s) with
  | none => none
  | some (none, _) => some (voidClass, [])
  | some (some r, after) =>
    if r.members = [] ∧ r.excluded = [] then some (voidClass, [])
    else match negated, r.only? with
      | false, some u => some (.plain (nameUnit u), after)
      | _, _ => some (⟨classText negated r, true, r.wide⟩, after)

end Docdown.Glob
