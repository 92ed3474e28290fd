import Docdown.Glob.Expression

/-!
# Docdown.Glob.NameTest

Which names a part of a pattern matches.

A part without signs of a pattern is the name it spells.  A part of nothing but
stars, or of nothing but question marks, and then text without any sign matches
what ends in just that text, backslashes included.  Any other part matches by its
regular expression; if there is none with its text, the part is rejected.
-/

namespace Docdown.Glob

open Regex (sign isOneOf)

/-- A test of names. -/
inductive NameTest where
  | exactly (name : String)
  /-- A name without a dot at the start that ends in some units and has, if that
  is given, a number of units. -/
  | ending (length? : Option Nat) (tail : List Nat)
  | matching (r : Regex) (wide : Bool)
deriving DecidableEq, Repr

namespace NameTest

/-- The test that a text of one sign, some times over, and then plain text
means. -/
def ofRun? (s : List Nat) : Option NameTest :=
  match s with
  | [] => none
  | u :: _ =>
    let tail := s.dropWhile (· == u)
    if tail.any fun v => isOneOf v "+@!?*[(" then none
    else if u = sign '*' then some (.ending none tail)
    else if u = sign '?' then some (.ending (some s.length) tail)
    else none

/-- The source of the expression that a text means. -/
def sourceOf (s : List Nat) : Source := ((Sequence.ofUnits s).merge.continued .done).source

/-- The test that a part of a pattern means. -/
def ofPart (part : String) : Except Regex.Rejection NameTest :=
  let s := Text.units part.toList
  let source := sourceOf s
  if source.magic then
    (Regex.ofUnits source.wide (sign '^' :: source.text ++ [sign '$'])).map fun r =>
      (ofRun? s).getD (.matching r source.wide)
  else .ok (.exactly (Text.ofUnits (unescaped source.text)))

/-- Whether a name passes a test. -/
def passes (t : NameTest) (name : String) : Bool :=
  let s := Text.units name.toList
  match t with
  | exactly n => name == n
  | ending length? tail =>
    s.head? != some (sign '.') && tail.isSuffixOf s && length?.all (· == s.length)
  | matching r wide => r.isMatch (Regex.lettersOf wide s)

end NameTest

end Docdown.Glob
