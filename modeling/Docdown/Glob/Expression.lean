import Docdown.Glob.Class
import Docdown.Glob.Tail

/-!
# Docdown.Glob.Expression

The regular expression that a pattern of a name means.

Two rules look at where in the name a piece stands.  A dot at the start of a name
is matched only by a dot of the pattern, so a guard stands before what could
match any unit there.  And a sequence of nothing but stars that reaches from the
start of a name to its end stands for at least one unit.

The rounds of a repeated group after the first stand at no start, so they are
written without guards.  A group that is all of a name and has nothing in any
branch is no group: it is written as it stands.
-/

namespace Docdown.Glob

open Regex (sign)

/-! ## Stretches without groups -/

/-- What a unit of a stretch comes after. -/
inductive After where
  | backslash | star | other
deriving DecidableEq

/-- The source of a stretch after `skip` units more.  `stars` is what one or
several stars stand for. -/
def stretchSource (stars : Source) : (skip : Nat) → After → List Nat → Source
  | _, _, [] => .empty
  | skip + 1, a, _ :: s => stretchSource stars skip a s
  | 0, .backslash, u :: s => .plain (escapedUnit u) ++ stretchSource stars 0 .other s
  | 0, a, u :: s =>
    if u = sign '*' then
      if a = .star then stretchSource stars 0 .star s else stars ++ stretchSource stars 0 .star s
    else if u = sign '?' then .meant anyUnit ++ stretchSource stars 0 .other s
    else if u = sign '\\' ∧ s ≠ [] then stretchSource stars 0 .backslash s
    else match (if u = sign '[' then classSource? s else none) with
      | some (c, after) => c ++ stretchSource stars (s.length - after.length) .other s
      | none => .plain (nameUnit u) ++ stretchSource stars 0 .other s

/-- The source of a stretch.  `whole` says that its sequence reaches from the
start of the name to the end. -/
def textSource (whole : Bool) (s : List Nat) : Source :=
  let onlyStars := s.all (· == sign '*')
  stretchSource (.meant (if whole && onlyStars then someUnits else anyUnits)) 0 .other s

/-! ## Groups -/

/-- Where a sequence or a group stands: whether it reaches to the start of the
name and to its end, and whether a dot at the start is a unit like any other. -/
structure Standing where
  starts : Bool
  ends : Bool
  dots : Bool

namespace Standing

/-- From the start of the name to the end. -/
def whole (c : Standing) : Bool := c.starts && c.ends

/-- The same in later rounds of a repeated group. -/
def later (c : Standing) : Standing := { c with dots := true }

/-- The guard before a sequence that starts with a stretch. -/
def guard (c : Standing) (s : Source) : Source :=
  if c.starts then guardText c.dots s.text else .empty

/-- The guard before what can be any units. -/
def unitsGuard (c : Standing) : Source :=
  if c.starts && !c.dots then .plain (spelled noDot) else .empty

end Standing

/-- The source of a stretch that is a sequence of its own. -/
def aloneSource (c : Standing) (s : List Nat) : Source :=
  let t := textSource c.whole s
  c.guard t ++ t

/-- The text of a group with nothing in any of its branches. -/
def voidText (k : GroupKind) (branches : Nat) : List Nat :=
  sign k.char :: sign '(' :: List.replicate (branches - 1) (sign '|') ++ [sign ')']

/-- The source of a group's branches.  Where the group is all of a name, empty
branches are left out. -/
def bodySource (c : Standing) (branches : List Source) : Source :=
  .alternatives (branches.filter fun b => !c.whole || b.text ≠ [])

/-- The source of a repeated group, given its body in the first round and in
later ones. -/
def repeatedSource (k : GroupKind) (first later : Source) : Source :=
  if later.text = [] ∨ later.text = first.text then
    .meant "(?:" ++ first ++ .plain [sign ')', sign k.char]
  else
    .meant "(?:(?:" ++ first ++ .meant ")(?:" ++ later ++
      .meant (if k = .many then ")*?)?" else ")*?)")

/-- The source of a group, given its branches' sources in the first round and, if
they may differ, in later ones. -/
def groupSource (k : GroupKind) (bare : Bool) (c : Standing) (first later : List Source) :
    Source :=
  let body := bodySource c first
  if c.whole && body.text = [] && k ≠ .negation then
    if c.dots then aloneSource c (voidText k first.length)
    else .plain (voidText k first.length)
  else match k with
    | .one => .meant "(?:" ++ body ++ .meant ")"
    | .optional => .meant "(?:" ++ body ++ .meant ")?"
    | .many | .some => repeatedSource k body (bodySource c.later later)
    | .negation =>
      if bare then ⟨(c.unitsGuard ++ .meant someUnits).text, true, body.wide⟩
      else .meant "(?:(?!(?:" ++ body ++ .meant "))" ++ c.unitsGuard ++ .meant (anyUnits ++ ")")

/-! ## Sequences -/

/-- Whether the first piece is a stretch. -/
def Sequence.startsWithText : Sequence → Bool
  | .text _ _ => true
  | _ => false

mutual

/-- The source of the pieces of a sequence.  `whole` says that the sequence
reaches from the start of the name to the end; `c` is where its first piece
stands. -/
def Sequence.piecesSource (whole : Bool) : Sequence → (c : Standing) → Source
  | .done, _ => .empty
  | .text s r, c => textSource whole s ++ r.piecesSource whole { c with starts := false }
  | .unclosed s r, c => aloneSource c s ++ r.piecesSource whole { c with starts := false }
  | .group k bare bs r, c =>
    let inner := { c with ends := c.ends && r.isDone }
    let later := if c.dots then [] else bs.sources k inner.later
    groupSource k bare inner (bs.sources k inner) later ++
      r.piecesSource whole { c with starts := c.starts && k == .negation }

/-- The sources of the branches of a group. -/
def Branches.sources (k : GroupKind) (c : Standing) : Branches → List Source
  | .none => []
  | .more opens _ s r =>
    let inner : Standing := ⟨c.starts && opens, c.ends || k == .negation, c.dots⟩
    let pieces := s.piecesSource inner.whole inner
    let guard := if s.startsWithText then inner.guard pieces else .empty
    let close := if k = .negation then .plain (spelled nameEnd) else .empty
    (guard ++ pieces ++ close) :: r.sources k c

end

/-- The source of a pattern that stands for a whole name. -/
def Sequence.source (p : Sequence) : Source :=
  let c : Standing := ⟨true, true, false⟩
  let pieces := p.piecesSource true c
  (if p.startsWithText then c.guard pieces else .empty) ++ pieces

end Docdown.Glob
