import Docdown.Glob.Pattern

/-!
# Docdown.Glob.Merge

Groups that become one with a group they stand in.

A branch that is nothing but a group can give its place to that group's
branches: one of one of some is one of all of them.  Where the inner group may
also stand for nothing, a blank branch goes with them.  A group whose only
branch is a group can become a group of one kind: optionally one or more is any
number, and what no negation is, is one of the branches.
-/

namespace Docdown.Glob

namespace GroupKind

/-- Whether the branches of an inner group can stand among those of an outer
one. -/
def takes (outer inner : GroupKind) : Bool :=
  match outer with
  | negation | one => inner = one
  | optional => inner ∈ [optional, one]
  | many => inner ≠ negation
  | some => inner ∈ [some, one]

/-- Whether they can with a blank branch beside them. -/
def takesWithBlank (outer inner : GroupKind) : Bool :=
  match outer with
  | negation | one => inner = optional
  | some => inner ∈ [optional, many]
  | many | optional => false

/-- The kind of a group that takes the place of an outer one and its only
branch, an inner one. -/
def merged? (outer inner : GroupKind) : Option GroupKind :=
  match outer, inner with
  | negation, negation => .some one
  | optional, many | optional, some => .some many
  | one, k => .some k
  | _, _ => none

/-- A branch that can give its place to others adds no depth. -/
theorem joins_of_takes {outer inner : GroupKind} (h : outer.takes inner) : outer.joins inner := by
  revert h; cases outer <;> cases inner <;> decide

end GroupKind

namespace Branches

/-- Branches each of which is owed some more copies. -/
def owing (n : Nat) : Branches → Branches
  | .none => .none
  | .more o w s r => .more o (w + n) s (r.owing n)

@[simp] theorem owing_zero (bs : Branches) : bs.owing 0 = bs := by
  refine Branches.rec (motive_1 := fun _ => True) (motive_2 := fun bs => bs.owing 0 = bs)
    ?_ ?_ ?_ ?_ ?_ ?_ bs <;> simp_all [owing]

/-- The branches of a group of some kind after inner groups have given their
places to their branches.  The inner groups are merged already. -/
def takeIn (k : GroupKind) : Branches → Branches
  | .none => .none
  | .more o w (.group g bare bs .done) r =>
    if k.takes g then (bs.takeIn k).append (r.takeIn k)
    else if k.takesWithBlank g then (bs.takeIn k).append (.more false 0 .done (r.takeIn k))
    else .more o w (.group g bare bs .done) (r.takeIn k)
  | .more o w s r => .more o w s (r.takeIn k)

end Branches

/-- The group that a group with merged branches becomes, before what follows it.
A negation of a negation is no negation any more, and its branches are owed the
copies of what follows that a negation's branches get. -/
def merged (k : GroupKind) (bare : Bool) (owed : Nat) : Branches → Sequence → Sequence
  | .more o w (.group g b bs .done) .none, r =>
    match k.merged? g with
    | some k' => merged k' false (if k = .negation then 1 else 0) bs r
    | none => .group k bare ((Branches.more o w (.group g b bs .done) .none).owing owed) r
  | bs, r => .group k bare (bs.owing owed) r

mutual

/-- A sequence with all groups merged that can be. -/
def Sequence.merge : Sequence → Sequence
  | .done => .done
  | .text s r => .text s r.merge
  | .unclosed s r => .unclosed s r.merge
  | .group k bare bs r => merged k bare 0 (bs.merge.takeIn k) r.merge

/-- Branches with all groups in them merged that can be. -/
def Branches.merge : Branches → Branches
  | .none => .none
  | .more o w s r => .more o w s.merge r.merge

end

end Docdown.Glob
