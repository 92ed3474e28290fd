import Docdown.Regex.Reading

/-!
# Docdown.Glob.Pattern

The pattern of a name, read into plain stretches and groups.

A group is a sign with a parenthesis after it: `@(…)`, `?(…)`, `*(…)`, `+(…)` or
`!(…)`, with branches between bars.  Groups nest two deep below the outermost;
further down only those are groups that can become part of the group they stand
in.  A backslash takes the meaning from the unit after it, and inside a bracket
nothing is a group.  What is opened as a group and not closed means itself, and
so does everything after it.
-/

namespace Docdown.Glob

open Regex (sign)

/-! ## Kinds of groups -/

/-- How many of its branches a group stands for. -/
inductive GroupKind where
  | one | optional | many | some | negation
deriving DecidableEq, Repr

namespace GroupKind

/-- The sign before the parenthesis of a group. -/
def char : GroupKind → Char
  | one => '@'
  | optional => '?'
  | many => '*'
  | some => '+'
  | negation => '!'

def all : List GroupKind := [one, optional, many, some, negation]

/-- The kind of the group that a unit before a parenthesis starts. -/
def ofSign? (u : Nat) : Option GroupKind := all.find? fun k => sign k.char == u

theorem ofSign?_sign (k : GroupKind) : ofSign? (sign k.char) = .some k := by
  cases k <;> rfl

/-- Whether a group of one kind below one of another adds no depth, since it can
become part of it. -/
def joins (outer inner : GroupKind) : Bool :=
  match outer with
  | negation | optional | one => inner ∈ [optional, one]
  | many | some => inner ≠ negation

end GroupKind

/-! ## Patterns -/

mutual

/-- Pieces of a pattern, one after the other. -/
inductive Sequence where
  | done
  /-- A stretch without groups. -/
  | text (s : List Nat) (rest : Sequence)
  /-- A stretch that was opened as a group. -/
  | unclosed (s : List Nat) (rest : Sequence)
  /-- A group.  It is bare if no text stands before its closing parenthesis. -/
  | group (kind : GroupKind) (bare : Bool) (branches : Branches) (rest : Sequence)

/-- The branches of a group. -/
inductive Branches where
  | none
  /-- A branch.  It opens its group if it begins where the group does, and it is
  owed a number of copies of what follows the group. -/
  | more (opens : Bool) (owed : Nat) (body : Sequence) (others : Branches)

end

namespace Sequence

/-- One sequence after another. -/
def append : Sequence → Sequence → Sequence
  | .done, b => b
  | .text s r, b => .text s (r.append b)
  | .unclosed s r, b => .unclosed s (r.append b)
  | .group k bare bs r, b => .group k bare bs (r.append b)

/-- A stretch before a sequence, unless it is empty. -/
def prepend (s : List Nat) (r : Sequence) : Sequence := if s = [] then r else .text s r

def isDone : Sequence → Bool
  | .done => true
  | _ => false

@[simp] theorem append_done (a : Sequence) : a.append .done = a := by
  refine Sequence.rec (motive_1 := fun a => a.append .done = a) (motive_2 := fun _ => True)
    ?_ ?_ ?_ ?_ ?_ ?_ a <;> simp_all [append]

theorem append_assoc (a b c : Sequence) : (a.append b).append c = a.append (b.append c) := by
  refine Sequence.rec (motive_1 := fun a => (a.append b).append c = a.append (b.append c))
    (motive_2 := fun _ => True) ?_ ?_ ?_ ?_ ?_ ?_ a <;> simp_all [append]

end Sequence

namespace Branches

/-- The branches of one group and then those of another. -/
def append : Branches → Branches → Branches
  | .none, b => b
  | .more o w s r, b => .more o w s (r.append b)

def length : Branches → Nat
  | .none => 0
  | .more _ _ _ r => r.length + 1

@[simp] theorem append_none (a : Branches) : a.append .none = a := by
  refine Branches.rec (motive_1 := fun _ => True) (motive_2 := fun a => a.append .none = a)
    ?_ ?_ ?_ ?_ ?_ ?_ a <;> simp_all [append]

theorem length_append (a b : Branches) : (a.append b).length = a.length + b.length := by
  refine Branches.rec (motive_1 := fun _ => True)
    (motive_2 := fun a => (a.append b).length = a.length + b.length)
    ?_ ?_ ?_ ?_ ?_ ?_ a <;> simp_all [append, length]
  omega

end Branches

/-! ## Stretches without groups -/

/-- Where in a bracket a text has come to. -/
inductive Bracket where
  | outside | opened | negated | inside
deriving DecidableEq

/-- After one more unit, which no backslash precedes. -/
def Bracket.next (u : Nat) : Bracket → Bracket
  | .outside => if u = sign '[' then .opened else .outside
  | .opened => if u = sign '!' ∨ u = sign '^' then .negated else .inside
  | .negated => .inside
  | .inside => if u = sign ']' then .outside else .inside

/-- After a backslash or the unit it takes the meaning from. -/
def Bracket.pass (b : Bracket) : Bracket := if b = .outside then .outside else .inside

/-- Where a group may stand: in a group of some kind or in none, and how deep. -/
structure Level where
  kind? : Option GroupKind
  depth : Nat

namespace Level

def top : Level := ⟨none, 0⟩

/-- Whether a group of a kind adds no depth here. -/
def joins (l : Level) (k : GroupKind) : Bool := l.kind?.any fun outer => outer.joins k

/-- The kind of the group that starts with a text, if one does. -/
def groupAt? (l : Level) : List Nat → Option GroupKind
  | u :: v :: _ =>
    (GroupKind.ofSign? u).filter fun k => v == sign '(' && (l.depth ≤ 2 || l.joins k)
  | _ => none

/-- The level inside a group. -/
def inside (l : Level) (k : GroupKind) : Level :=
  ⟨some k, if l.joins k then l.depth else l.depth + 1⟩

/-- Whether a unit ends a branch. -/
def isBreak (l : Level) (u : Nat) : Bool := l.kind?.isSome && (u == sign '|' || u == sign ')')

end Level

/-- The stretch up to the next group or the end of the branch, and what comes
after it. -/
def splitStretch (l : Level) (escaping : Bool) (b : Bracket) : List Nat → List Nat × List Nat
  | [] => ([], [])
  | u :: s =>
    let onward (e : Bool) (b : Bracket) :=
      let (taken, rest) := splitStretch l e b s
      (u :: taken, rest)
    if escaping then onward false b.pass
    else if u = sign '\\' then onward true b.pass
    else if b = .outside ∧ ((l.groupAt? (u :: s)).isSome ∨ l.isBreak u) then ([], u :: s)
    else onward false (b.next u)

/-- A stretch and what comes after it are the text they were split from. -/
theorem splitStretch_append (l : Level) (escaping : Bool) (b : Bracket) (s : List Nat) :
    (splitStretch l escaping b s).1 ++ (splitStretch l escaping b s).2 = s := by
  induction s generalizing escaping b with
  | nil => rfl
  | cons u s ih => simp only [splitStretch]; (repeat' split) <;> simp [ih]

/-! ## Reading -/

mutual

/-- The branches of a group up to its closing parenthesis, whether no text stands
before it, and what comes after the group. -/
def readBranches : Nat → Level → List Nat → Option (Branches × Bool × List Nat)
  | 0, _, _ => none
  | n + 1, l, s =>
    match readSequence n l s with
    | some (a, bare, u :: rest) =>
      if u = sign '|' then
        (readBranches n l rest).map fun (bs, bare, rest) => (.more true 0 a bs, bare, rest)
      else some (.more true 0 a .none, bare, rest)
    | _ => none

/-- Pieces up to the end of the branch, whether no text stands there, and what
comes after them.  In a group something has to come. -/
def readSequence : Nat → Level → List Nat → Option (Sequence × Bool × List Nat)
  | 0, _, _ => none
  | n + 1, l, s =>
    let (taken, rest) := splitStretch l false .outside s
    match l.groupAt? rest with
    | some k =>
      match readBranches n (l.inside k) (rest.drop 2) with
      | some (bs, bare, rest) =>
        (readSequence n l rest).map fun (r, atEnd, rest) =>
          (.prepend taken (.group k bare bs r), atEnd, rest)
      | none =>
        if l.kind?.isSome then none else some (.prepend taken (.unclosed rest .done), false, [])
    | none =>
      if l.kind?.isSome ∧ rest = [] then none
      else some (.prepend taken .done, taken.isEmpty, rest)

end

/-- The pattern that a text spells. -/
def Sequence.ofUnits (s : List Nat) : Sequence :=
  match readSequence (2 * s.length + 2) .top s with
  | some (r, _, _) => r
  | none => .text s .done

end Docdown.Glob
