import Docdown.Glob.Merge

/-!
# Docdown.Glob.Tail

What follows a negation, written out in its branches.

A negation forbids what its branches match only where the rest of the name
matches the rest of the pattern.  So each branch of a negation is continued by a
copy of everything that follows the negation up to the end of the pattern, in
its own branch and in those around it.
-/

namespace Docdown.Glob

mutual

/-- A copy of a sequence.  Of the branches of a copied group only the first opens
it. -/
def Sequence.copy : Sequence → Sequence
  | .done => .done
  | .text s r => .text s r.copy
  | .unclosed s r => .unclosed s r.copy
  | .group k _ bs r => .group k false (bs.copy true) r.copy

def Branches.copy (first : Bool) : Branches → Branches
  | .none => .none
  | .more _ _ s r => .more first 0 s.copy (r.copy false)

end

/-- A sequence a number of times, before another. -/
def Sequence.times (n : Nat) (s r : Sequence) : Sequence :=
  match n with
  | 0 => r
  | n + 1 => s.append (s.times n r)

mutual

/-- A sequence whose negations are continued.  `after` is what follows the
sequence. -/
def Sequence.continued : Sequence → (after : Sequence) → Sequence
  | .done, _ => .done
  | .text s r, after => .text s (r.continued after)
  | .unclosed s r, after => .unclosed s (r.continued after)
  | .group k bare bs r, after =>
    let rest := r.continued after
    .group k bare (bs.continued k (rest.append after).copy) rest

/-- The branches of a group with their negations continued, and they themselves
if the group is a negation. -/
def Branches.continued (k : GroupKind) (after : Sequence) : Branches → Branches
  | .none => .none
  | .more o w s r =>
    let n := w + if k = .negation then 1 else 0
    .more o 0 ((s.continued after).append (after.times n .done)) (r.continued k after)

end

/-! ## What copying and continuing keep -/

@[simp] theorem Sequence.copy_done : Sequence.done.copy = .done := by simp [Sequence.copy]

theorem Sequence.copy_append (a b : Sequence) : (a.append b).copy = a.copy.append b.copy := by
  refine Sequence.rec (motive_1 := fun a => (a.append b).copy = a.copy.append b.copy)
    (motive_2 := fun _ => True) ?_ ?_ ?_ ?_ ?_ ?_ a <;>
      simp_all [Sequence.copy, Sequence.append]

/-- A group keeps its number of branches. -/
theorem Branches.length_continued (k : GroupKind) (after : Sequence) (bs : Branches) :
    (bs.continued k after).length = bs.length := by
  refine Branches.rec (motive_1 := fun _ => True)
    (motive_2 := fun bs => (bs.continued k after).length = bs.length)
    ?_ ?_ ?_ ?_ ?_ ?_ bs <;> simp_all [Branches.continued, Branches.length]

end Docdown.Glob
