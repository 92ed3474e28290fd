import Docdown.Glob.Braces

/-!
# Docdown.Glob.Parts

A pattern as the parts between its slashes.

Before the parts are followed, needless ones are left out: empty parts and single
dots inside the pattern, a name before two dots, a second `**` after a first.
Where `**` stands before two dots and two names the pattern stands for two: in
one `**` leads nowhere, in the other it takes the place of the dots.  And of two
patterns that differ only in that one has a star where the other has a name, the
one with the stars stands for both.
-/

namespace Docdown.Glob

/-- The parts of one pattern. -/
abbrev Parts := List String

namespace Parts

/-- A list without its inner elements for which `p` fails. -/
def filterInner (p : α → Bool) (xs : List α) : List α :=
  match xs with
  | [] => []
  | x :: r => match r.getLast? with
    | none => [x]
    | some y => x :: r.dropLast.filter p ++ [y]

/-- The texts between the slashes of a pattern; several slashes are as one. -/
def split (pattern : List Char) : Parts :=
  filterInner (· ≠ "") ((pattern.splitOn '/').map String.ofList)

/-! ## Single patterns -/

/-- Whether a part stands for names: it is neither empty nor dots alone. -/
def isName (p : String) : Bool := p ∉ ["", ".", ".."]

theorem length_dropWhile_lt (p : String → Bool) (q : String) (r : Parts) :
    (r.dropWhile p).length < (q :: r).length :=
  Nat.lt_succ_of_le (List.dropWhile_sublist p).length_le

/-- A pattern with one `**` for several in a row, in which none before two dots
and two names leads anywhere, and the patterns in which one of them takes the
place of the dots.  `before` is what precedes, last part first. -/
def liftStars (before ps : Parts) : Parts × List Parts :=
  match ps with
  | [] => (before.reverse, [])
  | p :: r =>
    let after := if p = "**" then r.dropWhile (· == "**") else r
    match p, after with
    | "**", ".." :: q :: q' :: s =>
      if isName q && isName q' then
        let (ps, others) := liftStars before after
        (ps, (before.reverse ++ p :: q :: q' :: s) :: others)
      else liftStars (p :: before) after
    | _, _ => liftStars (p :: before) after
termination_by ps.length
decreasing_by all_goals
  show (if _ then _ else _ : Parts).length < _
  split
  · exact length_dropWhile_lt _ _ _
  · exact Nat.lt_succ_self _

/-- A pattern without empty parts and single dots inside. -/
def dropBlanks (ps : Parts) : Parts :=
  match filterInner (fun p => p ≠ "." && p ≠ "") ps with
  | [".", "."] | [".", ""] => ["."]
  | ps => ps

/-- The parts that are left when two dots take back a name before them.  What has
come to is a stack, last part first.  Before `**` a dot takes the place of a name
at the very start. -/
def takeBack (stack : Parts) : Parts → Parts
  | [] => stack.reverse
  | p :: r =>
    match stack with
    | top :: below =>
      if p = ".." && isName top && top ≠ "**" then
        takeBack (if below = [] ∧ r.head? = some "**" then ["."] else below) r
      else takeBack (p :: stack) r
    | [] => takeBack [p] r

/-- A pattern without needless parts, and those it stands for besides. -/
def reduced (ps : Parts) : Parts × List Parts :=
  let (ps, others) := liftStars [] ps
  let ps := takeBack [] (dropBlanks ps)
  (if ps = [] then [""] else ps, others)

/-! ## Several patterns -/

/-- Patterns reduced once, then those they stand for besides, and so on.  Each of
these is shorter than the one it comes from, and `n` is at least the length of
any. -/
def reduceOnce : (n : Nat) → List Parts → List Parts
  | 0, ps => ps
  | _, [] => []
  | n + 1, ps =>
    let rs := ps.map reduced
    rs.map Prod.fst ++ reduceOnce n (rs.flatMap Prod.snd)

/-- Patterns reduced as far as they can be.  Each round but the last makes some
pattern shorter. -/
def reduceAll (ps : List Parts) : List Parts :=
  let n := (ps.map List.length).foldl max 0 + 1
  Nat.repeat (reduceOnce n) n ps

/-- Which of two patterns has had a star where the other has a name. -/
inductive Wider where
  | neither | first | second
deriving DecidableEq

/-- Whether a star can stand in place of a part. -/
def starCovers (p : String) : Bool := p ≠ "" && p ≠ "**" && p.toList.head? ≠ some '.'

/-- The pattern that stands for two, as far as the shorter of them goes.  `**` may
lead nowhere. -/
def cover? (w : Wider) (as bs : Parts) : Option Parts :=
  match as, bs with
  | a :: as, b :: bs =>
    if a = b then (cover? w as bs).map (a :: ·)
    else if a = "**" ∧ as.head? = some b then (cover? w as (b :: bs)).map (a :: ·)
    else if b = "**" ∧ bs.head? = some a then (cover? w (a :: as) bs).map (b :: ·)
    else if a = "*" ∧ starCovers b then
      if w = .second then none else (cover? .first as bs).map (a :: ·)
    else if b = "*" ∧ starCovers a then
      if w = .first then none else (cover? .second as bs).map (b :: ·)
    else none
  | _, _ => some []
termination_by as.length + bs.length

/-- The patterns after a first one, if it can be left out because one of them
comes to stand for both. -/
def absorb? (p : Parts) : List Parts → Option (List Parts)
  | [] => none
  | q :: r =>
    match (if p.length = q.length then cover? .neither p q else none) with
    | some both => some (both :: r)
    | none => (absorb? p r).map (q :: ·)

theorem length_absorb? {p : Parts} {ps qs : List Parts} (h : absorb? p ps = some qs) :
    qs.length = ps.length := by
  induction ps generalizing qs with
  | nil => simp [absorb?] at h
  | cons q r ih =>
    rw [absorb?] at h
    split at h
    · cases h; rfl
    · obtain ⟨s, hs, rfl⟩ := Option.map_eq_some_iff.1 h
      simp [ih hs]

/-- Patterns without those for which a later one comes to stand. -/
def absorbAll : List Parts → List Parts
  | [] => []
  | p :: ps =>
    match _ : absorb? p ps with
    | some qs => absorbAll qs
    | none => p :: absorbAll ps
termination_by ps => ps.length
decreasing_by
  · simp [length_absorb? ‹_›]
  · simp

/-- The patterns that a pattern stands for, by their parts. -/
def ofPattern (pattern : String) : List Parts :=
  if pattern = "" then []
  else absorbAll (reduceAll ((Braces.expand pattern.toList).eraseDups.map split))

end Parts

end Docdown.Glob
