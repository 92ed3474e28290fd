import Docdown.Text.Category

/-!
# Docdown.Regex.Basic

Regular expressions and the texts they match.  The letters of a text are
numbers: 16-bit units or code points.

An expression takes a beginning of what remains of a text and leaves a rest.
What matters is which rests it can leave, in one way or another: a text matches
if there is any for one of its endings.
-/

namespace Docdown

namespace Regex

/-- The letters that may stand at a place: those of some ranges and categories,
or all others. -/
structure Letters where
  negated : Bool
  ranges : List (Nat × Nat)
  categories : List Text.Category
deriving DecidableEq, Repr

namespace Letters

def has (s : Letters) (u : Nat) : Bool :=
  (s.ranges.any (fun (a, b) => a ≤ u && u ≤ b) || s.categories.any fun c => c.has u) != s.negated

/-- One letter only. -/
def only (u : Nat) : Letters := ⟨false, [(u, u)], []⟩

@[simp] theorem has_only (u v : Nat) : (only u).has v = (u == v) := by
  simp only [has, only, List.any_cons, List.any_nil, Bool.or_false, Bool.bne_false]
  rw [Bool.eq_iff_iff]
  simp only [Bool.and_eq_true, decide_eq_true_eq, beq_iff_eq]
  omega

/-- All letters but those that end a line. -/
def inLine : Letters := ⟨true, [(0x0A, 0x0A), (0x0D, 0x0D), (0x2028, 0x2029)], []⟩

end Letters

/-- How often something may stand. -/
inductive Times where
  | optional | many | some
deriving DecidableEq, Repr

end Regex

/-- A regular expression. -/
inductive Regex where
  | empty
  | letter (s : Regex.Letters)
  | seq (first second : Regex)
  | or (first second : Regex)
  | times (t : Regex.Times) (r : Regex)
  /-- The start of the text. -/
  | start
  /-- The end of the text. -/
  | finish
  /-- A place where an expression does not match. -/
  | unless (r : Regex)
deriving DecidableEq, Repr

namespace Regex

/-! ## Matching -/

/-- Those of the endings of a text that are reached: the first ones given, and
what a step leaves of one that is reached. -/
def reached (step : List Nat → List (List Nat)) : (first : List (List Nat)) → List Nat →
    List (List Nat)
  | first, [] => if [] ∈ first then [[]] else []
  | first, u :: s =>
    if u :: s ∈ first then (u :: s) :: reached step (step (u :: s) ++ first) s
    else reached step first s

/-- What an expression can leave of what remains of a text.  `length` is the
length of the whole text. -/
def rests (length : Nat) : Regex → List Nat → List (List Nat)
  | .empty, s => [s]
  | .letter _, [] => []
  | .letter us, u :: s => if us.has u then [s] else []
  | .seq a b, s => ((a.rests length s).flatMap (b.rests length)).eraseDups
  | .or a b, s => (a.rests length s ++ b.rests length s).eraseDups
  | .times .optional a, s => (s :: a.rests length s).eraseDups
  | .times .many a, s => reached (a.rests length) [s] s
  | .times .some a, s => reached (a.rests length) (a.rests length s) s
  | .start, s => if s.length = length then [s] else []
  | .finish, s => if s = [] then [s] else []
  | .unless a, s => if a.rests length s = [] then [s] else []

/-- Whether an expression matches at the start of one of the endings of a text. -/
def matchesFrom (length : Nat) (r : Regex) : List Nat → Bool
  | [] => !(r.rests length []).isEmpty
  | u :: s => !(r.rests length (u :: s)).isEmpty || matchesFrom length r s

/-- Whether an expression matches anywhere in a text. -/
def isMatch (r : Regex) (s : List Nat) : Bool := r.matchesFrom s.length s

/-! ## What can be left -/

variable {length : Nat} {s t : List Nat}

@[simp] theorem mem_rests_empty : t ∈ empty.rests length s ↔ t = s := by simp [rests]

@[simp] theorem mem_rests_seq {a b : Regex} :
    t ∈ (seq a b).rests length s ↔ ∃ m ∈ a.rests length s, t ∈ b.rests length m := by
  simp [rests]

@[simp] theorem mem_rests_or {a b : Regex} :
    t ∈ (or a b).rests length s ↔ t ∈ a.rests length s ∨ t ∈ b.rests length s := by
  simp [rests]

@[simp] theorem mem_rests_optional {a : Regex} :
    t ∈ (times .optional a).rests length s ↔ t = s ∨ t ∈ a.rests length s := by
  simp [rests]

/-- A letter takes itself. -/
theorem mem_rests_letter_only {u v : Nat} :
    t ∈ (letter (.only u)).rests length (v :: s) ↔ u = v ∧ t = s := by
  by_cases h : u = v <;> simp [rests, h]

/-- An expression matches if it can leave a rest of some ending. -/
theorem matchesFrom_iff {r : Regex} :
    r.matchesFrom length s ↔ ∃ e, e <:+ s ∧ r.rests length e ≠ [] := by
  induction s with
  | nil => simp [matchesFrom]
  | cons u s ih => simp [matchesFrom, ih, List.suffix_cons_iff, or_and_right, exists_or]

/-- What was given first is reached if it is an ending. -/
theorem mem_reached_of_mem {step : List Nat → List (List Nat)} {first : List (List Nat)}
    (h : t ∈ first) (hs : t <:+ s) : t ∈ reached step first s := by
  induction s generalizing first with
  | nil =>
    obtain rfl : t = [] := List.suffix_nil.1 hs
    simp [reached, h]
  | cons u s ih =>
    rw [reached]
    rcases List.suffix_cons_iff.1 hs with rfl | hs
    · simp [h]
    · split
      · exact List.mem_cons_of_mem _ (ih (List.mem_append_right _ h) hs)
      · exact ih h hs

/-- A repetition can take nothing. -/
theorem self_mem_rests_many {a : Regex} : s ∈ (times .many a).rests length s := by
  rw [rests]
  exact mem_reached_of_mem (List.mem_singleton.2 rfl) (List.suffix_refl s)

end Regex

end Docdown
