/-!
# Docdown.Text.Units

Texts measured in 16-bit units.  A character below U+10000 is one unit; a
character from there on is a pair of surrogates.  Columns, length limits and
the order of names are counted in units, so two names compare as their unit
sequences do.
-/

namespace Docdown.Text

/-- Whether a character takes two units. -/
def isWide (c : Char) : Bool := 0x10000 ≤ c.toNat

/-- The units of a character. -/
def unitsOf (c : Char) : List Nat :=
  if isWide c then
    [0xD800 + (c.toNat - 0x10000) / 0x400, 0xDC00 + (c.toNat - 0x10000) % 0x400]
  else
    [c.toNat]

/-- The number of units of a character. -/
def width (c : Char) : Nat := if isWide c then 2 else 1

theorem length_unitsOf (c : Char) : (unitsOf c).length = width c := by
  unfold unitsOf width; split <;> rfl

theorem width_pos (c : Char) : 0 < width c := by
  unfold width; split <;> omega

/-- The units of a text, in order. -/
def units (cs : List Char) : List Nat := cs.flatMap unitsOf

@[simp] theorem units_append (cs ds : List Char) : units (cs ++ ds) = units cs ++ units ds := by
  simp [units]

/-- The number of units of a text. -/
def unitLength (cs : List Char) : Nat := cs.foldl (fun n c => n + width c) 0

theorem foldl_width (cs : List Char) (n : Nat) :
    cs.foldl (fun n c => n + width c) n = n + unitLength cs := by
  induction cs generalizing n with
  | nil => rfl
  | cons c cs ih =>
    have hcons : unitLength (c :: cs) = 0 + width c + unitLength cs := ih _
    rw [List.foldl_cons, ih, hcons]
    omega

theorem unitLength_cons (c : Char) (cs : List Char) :
    unitLength (c :: cs) = width c + unitLength cs := by
  rw [unitLength, List.foldl_cons, foldl_width, Nat.zero_add]

theorem unitLength_append (cs ds : List Char) :
    unitLength (cs ++ ds) = unitLength cs + unitLength ds := by
  rw [unitLength, List.foldl_append, foldl_width, foldl_width, Nat.zero_add]

/-- Unit sequences compare at the first unit in which they differ; a proper
beginning comes first. -/
def unitsLE : List Nat → List Nat → Bool
  | [], _ => true
  | _ :: _, [] => false
  | a :: as, b :: bs => a < b || (a == b && unitsLE as bs)

/-- The order of names: by units. -/
def nameLE (s t : String) : Bool := unitsLE (units s.toList) (units t.toList)

/-! ## Back from units -/

/-- Whether a unit is the first of a pair, and whether it is the second. -/
def isHigh (u : Nat) : Bool := 0xD800 ≤ u && u < 0xDC00
def isLow (u : Nat) : Bool := 0xDC00 ≤ u && u < 0xE000

/-- The code points that units stand for.  A surrogate without the other of its
pair stands for itself. -/
def codePoints : List Nat → List Nat
  | [] => []
  | [u] => [u]
  | u :: v :: us =>
    if isHigh u && isLow v then
      (0x10000 + (u - 0xD800) * 0x400 + (v - 0xDC00)) :: codePoints us
    else u :: codePoints (v :: us)

/-- The character of a code point; a surrogate has none and is replaced. -/
def charOf (n : Nat) : Char := if n.isValidChar then Char.ofNat n else '\uFFFD'

/-- The text that units stand for. -/
def ofUnits (us : List Nat) : String := String.ofList ((codePoints us).map charOf)

theorem codePoints_cons_of_not_isHigh {u : Nat} (h : isHigh u = false) (us : List Nat) :
    codePoints (u :: us) = u :: codePoints us := by
  cases us <;> simp [codePoints, h]

/-- No character is a surrogate. -/
theorem isHigh_toNat (c : Char) : isHigh c.toNat = false := by
  have : c.toNat < 0xD800 ∨ 0xDFFF < c.toNat ∧ c.toNat < 0x110000 := c.valid
  simp only [isHigh, Bool.and_eq_false_iff, decide_eq_false_iff_not]
  omega

theorem codePoints_unitsOf_append (c : Char) (us : List Nat) :
    codePoints (unitsOf c ++ us) = c.toNat :: codePoints us := by
  unfold unitsOf
  split
  · rename_i h
    have hc : c.toNat < 0xD800 ∨ 0xDFFF < c.toNat ∧ c.toNat < 0x110000 := c.valid
    have hw : 0x10000 ≤ c.toNat := by simpa [isWide] using h
    have hhigh : isHigh (0xD800 + (c.toNat - 0x10000) / 0x400) = true := by
      simp only [isHigh, Bool.and_eq_true, decide_eq_true_eq]; omega
    have hlow : isLow (0xDC00 + (c.toNat - 0x10000) % 0x400) = true := by
      simp only [isLow, Bool.and_eq_true, decide_eq_true_eq]; omega
    have hsum : 0x10000 + (0xD800 + (c.toNat - 0x10000) / 0x400 - 0xD800) * 0x400 +
        (0xDC00 + (c.toNat - 0x10000) % 0x400 - 0xDC00) = c.toNat := by omega
    simp only [List.cons_append, List.nil_append, codePoints, hhigh, hlow, hsum, Bool.and_self,
      if_true]
  · exact codePoints_cons_of_not_isHigh (isHigh_toNat c) us

/-- The code points of a text's units are those of its characters. -/
theorem codePoints_units (cs : List Char) : codePoints (units cs) = cs.map Char.toNat := by
  induction cs with
  | nil => rfl
  | cons c cs ih =>
    rw [units, List.flatMap_cons, codePoints_unitsOf_append]
    exact congrArg (c.toNat :: ·) ih

end Docdown.Text
