/-!
# Docdown.Text.Blank

Blank characters and trimming.  A text is trimmed by dropping the blank
characters at both its ends; nothing inside it changes.
-/

namespace Docdown.Text

/-! ## Stripping both ends -/

/-- The list without the elements at either end for which `p` holds. -/
def strip (p : α → Bool) (xs : List α) : List α :=
  ((xs.dropWhile p).reverse.dropWhile p).reverse

@[simp] theorem strip_nil (p : α → Bool) : strip p [] = [] := rfl

/-- A stripped list starts with no element for which `p` holds, unless it is empty. -/
theorem head?_dropWhile_not (p : α → Bool) (xs : List α) (x : α)
    (h : (xs.dropWhile p).head? = some x) : p x = false := by
  induction xs with
  | nil => simp at h
  | cons y ys ih =>
    cases hy : p y with
    | true => exact ih (by simpa [List.dropWhile_cons, hy] using h)
    | false =>
      have : y = x := by simpa [List.dropWhile_cons, hy] using h
      exact this ▸ hy

/-- The last element of a stripped list is one for which `p` fails. -/
theorem getLast?_strip (p : α → Bool) (xs : List α) (x : α)
    (h : (strip p xs).getLast? = some x) : p x = false := by
  rw [strip, List.getLast?_reverse] at h
  exact head?_dropWhile_not p _ x h

/-! ## Blank characters -/

/-- The blank characters: the ASCII controls from tab to carriage return, every
space separator, the line and paragraph separators, and the byte-order mark. -/
def isBlank (c : Char) : Bool :=
  let n := c.toNat
  (0x09 ≤ n && n ≤ 0x0D) || n == 0x20 || n == 0xA0 || n == 0x1680 ||
    (0x2000 ≤ n && n ≤ 0x200A) || n == 0x2028 || n == 0x2029 || n == 0x202F ||
    n == 0x205F || n == 0x3000 || n == 0xFEFF

/-- Every character the core library calls whitespace is blank. -/
theorem isBlank_of_isWhitespace {c : Char} (h : c.isWhitespace = true) : isBlank c = true := by
  simp only [Char.isWhitespace, Bool.or_eq_true, decide_eq_true_eq] at h
  rcases h with ((h | h) | h) | h <;> subst h <;> decide

/-- The text without the blank characters at its ends. -/
def trim (s : String) : String := String.ofList (strip isBlank s.toList)

@[simp] theorem toList_trim (s : String) : (trim s).toList = strip isBlank s.toList := by
  simp [trim]

@[simp] theorem trim_empty : trim "" = "" := rfl

end Docdown.Text
