import Docdown.Text.Lowercase

/-!
# Docdown.Text.Slug

Anchor slugs: the words of a text's lowercase form, joined by single hyphens.
A word is a longest run of ASCII letters and digits.
-/

namespace Docdown.Text

/-- Whether a character can stand in a slug's word. -/
def isWordChar (c : Char) : Bool := c.isDigit || c.isLower

/-- The longest runs of word characters, in order. -/
def words (cs : List Char) : List (List Char) :=
  (cs.splitOnP (fun c => !isWordChar c)).filter (fun w => !w.isEmpty)

@[simp] theorem words_nil : words [] = [] := rfl

/-- No word is empty. -/
theorem ne_nil_of_mem_words {cs w : List Char} (h : w ∈ words cs) : w ≠ [] := by
  intro hw
  simp [words, hw] at h

/-- The words of a text's lowercase form, joined by hyphens. -/
def slug (s : String) : String :=
  String.ofList (['-'].intercalate (words (lower s.toList)))

@[simp] theorem slug_empty : slug "" = "" := rfl

end Docdown.Text
