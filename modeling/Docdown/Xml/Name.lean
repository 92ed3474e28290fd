/-!
# Docdown.Xml.Name

The characters of names, and the blanks between the parts of a tag.  Names use
characters below U+10000 only.
-/

namespace Docdown.Xml

/-- The blanks of markup: space, tab, line feed and carriage return. -/
def isSpace (c : Char) : Bool := c == ' ' || c == '\t' || c == '\n' || c == '\r'

/-- Whether a name can start with a character. -/
def isNameStart (c : Char) : Bool :=
  let n := c.toNat
  c == ':' || c == '_' || c.isAlpha ||
    (0xC0 ≤ n && n ≤ 0xD6) || (0xD8 ≤ n && n ≤ 0xF6) || (0xF8 ≤ n && n ≤ 0x2FF) ||
    (0x370 ≤ n && n ≤ 0x37D) || (0x37F ≤ n && n ≤ 0x1FFF) || (0x200C ≤ n && n ≤ 0x200D) ||
    (0x2070 ≤ n && n ≤ 0x218F) || (0x2C00 ≤ n && n ≤ 0x2FEF) || (0x3001 ≤ n && n ≤ 0xD7FF) ||
    (0xF900 ≤ n && n ≤ 0xFDCF) || (0xFDF0 ≤ n && n ≤ 0xFFFD)

/-- Whether a name can go on with a character. -/
def isNameChar (c : Char) : Bool :=
  let n := c.toNat
  isNameStart c || c == '.' || c == '-' || c.isDigit || n == 0xB7 ||
    (0x300 ≤ n && n ≤ 0x36F) || (0x203F ≤ n && n ≤ 0x2040)

theorem isNameChar_of_isNameStart {c : Char} (h : isNameStart c = true) :
    isNameChar c = true := by
  simp [isNameChar, h]

/-- No blank is part of a name. -/
theorem isNameChar_of_isSpace {c : Char} (h : isSpace c = true) : isNameChar c = false := by
  simp only [isSpace, Bool.or_eq_true, beq_iff_eq] at h
  rcases h with ((h | h) | h) | h <;> subst h <;> decide

/-- Whether an entity's name can start with a character. -/
def isEntityStart (c : Char) : Bool := c == '#' || isNameStart c

/-- Whether an entity's name can go on with a character. -/
def isEntityChar (c : Char) : Bool := c == '#' || isNameChar c

end Docdown.Xml
