import Docdown.Doc.Model
import Docdown.Text.Blank

/-!
# Docdown.Markdown.Prose

The text of a description as it is shown: its paragraphs, trimmed and with a
blank line between them.  A description all of whose paragraphs are blank shows
its whole text instead, so that nothing written outside paragraphs is lost.
-/

namespace Docdown.Markdown

/-- Texts joined by a separator. -/
def joined (separator : String) (texts : List String) : String := separator.intercalate texts

/-- The paragraphs that are not blank, trimmed. -/
def paragraphs (d : Doc.Description) : List String :=
  (d.paragraphs.map Text.trim).filter (· ≠ "")

/-- The shown text of a description. -/
def prose (d : Doc.Description) : String :=
  if (paragraphs d).isEmpty then Text.trim d.text else joined "\n\n" (paragraphs d)

/-- The shown text of a description that may be missing. -/
def proseOf (d? : Option Doc.Description) : String := (d?.map prose).getD ""

@[simp] theorem proseOf_none : proseOf none = "" := rfl

@[simp] theorem proseOf_some (d : Doc.Description) : proseOf (some d) = prose d := rfl

end Docdown.Markdown
