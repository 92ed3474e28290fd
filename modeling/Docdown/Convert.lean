import Docdown.Doc.Reading
import Docdown.Markdown.Page
import Docdown.Xml.Parse

/-!
# Docdown.Convert

Converting a document's text into a page.
-/

namespace Docdown

/-- The page of the document with the given root element. -/
def page (root : Xml.Element) : String := Markdown.page (.ofElement root)

/-- The page of a text, or the first problem in it.  There is no page for a part
of a text. -/
def convert (text : String) : Except Xml.Problem String := (Xml.parse text).map page

end Docdown
