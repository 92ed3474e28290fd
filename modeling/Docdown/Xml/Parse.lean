import Docdown.Xml.Scanner

/-!
# Docdown.Xml.Parse

Parsing a text: reading it character by character while keeping count of the
place, and stopping at the first problem.
-/

namespace Docdown.Xml

/-- A scanner and the place it has come to. -/
structure Reader where
  place : Place := {}
  scanner : Scanner := {}
deriving DecidableEq, Repr

namespace Reader

/-- The reader after one character. -/
def read (r : Reader) (c : Char) : Except Problem Reader :=
  match r.scanner.read c with
  | .ok s => .ok ⟨r.place.pass c, s⟩
  | .error f => .error ⟨f, r.place.meet c, some c⟩

/-- The reader after a whole text, or the first problem in it. -/
def readAll (r : Reader) (text : List Char) : Except Problem Reader := text.foldlM read r

theorem readAll_append (r : Reader) (s t : List Char) :
    r.readAll (s ++ t) = (r.readAll s).bind fun r => r.readAll t := by
  simp [readAll, List.foldlM_append]; rfl

/-- The root element of a text of the given length in units. -/
def finish (r : Reader) (length : Nat) : Except Problem Element :=
  match r.scanner.finish length with
  | .ok e => .ok e
  | .error f => .error ⟨f, r.place, none⟩

end Reader

/-- The root element of a document, or the first problem in its text. -/
def parse (text : String) : Except Problem Element :=
  match ({} : Reader).readAll text.toList with
  | .ok r => r.finish (Text.unitLength text.toList)
  | .error p => .error p

end Docdown.Xml
