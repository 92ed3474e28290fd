import Docdown.Text.Blank
import Docdown.Xml.Tree

/-!
# Docdown.Group

The group of a document, which decides the directory its page is written to.
A namespace is a group, a scoped name belongs to the group of its first scope,
and everything else is in one global group.
-/

namespace Docdown.Group

/-- The group of what has no scope. -/
def globalGroup : String := "global"

/-- What a group is chosen by: the kind and the name of a compound. -/
structure Source where
  kind : String
  name : String
deriving DecidableEq, Repr

/-- What precedes the first scope separator `::` of a name that has one. -/
def firstScope? : List Char → Option (List Char)
  | [] => none
  | ':' :: ':' :: _ => some []
  | c :: cs => (firstScope? cs).map (c :: ·)

/-- The group of a compound, or of a document without one.  A scope may be the
empty text. -/
def ofSource (source? : Option Source) : String :=
  match source? with
  | none => globalGroup
  | some ⟨kind, name⟩ =>
    let name := Text.trim name
    if kind = "namespace" ∧ name ≠ "" then name
    else match firstScope? name.toList with
      | some scope => String.ofList scope
      | none => globalGroup

/-- What a group is chosen by for a document: its first compound at the top. -/
def source? (root : Xml.Element) : Option Source :=
  (root.child? "compounddef").map fun c =>
    ⟨(c.attribute? "kind").getD "", ((c.child? "compoundname").map Xml.Element.toText).getD ""⟩

/-- The group of a document. -/
def ofDocument (root : Xml.Element) : String := ofSource (source? root)

/-- Whether a character separates the segments of a path on some system. -/
def isSeparator (c : Char) : Bool := c == '/' || c == '\\'

/-- The name of a group's directory, which is a single segment that leads
nowhere else. -/
def directory (group : String) : String :=
  let name := String.ofList (group.toList.map fun c => if isSeparator c then '_' else c)
  if name = "." ∨ name = ".." then globalGroup else name

/-- No directory name holds a separator. -/
theorem not_isSeparator_of_mem_directory {group : String} {c : Char}
    (h : c ∈ (directory group).toList) : isSeparator c = false := by
  unfold directory at h
  dsimp only at h
  split at h
  · have all : globalGroup.toList.all (fun c => !isSeparator c) = true := by decide
    simpa using List.all_eq_true.1 all c h
  · rw [String.toList_ofList, List.mem_map] at h
    obtain ⟨d, _, rfl⟩ := h
    split
    · decide
    · simp_all

end Docdown.Group
