/-!
# Docdown.Doc.Model

The documentation of one source file: compounds (classes, structs, namespaces
and the like) with their enumerations, and members (functions and the like).

Texts are kept as they were written; only types are trimmed.
-/

namespace Docdown.Doc

/-- A piece of prose: the text of each of its paragraphs, and its whole text. -/
structure Description where
  paragraphs : List String
  text : String
deriving DecidableEq, Repr

/-- A part of a detailed description that is marked by its kind, such as the one
on the returned value. -/
structure Remark where
  kind : String
  body : Description
deriving DecidableEq, Repr

/-- A member's detailed description: prose, code listings and remarks. -/
structure Detail where
  prose : Description
  listings : List String
  remarks : List Remark
deriving DecidableEq, Repr

/-- A value of an enumeration. -/
structure EnumValue where
  name : String
  brief? : Option Description
deriving DecidableEq, Repr

structure Enumeration where
  name : String
  brief? : Option Description
  values : List EnumValue
deriving DecidableEq, Repr

/-- A class, struct, namespace, file, ….  Its enumerations are those at any
depth inside it. -/
structure Compound where
  kind : String
  name : String
  brief? : Option Description
  detail? : Option Description
  enums : List Enumeration
deriving DecidableEq, Repr

/-- A parameter of a member. -/
structure Parameter where
  name : String
  type : String
  brief? : Option Description
deriving DecidableEq, Repr

/-- A function or another member.  Its template parameters are known only if it
has a list of its own. -/
structure Member where
  name : String
  arguments : String
  returnType : String
  brief? : Option Description
  detail? : Option Detail
  parameters : List Parameter
  templateParameters? : Option (List String)
deriving DecidableEq, Repr

/-- Everything that is documented in one file, in document order. -/
structure Document where
  compounds : List Compound
  members : List Member
deriving DecidableEq, Repr

end Docdown.Doc
