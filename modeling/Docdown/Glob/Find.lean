import Docdown.FileTree
import Docdown.Glob.NameTest
import Docdown.Glob.Parts

/-!
# Docdown.Glob.Find

The files that a pattern selects, seen from a directory.

A pattern is followed part by part: from the root if it starts with a slash, and
from the directory if it does not.  Two dots lead to the directory above; `**`
stands for any number of directories and, at the end, for every file below them,
but never for a name that starts with a dot.  Only files are selected, so a
pattern that ends with a slash selects nothing.

A part that is a name leads on by its text alone, so that two dots after it lead
back even where there is nothing by that name.  After `**` it has to be there.

A file that is found from the root is named by its path from there, any other by
its path from the directory.

Three things are left out: names that are the same only in a normal form of
Unicode, a directory given as a `file:` URL, and that a pattern which ends in a
slash or in dots, though it selects no file, can have one that another pattern
finds from the root named from the directory.
-/

namespace Docdown.Glob

/-! ## Patterns -/

/-- One step of a pattern. -/
inductive Step where
  /-- To the directory itself or any directory below it. -/
  | anywhere
  /-- To the directory above. -/
  | up
  /-- To where one is. -/
  | here
  /-- To no file, like the nothing after a last slash. -/
  | nowhere
  /-- To what has a name that passes a test. -/
  | names (t : NameTest)
deriving DecidableEq, Repr

namespace Step

/-- The step that a test of names means: dots lead up or nowhere else, and the empty
name leads to no file. -/
def ofTest : NameTest → Step
  | .exactly name =>
    if name = ".." then .up else if name = "." then .here
    else if name = "" then .nowhere else .names (.exactly name)
  | t => .names t

/-- The step that a part of a pattern means. -/
def ofPart (part : String) : Except Regex.Rejection Step :=
  if part = "**" then .ok .anywhere else (NameTest.ofPart part).map ofTest

end Step

/-- The steps of a pattern, and whether they start at the root. -/
structure Route where
  isAbsolute : Bool
  steps : List Step
deriving DecidableEq, Repr

/-- The route that parts of a pattern mean.  An empty one before others stands for
the root. -/
def Route.ofParts (ps : Parts) : Except Regex.Rejection Route :=
  let isAbsolute := ps.head? == some "" && 1 < ps.length
  ((if isAbsolute then ps.tail else ps).mapM Step.ofPart).map (⟨isAbsolute, ·⟩)

/-- The routes of the patterns that a pattern stands for.  It is rejected if one
of their parts is, wherever that part would have led. -/
def routes (pattern : String) : Except Regex.Rejection (List Route) :=
  (Parts.ofPattern pattern).mapM Route.ofParts

/-! ## Following steps -/

/-- Whether a name starts with a dot. -/
def isHidden (name : String) : Bool := name.toList.head? == some '.'

/-- What stands directly in a directory, by name. -/
def listing (t : FileTree) (place : List String) : List String :=
  t.places.filterMap fun p => match p.getLast? with
    | some name => if p.dropLast = place then some name else none
    | none => none

/-- The segments by which a place lies below another. -/
def below? (place p : List String) : Option (List String) :=
  if place.isPrefixOf p then some (p.drop place.length) else none

/-- A directory and those below it that are reached by no hidden name. -/
def reachable (t : FileTree) (place : List String) : List (List String) :=
  place :: t.places.filter fun p =>
    t.get? p == some .directory &&
      match below? place p with
      | some (s :: ss) => (s :: ss).all fun n => !isHidden n
      | _ => false

/-- Whether there is a file at a place. -/
def isFile (t : FileTree) (place : List String) : Bool :=
  match t.get? place with
  | some (.file _) => true
  | _ => false

/-- The files that stand in a directory by names that pass a test. -/
def filesIn (t : FileTree) (place : List String) (p : String → Bool) : List (List String) :=
  (((listing t place).filter p).map (place ++ [·])).filter (isFile t)

/-- Whether steps lead on when they are tried on what stands in a directory. -/
def startsIn (t : FileTree) (place : List String) : List Step → Bool
  | .here :: _ | .nowhere :: _ | .up :: _ => false
  | .names (.exactly name) :: _ :: _ => t.get? (place ++ [name]) == some .directory
  | _ => !(listing t place).isEmpty

/-- Whether steps after `**` lead on from a directory.  Two dots do if something
stands in it or if what comes after them leads on above. -/
def leadsOn (t : FileTree) (place : List String) : List Step → Bool
  | .up :: rest => !(listing t place).isEmpty || startsIn t place.dropLast rest
  | steps => startsIn t place steps

/-- The files to which steps lead from a place. -/
def followSteps (t : FileTree) : List Step → (place : List String) → List (List String)
  | [], _ => []
  | .nowhere :: _, _ => []
  | .here :: rest, place => followSteps t rest place
  | .up :: rest, place => followSteps t rest place.dropLast
  | [.names s], place => filesIn t place s.passes
  | .names (.exactly name) :: rest, place => followSteps t rest (place ++ [name])
  | .names s :: rest, place =>
    ((listing t place).filter s.passes).flatMap fun n =>
      if t.get? (place ++ [n]) = some .directory then followSteps t rest (place ++ [n]) else []
  | [.anywhere], place =>
    if isFile t place then [place]
    else (reachable t place).flatMap fun d => filesIn t d fun n => !isHidden n
  | .anywhere :: rest, place =>
    (reachable t place).flatMap fun d =>
      if leadsOn t d rest then followSteps t rest d else []

/-! ## Following routes -/

/-- The place of a directory, wherever its path leads. -/
def origin (t : FileTree) (directory : String) : List String :=
  Path.reduce true (t.start directory ++ Path.parts directory)

/-- Whether there is nothing at a place.  A name that is too long to ask for it does
not count as missing. -/
def isMissing (t : FileTree) (place : List String) : Bool :=
  match t.follow [] place with
  | .ok _ | .error .nameTooLong => false
  | .error _ => true

/-- The files to which a route leads.  From a directory that is missing it leads to
none. -/
def Route.files (t : FileTree) (directory : String) (r : Route) : List (List String) :=
  if r.isAbsolute then followSteps t r.steps []
  else if isMissing t (origin t directory) then []
  else followSteps t r.steps (origin t directory)

/-- The files to which some of the routes lead, each once. -/
def selected (t : FileTree) (directory : String) (rs : List Route) : List (List String) :=
  (rs.flatMap (Route.files t directory)).eraseDups

/-! ## Naming files -/

/-- The path that leads from one place to another. -/
def relative : List String → List String → List String
  | a :: as, b :: bs =>
    if a = b then relative as bs else ((a :: as).map fun _ => "..") ++ b :: bs
  | as, bs => (as.map fun _ => "..") ++ bs

/-- The path of a place from the root. -/
def absoluteName (p : List String) : String := "/" ++ "/".intercalate p

/-- The path of a file from a place.  If nothing but the root is above both it is the
path from the root. -/
def nameFrom (place p : List String) : String :=
  if p = place then "."
  else if p.head? = place.head? then "/".intercalate (relative place p)
  else absoluteName p

/-- Whether a route that starts at the root, or one that does not, leads to a file. -/
def isLedTo (t : FileTree) (directory : String) (rs : List Route) (isAbsolute : Bool)
    (p : List String) : Bool :=
  rs.any fun r => r.isAbsolute == isAbsolute && (r.files t directory).contains p

/-- The name by which a file is found, after the way on which it is come upon first. -/
def nameOf (t : FileTree) (directory : String) (rs : List Route) (p : List String) : String :=
  if isLedTo t directory rs true p && (t.rootFirst p || !isLedTo t directory rs false p) then
    absoluteName p
  else nameFrom (origin t directory) p

/-- The names of the files that a pattern selects, each file once and in the order
of names.  A pattern is rejected whether there is something to select or not. -/
def find (t : FileTree) (directory pattern : String) :
    Except Regex.Rejection (List String) :=
  (routes pattern).map fun rs =>
    ((selected t directory rs).map (nameOf t directory rs)).mergeSort Text.nameLE

end Docdown.Glob
