import Docdown.Path
import Docdown.Text.Utf8

/-!
# Docdown.FileTree

A file system as a value: which files and directories there are, what the files
hold, and where relative paths start.  A place in it is the list of segments
that lead there from the root.

A path is followed part by part, as it is written: every part but the last has
to lead to a directory, two dots lead to the directory above, and a name longer
than 255 bytes is refused wherever it stands.

Of what a disk has besides this is left out: links, so that a path has one way
to be followed and a place one path; who may read or write what; the length that
a whole path may have; and what a disk says of a name with the character U+0000.
-/

namespace Docdown

/-- What there is at a place. -/
inductive FileTree.Item where
  | file (content : ByteArray)
  | directory

instance : DecidableEq FileTree.Item
  | .directory, .directory => .isTrue rfl
  | .directory, .file _ => .isFalse nofun
  | .file _, .directory => .isFalse nofun
  | .file a, .file b =>
    match ByteArray.instDecidableEq a b with
    | .isTrue h => .isTrue (congrArg _ h)
    | .isFalse h => .isFalse fun e => h (FileTree.Item.file.inj e)

/-- Files and directories by their places, the latest first, and the working
directory. -/
structure FileTree where
  items : List (List String × FileTree.Item)
  cwd : List String
  /-- Of two searches that lead to a file, one from the root and one from some
  directory, whether the one from the root is the first to come upon it.  Their
  order and the pace of the disk decide that, and nothing is known of it. -/
  rootFirst : List String → Bool := fun _ => false

namespace FileTree

/-! ## Errors -/

/-- Why something cannot be done with a path. -/
inductive Obstacle where
  | missing | notDirectory | exists | isDirectory | nameTooLong
deriving DecidableEq, Repr

def Obstacle.message : Obstacle → String
  | .missing => "ENOENT: no such file or directory"
  | .notDirectory => "ENOTDIR: not a directory"
  | .exists => "EEXIST: file already exists"
  | .isDirectory => "EISDIR: illegal operation on a directory"
  | .nameTooLong => "ENAMETOOLONG: name too long"

/-- What was to be done with a path. -/
inductive Action where
  | stat | mkdir | openFile | read
deriving DecidableEq, Repr

def Action.label : Action → String
  | .stat => "stat"
  | .mkdir => "mkdir"
  | .openFile => "open"
  | .read => "read"

/-- An action that failed. -/
structure Error where
  obstacle : Obstacle
  action : Action
  path : String
deriving DecidableEq, Repr

def Error.message (e : Error) : String :=
  match e.action with
  | .read => e.obstacle.message ++ ", read"
  | a => e.obstacle.message ++ ", " ++ a.label ++ " '" ++ e.path ++ "'"

/-! ## Places -/

/-- What there is at a place.  The root is a directory. -/
def get? (t : FileTree) (place : List String) : Option Item :=
  if place = [] then some .directory else t.items.lookup place

/-- The tree with something put at a place. -/
def put (t : FileTree) (place : List String) (i : Item) : FileTree :=
  { t with items := (place, i) :: t.items }

@[simp] theorem cwd_put (t : FileTree) (place : List String) (i : Item) :
    (t.put place i).cwd = t.cwd := rfl

theorem get?_put_self (t : FileTree) {place : List String} (h : place ≠ []) (i : Item) :
    (t.put place i).get? place = some i := by
  simp [get?, put, h]

theorem get?_put_of_ne (t : FileTree) {place other : List String} (h : other ≠ place) (i : Item) :
    (t.put place i).get? other = t.get? other := by
  have : (other == place) = false := by simpa using h
  simp [get?, put, List.lookup_cons, this]

/-- Every place that something was put at, each once. -/
def places (t : FileTree) : List (List String) := (t.items.map Prod.fst).eraseDups

/-- The directories that lead to a place. -/
def ancestors (place : List String) : List (List String) :=
  (List.range place.length).map fun n => place.take n

/-- The tree with something put at a place and the directories that lead there. -/
def plant (t : FileTree) (place : List String) (i : Item) : FileTree :=
  ((ancestors place).foldl (fun t a => t.put a .directory) t).put place i

/-- The tree that holds a working directory and nothing else. -/
def empty (cwd : List String) : FileTree := plant { items := [], cwd } cwd .directory

/-! ## Following a path -/

/-- Where a path starts. -/
def start (t : FileTree) (path : String) : List String :=
  if Path.isAbsolute path then [] else t.cwd

/-- Whether a name is longer than a file system takes. -/
def isTooLong (name : String) : Bool := 255 < name.utf8ByteSize

/-- The place a path leads to from a place, if there is something. -/
def follow (t : FileTree) (place : List String) : List String → Except Obstacle (List String)
  | [] => .ok place
  | part :: rest =>
    match t.get? place with
    | none => .error .missing
    | some (.file _) => .error .notDirectory
    | some .directory =>
      if part = "" ∨ part = "." then t.follow place rest
      else if part = ".." then t.follow place.dropLast rest
      else if isTooLong part then .error .nameTooLong
      else if (t.get? (place ++ [part])).isSome then t.follow (place ++ [part]) rest
      else .error .missing

/-- The place of an existing file or directory. -/
def locate (t : FileTree) (path : String) : Except Obstacle (List String) :=
  if path = "" then .error .missing else t.follow (t.start path) (Path.parts path)

/-- What a path leads to. -/
def stat (t : FileTree) (path : String) : Except Error Item :=
  match t.locate path with
  | .error o => .error ⟨o, .stat, path⟩
  | .ok place => match t.get? place with
    | some i => .ok i
    | none => .error ⟨.missing, .stat, path⟩

/-- What a file holds. -/
def readFile (t : FileTree) (path : String) : Except Error ByteArray :=
  match t.locate path with
  | .error o => .error ⟨o, .openFile, path⟩
  | .ok place => match t.get? place with
    | some (.file content) => .ok content
    | some .directory => .error ⟨.isDirectory, .read, path⟩
    | none => .error ⟨.missing, .openFile, path⟩

/-! ## Making directories and files -/

/-- Follows a path while making the directories that are missing.  The tree is
the one reached when something is in the way, too. -/
def makeAlong (t : FileTree) (place : List String) : List String → FileTree × Option Obstacle
  | [] => match t.get? place with
    | some (.file _) => (t, some .exists)
    | _ => (t, none)
  | part :: rest =>
    match t.get? place with
    | some (.file _) => (t, some .notDirectory)
    | _ =>
      if part = "" ∨ part = "." then t.makeAlong place rest
      else if part = ".." then t.makeAlong place.dropLast rest
      else if isTooLong part then (t, some .nameTooLong)
      else if (t.get? (place ++ [part])).isSome then t.makeAlong (place ++ [part]) rest
      else (t.put (place ++ [part]) .directory).makeAlong (place ++ [part]) rest

/-- The tree with a directory and those above it. -/
def makeDirectory (t : FileTree) (path : String) : FileTree × Option Error :=
  if path = "" then (t, some ⟨.missing, .mkdir, path⟩)
  else
    let (t, obstacle?) := t.makeAlong (t.start path) (Path.parts path)
    (t, obstacle?.map fun o => ⟨o, .mkdir, path⟩)

/-- The place of a file to be written, whose directory has to exist. -/
def locateNew (t : FileTree) (path : String) : Except Obstacle (List String) :=
  let ps := Path.parts path
  let name := ps.getLast?.getD ""
  match t.follow (t.start path) ps.dropLast with
  | .error o => .error o
  | .ok place => match t.get? place with
    | some .directory =>
      if isTooLong name then .error .nameTooLong
      else if t.get? (place ++ [name]) = some .directory then .error .isDirectory
      else .ok (place ++ [name])
    | _ => .error .notDirectory

/-- The tree with a file that holds the given bytes. -/
def writeFile (t : FileTree) (path : String) (content : ByteArray) : Except Error FileTree :=
  match t.locateNew path with
  | .error o => .error ⟨o, .openFile, path⟩
  | .ok place => .ok (t.put place (.file content))

end FileTree

end Docdown
