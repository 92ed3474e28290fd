import Docdown.Run.Command

/-!
# Docdown.Main

The command line.  Before a run the part of the disk that it can see is read
into a `FileTree`; after it, whatever the tree has gained is written back.  Of
the files only those that the run converts are read: of all others it is enough
to know that they are there.
-/

namespace Docdown

namespace Disk

/-- Where a place is on the disk. -/
def path (place : List String) := System.mkFilePath ["/" ++ "/".intercalate place]

/-! ## Looking -/

/-- The tree with what there is at a place, if there is something. -/
def look (t : FileTree) (place : List String) : IO FileTree := do
  try
    match (← (path place).metadata).type with
    | .dir => return t.put place .directory
    | _ => return t.put place (.file .empty)
  catch _ => return t

/-- The tree with what there is at every place that a path passes. -/
def lookAlong (t : FileTree) (p : String) : IO FileTree := do
  let parts := Path.parts p
  let places := (List.range (parts.length + 1)).map fun n =>
    Path.reduce true (t.start p ++ parts.take n)
  places.foldlM look t

/-- The tree with what there is below a place, down to a depth.  A link is seen,
but not what lies behind it. -/
def lookBelow (t : FileTree) (place : List String) : Nat → IO FileTree
  | 0 => return t
  | depth + 1 => do
    let entries ← try (path place).readDir catch _ => pure #[]
    entries.foldlM (fun t entry => do
      let below := place ++ [entry.fileName]
      let t ← look t below
      let isLink ← try pure ((← (path below).symlinkMetadata).type == .symlink)
        catch _ => pure true
      if isLink then return t else lookBelow t below depth) t

/-- No path leads through more directories than this. -/
def deepest : Nat := 4096

/-- How far below the output directory the pages are. -/
def pageDepth : Nat := 2

/-- Where steps lead from a place before the first that depends on what is there,
and the steps from that on. -/
def approach (place : List String) : List Glob.Step → List String × List Glob.Step
  | .here :: rest => approach place rest
  | .up :: rest => approach place.dropLast rest
  | .names (.exactly name) :: rest => approach (place ++ [name]) rest
  | rest => (place, rest)

/-- The tree with what there is wherever a route can lead. -/
def lookOn (t : FileTree) (directory : String) (r : Glob.Route) : IO FileTree := do
  let (place, rest) := approach (if r.isAbsolute then [] else Glob.origin t directory) r.steps
  let t ← lookAlong t (Glob.absoluteName place)
  let top := place.take (place.length - rest.count .up)
  let depth := place.length - top.length + rest.length
  lookBelow t top (if rest.contains .anywhere then deepest else depth)

/-- The tree with the bytes of the file that a path leads to. -/
def load (t : FileTree) (p : String) : IO FileTree := do
  match t.locate p with
  | .error _ => return t
  | .ok place => match t.get? place with
    | some (.file _) => return t.put place (.file (← IO.FS.readBinFile (path place)))
    | _ => return t

/-- The tree with all that a run sees of the disk. -/
def survey (t : FileTree) (s : Config.Settings) (input : String) : IO FileTree := do
  let t ← lookAlong t input
  match t.locate input with
  | .error _ => return t
  | .ok place =>
    if t.get? place != some .directory then load t input
    else
      let t ← lookAlong t s.outDir
      let t ← lookBelow t (Path.reduce true (t.start s.outDir ++ Path.parts s.outDir)) pageDepth
      let rs := (Glob.routes s.pattern).toOption.getD []
      let t ← rs.foldlM (fun t r => lookOn t input r) t
      let found := (Glob.find t input s.pattern).toOption.getD []
      found.foldlM (fun t file => do
        let p := Path.join [input, file]
        load (← lookAlong t p) p) t

/-! ## Writing -/

/-- Writes what one tree has and another has not. -/
def save (before after : FileTree) : IO Unit :=
  for place in after.places.reverse do
    if before.get? place != after.get? place then
      match after.get? place with
      | some .directory => IO.FS.createDirAll (path place)
      | some (.file content) => IO.FS.writeBinFile (path place) content
      | none => pure ()

end Disk

namespace Terminal

/-- The rest of a stream, after the bytes already read. -/
partial def readAll (stream : IO.FS.Stream) (bytes : ByteArray) : IO ByteArray := do
  let more ← stream.read 65536
  if more.isEmpty then return bytes else readAll stream (bytes ++ more)

/-- The variables that settings are completed from. -/
def environment : IO Config.Environment :=
  ["DOXYGEN_MD_OUTDIR", "DOXYGEN_MD_PATTERN", "DOXYGEN_MD_VERBOSE"].filterMapM fun name => do
    return (← IO.getEnv name).map fun value => (name, value)

/-- The settings that a run comes to, if it does. -/
def settings? (arguments : List String) (env : Config.Environment) : Option Config.Settings := do
  let a ← (Arguments.parse arguments).toOption
  if a.help || a.version then none else (Config.resolve a.toOptions env).toOption

/-- What a run finds around it. -/
def surroundings (arguments : List String) : IO Surroundings := do
  let env ← environment
  let files := FileTree.empty (Path.reduce true (Path.parts (← IO.currentDir).toString))
  match settings? arguments env with
  | none => return ⟨env, "", files⟩
  | some s => match s.input? with
    | none => return ⟨env, Text.Utf8.text (← readAll (← IO.getStdin) .empty), files⟩
    | some input => return ⟨env, "", ← Disk.survey files s input⟩

/-- Settings as they follow a message. -/
def settingsText (s : Config.Settings) : String :=
  let shown := (s.input?.map ("input: " ++ ·)).toList ++
    ["outDir: " ++ s.outDir, "pattern: " ++ s.pattern, "verbose: " ++ toString s.verbose]
  " \x7b " ++ ", ".intercalate shown ++ " \x7d"

/-- The line of a log entry. -/
def line (e : Log.Entry Config.Settings) : String :=
  e.line ++ String.join (e.values.map settingsText)

end Terminal

end Docdown

/-- Runs the command line. -/
def main (arguments : List String) : IO UInt32 := do
  let s ← Docdown.Terminal.surroundings arguments
  let o := Docdown.run arguments s
  Docdown.Disk.save s.files o.files
  for text in o.output do
    IO.print text
  for e in o.writtenLog do
    IO.eprintln (Docdown.Terminal.line e)
  return o.code.toUInt32
