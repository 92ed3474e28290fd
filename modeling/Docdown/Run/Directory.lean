import Docdown.Convert
import Docdown.Failure
import Docdown.Glob.Find
import Docdown.Group
import Docdown.Log

/-!
# Docdown.Run.Directory

Converting the files of a directory.  Every file that a pattern selects is
converted in the order of names, and its page is written below the output
directory, into the directory of its group and under its own name.  A file that
is no document is skipped; any other failure ends the run and leaves what was
written before.  A pattern that is rejected ends it before anything is done.
-/

namespace Docdown

/-- Log entries of a run.  What goes with a message can only be settings. -/
abbrev RunLog := List (Log.Entry Config.Settings)

/-- How far a run over a directory has come.  Once it has failed nothing more
happens. -/
structure DirectoryRun where
  files : FileTree
  log : RunLog := []
  written : List String := []
  skipped : List String := []
  failure? : Option Failure := none

namespace DirectoryRun

def fail (r : DirectoryRun) (f : Failure) : DirectoryRun := { r with failure? := some f }

def note (r : DirectoryRun) (level : Log.Level) (message : String) : DirectoryRun :=
  { r with log := r.log ++ [⟨level, message, []⟩] }

/-- Makes a directory. -/
def makeDirectory (r : DirectoryRun) (path : String) : DirectoryRun :=
  let (files, error?) := r.files.makeDirectory path
  { r with files := files, failure? := error?.map .files }

/-- The directory of a document's group. -/
def groupDirectory (outDir : String) (root : Xml.Element) : String :=
  Path.join [outDir, Group.directory (Group.ofDocument root)]

/-- The path of a file's page in the directory of its group. -/
def pagePath (groupDirectory file : String) : String :=
  Path.join [groupDirectory, Path.stem (Path.base file) ++ ".md"]

/-- Leaves out a file that is no document. -/
def skip (r : DirectoryRun) (file : String) (p : Xml.Problem) : DirectoryRun :=
  let r := r.note .warn ("Skipping " ++ Path.base file ++ ": not valid Doxygen XML (" ++
    (Failure.ofProblem p).message ++ ")")
  { r with skipped := r.skipped ++ [file] }

/-- Writes a page. -/
def write (r : DirectoryRun) (path page : String) : DirectoryRun :=
  match r.files.writeFile path page.toUTF8 with
  | .error e => r.fail (.files e)
  | .ok files =>
    let r := { r with files := files }.note .info ("Wrote " ++ path)
    { r with written := r.written ++ [path] }

/-- Converts a document into its place below the output directory. -/
def convertDocument (r : DirectoryRun) (outDir file : String) (root : Xml.Element) :
    DirectoryRun :=
  let directory := groupDirectory outDir root
  let r := r.makeDirectory directory
  if r.failure?.isSome then r else r.write (pagePath directory file) (page root)

/-- Converts one of the files selected in a directory.  It is read below the
directory, even if its name is a path from the root. -/
def convertFile (directory outDir : String) (r : DirectoryRun) (file : String) : DirectoryRun :=
  if r.failure?.isSome then r
  else match r.files.readFile (Path.join [directory, file]) with
    | .error e => r.fail (.files e)
    | .ok bytes => match Xml.parse (Text.Utf8.text bytes) with
      | .error p => r.skip file p
      | .ok root => r.convertDocument outDir file root

end DirectoryRun

/-- Converts the files that a pattern selects in a directory. -/
def convertDirectory (directory : String) (s : Config.Settings) (files : FileTree) :
    DirectoryRun :=
  let r : DirectoryRun := { files := files }
  match Glob.find files directory s.pattern with
  | .error e => r.fail (.pattern e)
  | .ok found =>
    let r := r.note .debug ("Found " ++ toString found.length ++ " file(s) matching " ++
      s.pattern ++ " in " ++ directory)
    found.foldl (DirectoryRun.convertFile directory s.outDir) (r.makeDirectory s.outDir)

end Docdown
