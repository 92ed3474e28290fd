import Docdown.Arguments
import Docdown.Run.Directory

/-!
# Docdown.Run.Command

A run of the command line, from its arguments and its surroundings to its exit
code, its output, its log and the files it leaves.

The standard input or one file is converted to the standard output, the files of
a directory into the output directory.  Nothing is printed for what cannot be
converted.
-/

namespace Docdown

def versionText : String := "doxygen-md version 0.1.0\n"

def helpText : String :=
  "
doxygen-md - Convert Doxygen XML to Markdown

Usage:
  doxygen-md                       Convert XML read from stdin
  doxygen-md <file.xml>            Convert one file and print the Markdown
  doxygen-md <dir> [options]       Convert every XML file in a directory
  doxygen-md --help                Show this help message
  doxygen-md --version             Show version

Options:
  --outdir, -o <dir>      Output directory for directory input (default: ./doxygen_md_output)
  --pattern, -p <glob>    Files to convert inside the directory (default: *.xml)
  --verbose, -v           Enable verbose logging

Environment:
  DOXYGEN_MD_OUTDIR, DOXYGEN_MD_PATTERN, DOXYGEN_MD_VERBOSE
"

/-- What a run finds around it. -/
structure Surroundings where
  env : Config.Environment
  stdin : String
  files : FileTree

/-- What a run leaves.  The log holds every entry; how many of them are written
is up to the logger. -/
structure Outcome where
  code : Nat
  output : List String
  log : RunLog
  files : FileTree
  verbose : Bool

namespace Outcome

/-- The entries that the run's own logger writes. -/
def writtenLog (o : Outcome) : RunLog := (Log.Logger.writing o.verbose).kept o.log

end Outcome

/-- How a failure is logged: by its message and, for one of the program's own,
by its hint. -/
def failureLog (f : Failure) : RunLog :=
  ⟨.error, f.message, []⟩ :: match f.isOwn, f.hint? with
    | true, some hint => if hint = "" then [] else [⟨.info, hint, []⟩]
    | _, _ => []

/-- Converts one text to the standard output. -/
def printPage (s : Surroundings) (settings : Config.Settings) (log : RunLog)
    (text : Except Failure String) : Outcome :=
  match text.bind fun t => (convert t).mapError Failure.ofProblem with
  | .ok page => ⟨0, [page], log, s.files, settings.verbose⟩
  | .error f => ⟨f.exitCode, [], log ++ failureLog f, s.files, settings.verbose⟩

/-- Converts the files of a directory. -/
def runDirectory (s : Surroundings) (settings : Config.Settings) (log : RunLog)
    (directory : String) : Outcome :=
  let r := convertDirectory directory settings s.files
  match r.failure? with
  | none =>
    let summary := "Converted " ++ toString r.written.length ++ " file(s), skipped " ++
      toString r.skipped.length
    ⟨0, [], log ++ r.log ++ [⟨.debug, summary, []⟩], r.files, settings.verbose⟩
  | some f => ⟨f.exitCode, [], log ++ r.log ++ failureLog f, r.files, settings.verbose⟩

/-- A run with settings. -/
def runSettings (s : Surroundings) (settings : Config.Settings) : Outcome :=
  let log : RunLog := [⟨.debug, "Configuration:", [settings]⟩]
  match settings.input? with
  | none => printPage s settings log (.ok s.stdin)
  | some input => match s.files.stat input with
    | .error e => printPage s settings log (.error (.files e))
    | .ok .directory => runDirectory s settings log input
    | .ok (.file _) =>
      printPage s settings log
        (((s.files.readFile input).map Text.Utf8.text).mapError .files)

/-- A run of the command line. -/
def run (arguments : List String) (s : Surroundings) : Outcome :=
  match Arguments.parse arguments with
  | .error m =>
    ⟨2, [helpText], [⟨.error, "Error parsing arguments: " ++ m.message, []⟩], s.files, false⟩
  | .ok a =>
    if a.help then ⟨0, [helpText], [], s.files, false⟩
    else if a.version then ⟨0, [versionText], [], s.files, false⟩
    else match Config.resolve a.toOptions s.env with
      | .error issues =>
        let f : Failure := .invalidOptions issues
        ⟨f.exitCode, [], failureLog f, s.files, false⟩
      | .ok settings => runSettings s settings

end Docdown
