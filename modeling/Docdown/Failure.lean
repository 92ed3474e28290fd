import Docdown.Config
import Docdown.FileTree
import Docdown.Regex.Reading
import Docdown.Xml.Problem

/-!
# Docdown.Failure

What can make a run fail, with the code, the message and the hint each failure
is reported by, and the exit code it leads to.
-/

namespace Docdown

/-- The codes of the failures that have a standard hint. -/
inductive FailureCode where
  | malformedInput | invalidConfig
deriving DecidableEq, Repr

def FailureCode.label : FailureCode → String
  | .malformedInput => "DOXYGEN_MD_MALFORMED_INPUT"
  | .invalidConfig => "DOXYGEN_MD_INVALID_CONFIG"

/-- What to do about a failure. -/
def FailureCode.hint : FailureCode → String
  | .malformedInput =>
    "Input is not well-formed XML - check that the file is Doxygen XML output"
  | .invalidConfig => "Invalid options - check values and try again"

/-- Why something failed. -/
inductive Failure where
  /-- The input is no document.  The diagnostic says why; the cause is the
  report it was made from. -/
  | malformed (diagnostic : String) (cause? : Option String)
  /-- The options are no settings. -/
  | invalidOptions (issues : List Config.Issue)
  /-- A failure under a code of its own. -/
  | coded (code message : String) (hint? : Option String)
  /-- Something could not be done with a path. -/
  | files (e : FileTree.Error)
  /-- A file pattern means no expression. -/
  | pattern (r : Regex.Rejection)
  /-- Any other failure. -/
  | foreign (message : String)
deriving DecidableEq, Repr

namespace Failure

/-- The failure of a text that has a problem. -/
def ofProblem (p : Xml.Problem) : Failure := .malformed p.diagnostic p.cause?

/-- A failure under a standard code, with the hint of that code. -/
def standard (code : FailureCode) (message : String) : Failure :=
  .coded code.label message (some code.hint)

def message : Failure → String
  | .malformed diagnostic _ => "Input is not valid XML Doxygen output: " ++ diagnostic
  | .invalidOptions issues => Config.message issues
  | .coded _ text _ => text
  | .files e => e.message
  | .pattern r => r.message
  | .foreign text => text

/-- The code of a failure.  One that comes from outside has none. -/
def code? : Failure → Option String
  | .malformed _ _ => some FailureCode.malformedInput.label
  | .invalidOptions _ => some FailureCode.invalidConfig.label
  | .coded code _ _ => some code
  | .files _ | .pattern _ | .foreign _ => none

def hint? : Failure → Option String
  | .malformed _ _ => some FailureCode.malformedInput.hint
  | .invalidOptions _ => some FailureCode.invalidConfig.hint
  | .coded _ _ advice? => advice?
  | .files _ | .pattern _ | .foreign _ => none

/-- Whether a failure is one of the program's own. -/
def isOwn (f : Failure) : Bool := f.code?.isSome

/-- The exit code of a run that fails: two if its options are at fault. -/
def exitCode (f : Failure) : Nat :=
  if f.code? = some FailureCode.invalidConfig.label then 2 else 1

theorem exitCode_pos (f : Failure) : 0 < f.exitCode := by
  unfold exitCode; split <;> omega

end Failure

end Docdown
