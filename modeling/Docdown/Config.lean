/-!
# Docdown.Config

Settings of a run.  They come from options, then from the environment, then
from defaults.  Options may hold values of any type; what is wrong with them is
reported as a list of issues, one for each setting at fault.
-/

namespace Docdown.Config

/-! ## Values -/

/-- A value given for an option, as far as settings depend on it: what an array
or an object holds never matters.  A number is `mantissa / 10 ^ places`. -/
inductive Value where
  | null
  | bool (b : Bool)
  | number (mantissa : Int) (places : Nat)
  | string (s : String)
  | array
  | object
deriving DecidableEq, Repr

/-- The types of values. -/
inductive Kind where
  | null | boolean | number | string | array | object
deriving DecidableEq, Repr

def Kind.label : Kind → String
  | .null => "null"
  | .boolean => "boolean"
  | .number => "number"
  | .string => "string"
  | .array => "array"
  | .object => "object"

def Value.kind : Value → Kind
  | .null => .null
  | .bool _ => .boolean
  | .number _ _ => .number
  | .string _ => .string
  | .array => .array
  | .object => .object

/-- Whether a value counts as none.  So does a number nearer to zero than to any
other number that binary floating point of double precision can hold. -/
def Value.isVoid : Value → Bool
  | .null => true
  | .bool b => !b
  | .number m e => Nat.pow 2 1075 * m.natAbs ≤ Nat.pow 10 e
  | .string s => s = ""
  | .array | .object => false

/-! ## Options, environment, settings -/

/-- The options given, each of which may be missing. -/
structure Options where
  input? : Option Value := none
  outDir? : Option Value := none
  pattern? : Option Value := none
  verbose? : Option Value := none
deriving DecidableEq, Repr

/-- The variables of the environment. -/
abbrev Environment := List (String × String)

/-- A variable that is set to a text other than the empty one. -/
def setting? (env : Environment) (name : String) : Option String :=
  (env.lookup name).filter (· ≠ "")

/-- What a run is told to do.  Without an input the standard input is read. -/
structure Settings where
  input? : Option String := none
  outDir : String := "./doxygen_md_output"
  pattern : String := "*.xml"
  verbose : Bool := false
deriving DecidableEq, Repr

/-! ## Issues -/

/-- What can be wrong with a value. -/
inductive Mistake where
  | wrongType (expected received : Kind)
  | emptyText
deriving DecidableEq, Repr

/-- A mistake and the name of the setting it is in; the name is empty if the
options as a whole are at fault. -/
structure Issue where
  path : String
  mistake : Mistake
deriving DecidableEq, Repr

def Mistake.code : Mistake → String
  | .wrongType _ _ => "invalid_type"
  | .emptyText => "too_small"

def Mistake.message : Mistake → String
  | .wrongType expected received =>
    "Expected " ++ expected.label ++ ", received " ++ received.label
  | .emptyText => "String must contain at least 1 character(s)"

/-- An issue as a message shows it. -/
def Issue.message (i : Issue) : String :=
  (if i.path = "" then "config" else i.path) ++ ": " ++ i.mistake.message

/-- All issues in one message. -/
def message (issues : List Issue) : String :=
  "doxygen-md: invalid options (" ++ "; ".intercalate (issues.map Issue.message) ++ ")"

/-! ## Validation -/

/-- The non-empty text that a value has to be. -/
def text : Value → Except Mistake String
  | .string s => if s = "" then .error .emptyText else .ok s
  | v => .error (.wrongType .string v.kind)

/-- The flag that a value has to be. -/
def flag : Value → Except Mistake Bool
  | .bool b => .ok b
  | v => .error (.wrongType .boolean v.kind)

/-- What an option is worth; a missing one is worth a default. -/
def field (read : Value → Except Mistake α) (default : α) : Option Value → Except Mistake α
  | none => .ok default
  | some v => read v

/-- The issue of a field, if it has one. -/
def issueOf (path : String) : Except Mistake α → List Issue
  | .ok _ => []
  | .error m => [⟨path, m⟩]

/-- The settings that options amount to, with defaults for those missing, or
every issue with them in the order of the settings. -/
def validate (o : Options) : Except (List Issue) Settings :=
  let input := field (fun v => (text v).map some) none o.input?
  let outDir := field text ({} : Settings).outDir o.outDir?
  let pattern := field text ({} : Settings).pattern o.pattern?
  let verbose := field flag ({} : Settings).verbose o.verbose?
  match input, outDir, pattern, verbose with
  | .ok input?, .ok outDir, .ok pattern, .ok verbose => .ok ⟨input?, outDir, pattern, verbose⟩
  | _, _, _, _ =>
    .error (issueOf "input" input ++ issueOf "outDir" outDir ++ issueOf "pattern" pattern ++
      issueOf "verbose" verbose)

/-- The issue with a value that should hold options and is no object. -/
def notOptions (v : Value) : List Issue := [⟨"", .wrongType .object v.kind⟩]

/-! ## Resolution -/

/-- An option, unless it counts as none, and else a variable. -/
def orVariable (env : Environment) (name : String) (v? : Option Value) : Option Value :=
  match v?.filter (fun v => !v.isVoid) with
  | some v => some v
  | none => (setting? env name).map .string

/-- Whether a variable's text switches a flag on. -/
def isOn (s : String) : Bool := s == "true" || s == "1"

/-- The options completed from the environment. -/
def merge (o : Options) (env : Environment) : Options where
  input? := o.input?
  outDir? := orVariable env "DOXYGEN_MD_OUTDIR" o.outDir?
  pattern? := orVariable env "DOXYGEN_MD_PATTERN" o.pattern?
  verbose? := match o.verbose?.filter (· ≠ .null) with
    | some v => some v
    | none => (setting? env "DOXYGEN_MD_VERBOSE").map fun s => .bool (isOn s)

/-- The settings of a run. -/
def resolve (o : Options) (env : Environment) : Except (List Issue) Settings :=
  validate (merge o env)

end Docdown.Config
