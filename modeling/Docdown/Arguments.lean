import Docdown.Config

/-!
# Docdown.Arguments

Reading command-line arguments.  Arguments are first split into options, with or
without a value, and positional ones; then each option is checked in turn and
stored.  Of an option given twice the last value counts.
-/

namespace Docdown

/-- The options there are. -/
inductive Switch where
  | outDir | pattern | verbose | help | version
deriving DecidableEq, Repr

namespace Switch

def long : Switch → String
  | .outDir => "outdir"
  | .pattern => "pattern"
  | .verbose => "verbose"
  | .help => "help"
  | .version => "version"

def short? : Switch → Option Char
  | .outDir => some 'o'
  | .pattern => some 'p'
  | .verbose => some 'v'
  | .help => some 'h'
  | .version => none

/-- Whether an option has a value; the others are flags. -/
def takesValue : Switch → Bool
  | .outDir | .pattern => true
  | .verbose | .help | .version => false

def all : List Switch := [.outDir, .pattern, .verbose, .help, .version]

def ofLong? (name : String) : Option Switch := all.find? fun s => s.long == name

def ofShort? (c : Char) : Option Switch := all.find? fun s => s.short? == some c

/-- All names of an option. -/
def names (s : Switch) : String :=
  match s.short? with
  | some c => "-" ++ String.singleton c ++ ", --" ++ s.long
  | none => "--" ++ s.long

end Switch

namespace Arguments

/-! ## Splitting -/

/-- A part of the arguments: an option as it was written, with its value and
whether the value stood in the same argument, or a positional argument. -/
inductive Token where
  | option (raw : String) (switch? : Option Switch) (value? : Option String) (inline_ : Bool)
  | positional (value : String)
deriving DecidableEq, Repr

/-- What is left to do after an argument. -/
inductive Ending where
  | settled
  /-- An option takes the next argument as its value. -/
  | awaiting (raw : String) (s : Switch)
  /-- Only positional arguments follow, these first. -/
  | stopped (first : List String)
deriving DecidableEq, Repr

/-- A short option as it is written. -/
def rawShort (c : Char) : String := String.ofList ['-', c]

/-- The arguments that a group of short options stands for. -/
def ungroup : List Char → List String
  | [] => []
  | c :: cs =>
    if cs ≠ [] ∧ ((Switch.ofShort? c).map Switch.takesValue).getD false then
      [String.ofList ('-' :: c :: cs)]
    else rawShort c :: ungroup cs

/-- The options in an argument of short ones.  The first that takes a value
takes the rest of the argument, and the last the next argument.  A hyphen in the
middle is like an argument of two hyphens. -/
def readShort : List Char → List Token × Ending
  | [] => ([], .settled)
  | c :: cs =>
    if c = '-' then ([], .stopped (ungroup cs))
    else match Switch.ofShort? c with
      | some s =>
        if s.takesValue then
          if cs = [] then ([], .awaiting (rawShort c) s)
          else ([.option (rawShort c) s (String.ofList cs) true], .settled)
        else
          let (ts, e) := readShort cs
          (.option (rawShort c) s none false :: ts, e)
      | none =>
        let (ts, e) := readShort cs
        (.option (rawShort c) none none false :: ts, e)

/-- The option in an argument that starts with two hyphens, which are not in
`name`.  A value follows an equals sign other than one right after the hyphens;
the name ends at the first of all. -/
def readLong (name : List Char) : List Token × Ending :=
  if '=' ∈ name.tail then
    let long := String.ofList (name.takeWhile (· ≠ '='))
    let value := String.ofList (name.dropWhile (· ≠ '=')).tail
    ([.option ("--" ++ long) (Switch.ofLong? long) (some value) true], .settled)
  else
    let raw := "--" ++ String.ofList name
    match Switch.ofLong? (String.ofList name) with
    | some s =>
      if s.takesValue then ([], .awaiting raw s) else ([.option raw s none false], .settled)
    | none => ([.option raw none none false], .settled)

/-- What is in one argument. -/
def readOne (argument : String) : List Token × Ending :=
  match argument.toList with
  | ['-', '-'] => ([], .stopped [])
  | '-' :: '-' :: name => readLong name
  | '-' :: c :: cs => readShort (c :: cs)
  | _ => ([.positional argument], .settled)

/-- The parts of the arguments, in order. -/
def tokens : List String → List Token
  | [] => []
  | a :: rest =>
    let (ts, e) := readOne a
    match e with
    | .settled => ts ++ tokens rest
    | .stopped first => ts ++ (first ++ rest).map .positional
    | .awaiting raw s =>
      match rest with
      | [] => ts ++ [.option raw s none false]
      | v :: rest => ts ++ .option raw s (some v) false :: tokens rest

/-! ## Misuse -/

/-- What is wrong with an option. -/
inductive Misuse where
  | unknown (raw : String)
  | valueMissing (s : Switch)
  | valueUnexpected (s : Switch)
  /-- The value taken from the next argument looks like an option. -/
  | ambiguous (raw : String) (s : Switch)
deriving DecidableEq, Repr

/-- A hexadecimal digit. -/
def hexDigit (n : Nat) : Char := Char.ofNat (if n < 10 then 48 + n else 87 + n)

/-- A character as it stands between double quotes. -/
def quotedChar (c : Char) : List Char :=
  if c = '"' ∨ c = '\\' then ['\\', c]
  else if c = '\n' then ['\\', 'n']
  else if c = '\r' then ['\\', 'r']
  else if c = '\t' then ['\\', 't']
  else if c = '\x08' then ['\\', 'b']
  else if c = '\x0c' then ['\\', 'f']
  else if c.toNat < 0x20 then
    ['\\', 'u', '0', '0', hexDigit (c.toNat / 16), hexDigit (c.toNat % 16)]
  else [c]

/-- A text between double quotes. -/
def quoted (s : String) : String := "\"" ++ String.ofList (s.toList.flatMap quotedChar) ++ "\""

def Misuse.message : Misuse → String
  | .unknown raw =>
    "Unknown option '" ++ raw ++ "'. To specify a positional argument starting with a '-', " ++
      "place it at the end of the command after '--', as in '-- " ++ quoted raw
  | .valueMissing s => "Option '" ++ s.names ++ " <value>' argument missing"
  | .valueUnexpected s => "Option '" ++ s.names ++ "' does not take an argument"
  | .ambiguous raw s =>
    "Option '" ++ raw ++ "' argument is ambiguous.\nDid you forget to specify the option " ++
      "argument for '" ++ raw ++ "'?\nTo specify an option argument starting with a dash use '--" ++
      s.long ++ "=-XYZ'" ++ (if raw = "--" ++ s.long then "" else " or '" ++ raw ++ "-XYZ'") ++ "."

/-! ## Storing -/

end Arguments

/-- What the arguments say.  The input is the first positional argument. -/
structure Arguments where
  help : Bool := false
  version : Bool := false
  input? : Option String := none
  outDir? : Option String := none
  pattern? : Option String := none
  verbose? : Option Bool := none
deriving DecidableEq, Repr

namespace Arguments

/-- Whether a text looks like an option. -/
def looksLikeOption (value : String) : Bool :=
  match value.toList with
  | '-' :: _ :: _ => true
  | _ => false

/-- The arguments with an option's value stored. -/
def storeValue (a : Arguments) (s : Switch) (value : String) : Arguments :=
  match s with
  | .outDir => { a with outDir? := some value }
  | .pattern => { a with pattern? := some value }
  | _ => a

/-- The arguments with a flag stored. -/
def storeFlag (a : Arguments) (s : Switch) : Arguments :=
  match s with
  | .verbose => { a with verbose? := some true }
  | .help => { a with help := true }
  | .version => { a with version := true }
  | _ => a

/-- The arguments with one more part, if there is nothing wrong with it. -/
def store (a : Arguments) : Token → Except Misuse Arguments
  | .positional value => .ok { a with input? := a.input? <|> some value }
  | .option raw none _ _ => .error (.unknown raw)
  | .option raw (some s) value? inline_ =>
    match s.takesValue, value? with
    | true, none => .error (.valueMissing s)
    | false, some _ => .error (.valueUnexpected s)
    | false, none => .ok (a.storeFlag s)
    | true, some value =>
      if !inline_ && looksLikeOption value then .error (.ambiguous raw s)
      else .ok (a.storeValue s value)

/-- What the arguments say, or the first misuse in them. -/
def parse (arguments : List String) : Except Misuse Arguments :=
  (tokens arguments).foldlM store {}

/-- The arguments as options. -/
def toOptions (a : Arguments) : Config.Options where
  input? := a.input?.map .string
  outDir? := a.outDir?.map .string
  pattern? := a.pattern?.map .string
  verbose? := a.verbose?.map .bool

end Arguments

end Docdown
