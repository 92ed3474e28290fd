import Docdown.Regex.Basic
import Docdown.Text.Units

/-!
# Docdown.Regex.Reading

Reading regular expressions from their text.

`(?:…)` and `(…)` group, `(?!…)` forbids, `|` separates alternatives, `^` and `$`
are the ends of the text, `.` is any letter of a line, and `[…]` a class.  `?`,
`*` and `+` say how often the thing before them stands; a second `?` after them
changes nothing about what is matched.  A backslash takes the meaning from what
follows.

A text is read by its units or, when it is wide, by its code points.  A wide
text may name categories in its classes, and in it only signs that have a
meaning may be escaped.
-/

namespace Docdown.Regex

/-! ## Rejections -/

/-- What can be wrong with the text of an expression. -/
inductive Fault where
  | nothingToRepeat | invalidEscape | invalidProperty | unorderedRange | escapeAtEnd
  | openGroup | openClass | strayParenthesis
deriving DecidableEq, Repr

def Fault.message : Fault → String
  | .nothingToRepeat => "Nothing to repeat"
  | .invalidEscape => "Invalid escape"
  | .invalidProperty => "Invalid property name in character class"
  | .unorderedRange => "Range out of order in character class"
  | .escapeAtEnd => "\\ at end of pattern"
  | .openGroup => "Unterminated group"
  | .openClass => "Unterminated character class"
  | .strayParenthesis => "Unmatched ')'"

/-- A text that is no expression. -/
structure Rejection where
  text : String
  wide : Bool
  fault : Fault
deriving DecidableEq, Repr

def Rejection.message (r : Rejection) : String :=
  "Invalid regular expression: /" ++ r.text ++ "/" ++ (if r.wide then "u" else "") ++ ": " ++
    r.fault.message

/-! ## Letters -/

/-- The letter of an ASCII character. -/
def sign (c : Char) : Nat := c.toNat

/-- Whether a letter is one of some ASCII characters. -/
def isOneOf (u : Nat) (cs : String) : Bool := cs.toList.any fun c => sign c == u

/-- The letters of a text given by its units. -/
def lettersOf (wide : Bool) (units : List Nat) : List Nat :=
  if wide then Text.codePoints units else units

/-- The value of a hexadecimal digit. -/
def hexValue? (u : Nat) : Option Nat :=
  if sign '0' ≤ u ∧ u ≤ sign '9' then some (u - sign '0')
  else if sign 'a' ≤ u ∧ u ≤ sign 'f' then some (u - sign 'a' + 10)
  else if sign 'A' ≤ u ∧ u ≤ sign 'F' then some (u - sign 'A' + 10)
  else none

/-! ## Classes -/

/-- Something in a class. -/
inductive ClassItem where
  | letter (u : Nat)
  | category (c : Text.Category)

/-- The meaning of a letter after a backslash in a class. -/
def controlOf (u : Nat) : Nat :=
  if u = sign 't' then 0x09 else if u = sign 'n' then 0x0A else if u = sign 'v' then 0x0B
  else if u = sign 'f' then 0x0C else if u = sign 'r' then 0x0D else u

/-- The item that follows a backslash in a class, and what comes after it. -/
def escapedItem (wide : Bool) : List Nat → Except Fault (ClassItem × List Nat)
  | [] => .error .escapeAtEnd
  | u :: s =>
    if u = sign 'p' ∧ wide then
      let name := (s.drop 1).takeWhile (· ≠ sign '\x7d')
      match Text.Category.ofLabel? (Text.ofUnits name) with
      | some c => .ok (.category c, s.drop (name.length + 2))
      | none => .error .invalidProperty
    else if u = sign 'x' then
      match s with
      | a :: b :: rest => match hexValue? a, hexValue? b with
        | some m, some n => .ok (.letter (16 * m + n), rest)
        | _, _ => .ok (.letter u, s)
      | _ => .ok (.letter u, s)
    else .ok (.letter (controlOf u), s)

/-- The next item of a class, and what comes after it. -/
def nextItem (wide : Bool) : List Nat → Except Fault (ClassItem × List Nat)
  | [] => .error .openClass
  | u :: s => if u = sign '\\' then escapedItem wide s else .ok (.letter u, s)

/-- The letters of a class with one more item. -/
def Letters.add (l : Letters) : ClassItem → Letters
  | .letter u => { l with ranges := l.ranges ++ [(u, u)] }
  | .category c => { l with categories := l.categories ++ [c] }

/-- The letters of a class up to its closing bracket, after those read already,
and what comes after it.  `n` is more than the number of items left. -/
def classItems (wide : Bool) : Nat → Letters → List Nat → Except Fault (Letters × List Nat)
  | 0, _, _ => .error .openClass
  | n + 1, l, s =>
    if s.head? = some (sign ']') then .ok (l, s.tail)
    else match nextItem wide s with
      | .error f => .error f
      | .ok (.letter a, d :: e :: rest) =>
        if d = sign '-' ∧ e ≠ sign ']' then
          match nextItem wide (e :: rest) with
          | .error f => .error f
          | .ok (.letter b, rest) =>
            if b < a then .error .unorderedRange
            else classItems wide n { l with ranges := l.ranges ++ [(a, b)] } rest
          | .ok (i, rest) =>
            classItems wide n (((l.add (.letter a)).add (.letter d)).add i) rest
        else classItems wide n (l.add (.letter a)) (d :: e :: rest)
      | .ok (i, rest) => classItems wide n (l.add i) rest

/-- The letters of a class whose text follows the opening bracket. -/
def readClass (wide : Bool) (s : List Nat) : Except Fault (Letters × List Nat) :=
  if s.head? = some (sign '^') then classItems wide (s.length + 1) ⟨true, [], []⟩ s.tail
  else classItems wide (s.length + 1) ⟨false, [], []⟩ s

/-! ## Expressions -/

/-- How often something stands by the sign after it, and what comes after the
sign. -/
def quantified (r : Regex) : List Nat → Regex × List Nat
  | [] => (r, [])
  | u :: s =>
    let rest := if s.head? = some (sign '?') then s.tail else s
    if u = sign '?' then (.times .optional r, rest)
    else if u = sign '*' then (.times .many r, rest)
    else if u = sign '+' then (.times .some r, rest)
    else (r, u :: s)

/-- The signs that may be escaped in a wide text. -/
def escapable : String := "^$\\.*+?()[]\x7b\x7d|/"

mutual

/-- Alternatives up to a closing parenthesis or the end, and what comes after
them. -/
def readAlternatives (wide : Bool) : Nat → List Nat → Except Fault (Regex × List Nat)
  | 0, _ => .error .openGroup
  | n + 1, s =>
    match readSequence wide n s with
    | .error f => .error f
    | .ok (r, []) => .ok (r, [])
    | .ok (r, u :: rest) =>
      if u = sign '|' then
        (readAlternatives wide n rest).map fun (q, rest) => (.or r q, rest)
      else .ok (r, u :: rest)

/-- One thing after another up to a bar, a closing parenthesis or the end, and
what comes after them. -/
def readSequence (wide : Bool) : Nat → List Nat → Except Fault (Regex × List Nat)
  | 0, _ => .error .openGroup
  | _ + 1, [] => .ok (.empty, [])
  | n + 1, u :: s =>
    if u = sign '|' ∨ u = sign ')' then .ok (.empty, u :: s)
    else if u = sign '^' then
      (readSequence wide n s).map fun (q, rest) => (.seq .start q, rest)
    else if u = sign '$' then
      (readSequence wide n s).map fun (q, rest) => (.seq .finish q, rest)
    else match readAtom wide n u s with
      | .error f => .error f
      | .ok (r, rest) =>
        let (r, rest) := quantified r rest
        (readSequence wide n rest).map fun (q, rest) => (.seq r q, rest)

/-- The thing that starts with a letter, and what comes after it. -/
def readAtom (wide : Bool) : Nat → Nat → List Nat → Except Fault (Regex × List Nat)
  | 0, _, _ => .error .openGroup
  | n + 1, u, s =>
    if isOneOf u "?*+" then .error .nothingToRepeat
    else if u = sign '.' then .ok (.letter .inLine, s)
    else if u = sign '[' then (readClass wide s).map fun (l, rest) => (.letter l, rest)
    else if u = sign '\\' then
      match s with
      | [] => .error .escapeAtEnd
      | v :: rest =>
        if wide && !isOneOf v escapable then .error .invalidEscape
        else .ok (.letter (.only v), rest)
    else if u = sign '(' then
      let (wrap, body) : (Regex → Regex) × List Nat := match s with
        | q :: v :: body =>
          if q = sign '?' ∧ v = sign ':' then (id, body)
          else if q = sign '?' ∧ v = sign '!' then (.unless, body)
          else (id, s)
        | _ => (id, s)
      match readAlternatives wide n body with
      | .error f => .error f
      | .ok (_, []) => .error .openGroup
      | .ok (r, _ :: rest) => .ok (wrap r, rest)
    else .ok (.letter (.only u), s)

end

/-- The expression that letters spell. -/
def ofLetters (wide : Bool) (s : List Nat) : Except Fault Regex :=
  match readAlternatives wide (2 * s.length + 2) s with
  | .error f => .error f
  | .ok (r, []) => .ok r
  | .ok (_, _ :: _) => .error .strayParenthesis

/-- The expression with a text, given by its units. -/
def ofUnits (wide : Bool) (units : List Nat) : Except Rejection Regex :=
  (ofLetters wide (lettersOf wide units)).mapError fun f => ⟨Text.ofUnits units, wide, f⟩

end Docdown.Regex
