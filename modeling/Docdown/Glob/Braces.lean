/-!
# Docdown.Glob.Braces

Braces in patterns: `{a,b}` stands for `a` and for `b`, `{1..4}` and `{a..e}`
for the numbers and letters from one to the other.  A pattern with braces
stands for several patterns without.

Braces with neither a comma nor a range between them mean themselves, and so
do those after a dollar sign.  A backslash takes the meaning from a brace, a
comma, a dot or another backslash.
-/

namespace Docdown.Glob.Braces

/-- A character of a pattern, with or without the meaning it may have here. -/
inductive Mark where
  | plain (c : Char)
  | escaped (c : Char)
deriving DecidableEq, Repr

/-! ## Escapes -/

/-- Whether a backslash takes the meaning from a character. -/
def isEscapable (c : Char) : Bool := c ∈ ['\\', '\x7b', '\x7d', ',', '.']

/-- The marks of a pattern. -/
def marks : List Char → List Mark
  | [] => []
  | [c] => [.plain c]
  | c :: d :: rest =>
    if c = '\\' && isEscapable d then .escaped d :: marks rest else .plain c :: marks (d :: rest)

def Mark.char : Mark → Char
  | .plain c => c
  | .escaped c => c

/-- The opening brace, the closing brace and the comma that have a meaning. -/
def opening : Mark := .plain '\x7b'
def closing : Mark := .plain '\x7d'
def comma : Mark := .plain ','

/-! ## Groups -/

/-- What stands before and after the brace that closes a group entered to the
given depth. -/
def untilClosed (depth : Nat) : List Mark → Option (List Mark × List Mark)
  | [] => none
  | m :: rest =>
    if m = closing then
      match depth with
      | 0 => some ([], rest)
      | d + 1 => (untilClosed d rest).map fun (body, after) => (m :: body, after)
    else
      (untilClosed (if m = opening then depth + 1 else depth) rest).map
        fun (body, after) => (m :: body, after)

/-- The first group of a pattern: what stands before, in, and after it. -/
def firstGroup? : List Mark → Option (List Mark × List Mark × List Mark)
  | [] => none
  | m :: rest =>
    match (if m = opening then untilClosed 0 rest else none) with
    | some (body, after) => some ([], body, after)
    | none => (firstGroup? rest).map fun (before, body, after) => (m :: before, body, after)

/-- The last of some lists made longer by `ms` and by the first of others. -/
def glue (ls : List (List Mark)) (ms : List Mark) : List (List Mark) → List (List Mark)
  | [] => ls.dropLast ++ [ls.getLast?.getD [] ++ ms]
  | r :: rs => ls.dropLast ++ (ls.getLast?.getD [] ++ ms ++ r) :: rs

/-- The parts of a group's body between the commas outside inner groups. -/
def commaParts : Nat → List Mark → List (List Mark)
  | 0, body => [body]
  | n + 1, body =>
    match firstGroup? body with
    | none => body.splitOn comma
    | some (before, inner, after) =>
      glue (before.splitOn comma) (opening :: inner ++ [closing]) (commaParts n after)

/-! ## Ranges -/

/-- An integer written in decimal digits, with a minus sign or without. -/
def integer? : List Char → Option Int
  | '-' :: ds => (natural? ds).map fun n => -(n : Int)
  | ds => (natural? ds).map fun n => (n : Int)
where
  natural? : List Char → Option Nat
  | [] => none
  | ds =>
    if ds.all Char.isDigit then some (ds.foldl (fun n c => 10 * n + (c.toNat - 48)) 0) else none

/-- Whether an integer is written with a leading zero, so that all numbers of
its range are written to one width. -/
def isPadded : List Char → Bool
  | '-' :: '0' :: d :: _ => d.isDigit
  | '0' :: d :: _ => d.isDigit
  | _ => false

/-- The integers from one to another at the distance of a step. -/
def between (first last : Int) (step : Nat) : List Int :=
  let step := max step 1
  let count := (last - first).natAbs / step + 1
  (List.range count).map fun i =>
    if first ≤ last then first + (i * step : Nat) else first - (i * step : Nat)

/-- An integer in decimal digits, padded with zeros to a width. -/
def decimal (width : Nat) (n : Int) : List Char :=
  let digits := (toString n.natAbs).toList
  let sign := if n < 0 then ['-'] else []
  sign ++ List.replicate (width - (sign.length + digits.length)) '0' ++ digits

/-- The members of a range of numbers or of letters. -/
def range? (body : List Mark) : Option (List (List Mark)) :=
  let ends := (body.splitOn (.plain '.')).map fun ms => ms.map Mark.char
  let members? (a b : List Char) (step : List Char) : Option (List (List Char)) :=
    match integer? step with
    | none => none
    | some k => match integer? a, integer? b, a, b with
      | some m, some n, _, _ =>
        let width := if [a, b, step].any isPadded then max a.length b.length else 0
        some ((between m n k.natAbs).map (decimal width))
      | _, _, [c], [d] =>
        if c.isAlpha && d.isAlpha then
          some ((between c.toNat d.toNat k.natAbs).map fun n =>
            let e := Char.ofNat n.toNat
            if e = '\\' then [] else [e])
        else none
      | _, _, _, _ => none
  let members := match ends with
    | [a, [], b] => members? a b ['1']
    | [a, [], b, [], step] => members? a b step
    | _ => none
  if body.all (fun | .plain _ => true | .escaped _ => false) then
    members.map fun ws => ws.map fun w => w.map .plain
  else none

/-! ## Expansion -/

/-- Whether one element and after it another stand in a list with no line end
between them.  `seen` says that the first precedes. -/
def inOneLine [DecidableEq α] (first second : α) (isLineEnd : α → Bool) (seen : Bool) :
    List α → Bool
  | [] => false
  | x :: xs =>
    seen && x = second ||
      inOneLine first second isLineEnd (x = first || seen && !isLineEnd x) xs

/-- Whether a character ends a line. -/
def isLineEnd (c : Char) : Bool := c ∈ ['\n', '\r', '\u2028', '\u2029']

/-- Whether a comma and after it a closing brace stand in a text, so that a
brace before it may belong to a group that is closed there. -/
def closesLater (ms : List Mark) : Bool :=
  inOneLine comma closing (fun m => isLineEnd m.char) false ms

/-- The patterns a pattern stands for.  Each step looks at fewer closing braces
than the one before, and `n` is more than there are. -/
def expandMarks : Nat → List Mark → List (List Mark)
  | 0, ms => [ms]
  | n + 1, ms =>
    match firstGroup? ms with
    | none => [ms]
    | some (before, body, after) =>
      let ends := expandMarks n after
      let embrace (inner : List Mark) := opening :: inner ++ [closing]
      let all (choices : List (List Mark)) :=
        choices.flatMap fun c => ends.map fun e => before ++ c ++ e
      if before.getLast? = some (.plain '$') then all [embrace body]
      else match range? body with
        | some members => all members
        | none =>
          if comma ∈ body then
            match commaParts ms.length body with
            | [part] =>
              match (expandMarks n part).map embrace with
              | [choice] => all [choice]
              | choices => all (choices.flatMap (expandMarks n))
            | parts => all (parts.flatMap (expandMarks n))
          else if closesLater after then
            expandMarks n (before ++ opening :: body ++ .escaped '\x7d' :: after)
          else [ms]

/-- Whether a brace opens and one closes after it. -/
def hasBraces (cs : List Char) : Bool := inOneLine '\x7b' '\x7d' isLineEnd false cs

/-- A pattern's marks.  Empty braces at its very start mean themselves. -/
def topMarks : List Char → List Mark
  | '\x7b' :: '\x7d' :: rest => .escaped '\x7b' :: .escaped '\x7d' :: marks rest
  | cs => marks cs

/-- The patterns without braces that a pattern stands for. -/
def expand (pattern : List Char) : List (List Char) :=
  if hasBraces pattern then
    (expandMarks (pattern.length + 1) (topMarks pattern)).map fun ms => ms.map Mark.char
  else [pattern]

end Docdown.Glob.Braces
