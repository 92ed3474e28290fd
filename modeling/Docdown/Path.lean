/-!
# Docdown.Path

Paths as texts.  A slash separates segments; empty segments and single dots
mean nothing, and two dots take back the segment before them.  Everything here
is about the text of a path only: whether it leads anywhere is the business of
`Docdown.FileTree`.
-/

namespace Docdown.Path

/-- The texts between the slashes of a path. -/
def parts (p : String) : List String := (p.toList.splitOn '/').map String.ofList

/-- Whether a path starts at the root. -/
def isAbsolute (p : String) : Bool := p.toList.head? == some '/'

/-- One more part on top of a stack of segments, newest first.  At the root two
dots mean nothing; a relative path keeps those it cannot take back. -/
def enter (absolute : Bool) (stack : List String) (part : String) : List String :=
  if part = "" ∨ part = "." then stack
  else if part = ".." then
    match stack with
    | [] => if absolute then [] else [".."]
    | top :: below => if top = ".." then ".." :: stack else below
  else part :: stack

/-- The segments that remain of the parts of a path. -/
def reduce (absolute : Bool) (ps : List String) : List String :=
  (ps.foldl (enter absolute) []).reverse

/-- A path without needless parts.  A slash at its end stays. -/
def normalize (p : String) : String :=
  let body := "/".intercalate (reduce (isAbsolute p) (parts p))
  let tail := if p.toList.getLast? = some '/' then "/" else ""
  match isAbsolute p, decide (body = "") with
  | true, true => "/"
  | true, false => "/" ++ body ++ tail
  | false, true => "." ++ tail
  | false, false => body ++ tail

/-- Paths put one after the other, and normalized.  Empty ones are left out. -/
def join (ps : List String) : String := normalize ("/".intercalate (ps.filter (· ≠ "")))

/-- The last segment of a path that does not end in a slash. -/
def base (p : String) : String := (parts p).getLast?.getD ""

/-- A name without its extension, which starts at the last dot.  A dot at the
start of the name starts no extension. -/
def stem (name : String) : String :=
  let back := name.toList.reverse
  match back.dropWhile (· ≠ '.') with
  | _ :: c :: rest => String.ofList (c :: rest).reverse
  | _ => name

@[simp] theorem normalize_empty : normalize "" = "." := by decide

/-- The segments of a reduced absolute path hold no dots that lead elsewhere. -/
theorem mem_enter_true {stack : List String} {part x : String}
    (hs : ∀ y ∈ stack, y ≠ "" ∧ y ≠ "." ∧ y ≠ "..") (h : x ∈ enter true stack part) :
    x ≠ "" ∧ x ≠ "." ∧ x ≠ ".." := by
  unfold enter at h
  split at h
  · exact hs x h
  · split at h
    · cases stack with
      | nil => simp at h
      | cons top below =>
        have htop : top ≠ ".." := (hs top (by simp)).2.2
        simp only [htop, if_false] at h
        exact hs x (List.mem_cons_of_mem _ h)
    · rename_i h1 h2
      rcases List.mem_cons.1 h with rfl | h
      · exact ⟨fun e => h1 (.inl e), fun e => h1 (.inr e), h2⟩
      · exact hs x h

theorem mem_foldl_enter_true {ps stack : List String} {x : String}
    (hs : ∀ y ∈ stack, y ≠ "" ∧ y ≠ "." ∧ y ≠ "..") (h : x ∈ ps.foldl (enter true) stack) :
    x ≠ "" ∧ x ≠ "." ∧ x ≠ ".." := by
  induction ps generalizing stack with
  | nil => exact hs x h
  | cons p ps ih => exact ih (fun y hy => mem_enter_true hs hy) h

theorem mem_reduce_true {ps : List String} {x : String} (h : x ∈ reduce true ps) :
    x ≠ "" ∧ x ≠ "." ∧ x ≠ ".." :=
  mem_foldl_enter_true (fun _ hy => absurd hy List.not_mem_nil) (by simpa [reduce] using h)

end Docdown.Path
