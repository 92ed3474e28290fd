import Docdown.Path
import Docdown.Proofs.Text.Splitting

/-!
# Docdown.Proofs.Path.Walking

Where the text of a path leads.  `walk` takes one part from a place to the next,
whatever there is.  A path that is normalized leads to the same place
(`foldl_parts_normalize`), and each place on its way is one that the path as it
was written leads through (`exists_prefix_parts_of_normalize`).

Both hold of any function of parts that heeds what `enter` does (`Heeds`), so that
reducing parts twice is a case of them, too.
-/

namespace Docdown.Path

universe u

/-! ## parts -/

theorem parts_append_slash (p q : String) : parts (p ++ "/" ++ q) = parts p ++ parts q := by
  have hslash : (p ++ "/" ++ q).toList = p.toList ++ '/' :: q.toList := by simp
  rw [parts, hslash, List.splitOn_append_cons_self, List.map_append, parts, parts]

theorem parts_eq_singleton {p : String} (h : '/' ∉ p.toList) : parts p = [p] := by
  rw [parts, List.splitOn_eq_singleton h, List.map_singleton, String.ofList_toList]

theorem notMem_of_mem_splitOn {c : Char} {cs x : List Char} (h : x ∈ cs.splitOn c) : c ∉ x := by
  rw [List.splitOn_eq_splitOnP] at h
  intro hc
  simpa using Text.eq_false_of_mem_splitOnP h c hc

/-- Between two slashes there is none. -/
theorem slash_notMem_of_mem_parts {p x : String} (h : x ∈ parts p) : '/' ∉ x.toList := by
  rw [parts, List.mem_map] at h
  obtain ⟨cs, hcs, rfl⟩ := h
  rw [String.toList_ofList]
  exact notMem_of_mem_splitOn hcs

theorem parts_intercalate {segments : List String} (hne : segments ≠ [])
    (h : ∀ x ∈ segments, '/' ∉ x.toList) : parts ("/".intercalate segments) = segments := by
  rw [parts, String.toList_intercalate]
  have hslash : "/".toList = ['/'] := rfl
  rw [hslash, List.splitOn_intercalate '/' (by simpa using h) (by simpa using hne), List.map_map]
  exact (List.map_congr_left fun x _ => String.ofList_toList).trans (List.map_id _)

/-! ## reducing parts -/

/-- A part that leads somewhere by its name. -/
def IsName (part : String) : Prop := part ≠ "" ∧ part ≠ "." ∧ part ≠ ".."

theorem isName_of_not {part : String} (hidle : ¬(part = "" ∨ part = ".")) (hback : ¬part = "..") :
    IsName part :=
  ⟨fun e => hidle (.inl e), fun e => hidle (.inr e), hback⟩

/-- A function of parts that heeds what `enter` does: empty parts and single dots
change nothing, and two dots take a name back. -/
structure Heeds {α : Type u} (f : α → String → α) : Prop where
  nothing : ∀ b, f b "" = b
  dot : ∀ b, f b "." = b
  back : ∀ b x, IsName x → f (f b x) ".." = b

/-- Empty parts and single dots lead nowhere. -/
theorem Heeds.foldl_of_idle {α : Type u} {f : α → String → α} (hf : Heeds f) {ps : List String}
    (h : ∀ x ∈ ps, x = "" ∨ x = ".") (b : α) : ps.foldl f b = b := by
  induction ps with
  | nil => rfl
  | cons p ps ih =>
    have hp : f b p = b := by
      rcases h p List.mem_cons_self with rfl | rfl
      · exact hf.nothing b
      · exact hf.dot b
    rw [List.foldl_cons, hp, ih fun x hx => h x (List.mem_cons_of_mem _ hx)]

section Reduce

variable {α : Type u} {f : α → String → α} {absolute : Bool}

/-- What one part can do to a stack of segments: nothing, nothing at the root, take back
the name on top, or go on top. -/
theorem enter_cases (absolute : Bool) (stack : List String) (part : String) :
    ((part = "" ∨ part = ".") ∧ enter absolute stack part = stack) ∨
      (absolute = true ∧ part = ".." ∧ stack = [] ∧ enter absolute stack part = []) ∨
      (∃ top below, part = ".." ∧ stack = top :: below ∧ top ≠ ".." ∧
        enter absolute stack part = below) ∨
      (part ≠ "" ∧ part ≠ "." ∧ enter absolute stack part = part :: stack) := by
  by_cases hidle : part = "" ∨ part = "."
  · exact .inl ⟨hidle, if_pos hidle⟩
  · have hpart := not_or.1 hidle
    by_cases hback : part = ".."
    · subst hback
      cases stack with
      | nil =>
        cases absolute with
        | true => exact .inr (.inl ⟨rfl, rfl, rfl, rfl⟩)
        | false => exact .inr (.inr (.inr ⟨hpart.1, hpart.2, rfl⟩))
      | cons top below =>
        by_cases htop : top = ".."
        · exact .inr (.inr (.inr ⟨hpart.1, hpart.2, by simp [enter, htop]⟩))
        · exact .inr (.inr (.inl ⟨top, below, rfl, rfl, htop, by simp [enter, htop]⟩))
    · exact .inr (.inr (.inr ⟨hpart.1, hpart.2, by simp [enter, hidle, hback]⟩))

/-- What a stack of segments holds: names, and two dots where they cannot be taken
back. -/
def IsStack (stack : List String) : Prop := ∀ x ∈ stack, x ≠ "" ∧ x ≠ "."

theorem isStack_nil : IsStack [] := fun _ h => absurd h List.not_mem_nil

theorem IsStack.enter {stack : List String} (hs : IsStack stack) (part : String) :
    IsStack (enter absolute stack part) := by
  rcases enter_cases absolute stack part with
    ⟨-, h⟩ | ⟨-, -, -, h⟩ | ⟨top, below, -, rfl, -, h⟩ | ⟨hne, hdot, h⟩ <;> rw [h]
  · exact hs
  · exact isStack_nil
  · exact fun x hx => hs x (List.mem_cons_of_mem _ hx)
  · exact List.forall_mem_cons.2 ⟨⟨hne, hdot⟩, hs⟩

theorem IsStack.foldl {stack : List String} (hs : IsStack stack) (ps : List String) :
    IsStack (ps.foldl (Path.enter absolute) stack) := by
  induction ps generalizing stack with
  | nil => exact hs
  | cons p ps ih => exact ih (hs.enter p)

/-- One part on top of a stack is one step further. -/
theorem foldl_reverse_enter (hf : Heeds f) {b : α} (hb : absolute = true → f b ".." = b)
    {stack : List String} (hs : IsStack stack) (part : String) :
    (enter absolute stack part).reverse.foldl f b = f (stack.reverse.foldl f b) part := by
  rcases enter_cases absolute stack part with
    ⟨hidle, h⟩ | ⟨habs, rfl, rfl, h⟩ | ⟨top, below, rfl, rfl, hname, h⟩ | ⟨-, -, h⟩ <;> rw [h]
  · rcases hidle with rfl | rfl
    · rw [hf.nothing]
    · rw [hf.dot]
  · exact (hb habs).symm
  · have htop := hs top List.mem_cons_self
    rw [List.reverse_cons, List.foldl_append]
    exact (hf.back _ top ⟨htop.1, htop.2, hname⟩).symm
  · rw [List.reverse_cons, List.foldl_append]
    rfl

theorem foldl_reverse_foldl_enter (hf : Heeds f) {b : α} (hb : absolute = true → f b ".." = b)
    {stack : List String} (hs : IsStack stack) (ps : List String) :
    (ps.foldl (enter absolute) stack).reverse.foldl f b = ps.foldl f (stack.reverse.foldl f b) := by
  induction ps generalizing stack with
  | nil => rfl
  | cons p ps ih =>
    rw [List.foldl_cons, ih (hs.enter p), foldl_reverse_enter hf hb hs, List.foldl_cons]

/-- What remains of the parts of a path leads to where the parts lead. -/
theorem foldl_reduce (hf : Heeds f) {b : α} (hb : absolute = true → f b ".." = b)
    (ps : List String) : (reduce absolute ps).foldl f b = ps.foldl f b :=
  foldl_reverse_foldl_enter hf hb isStack_nil ps

/-- A beginning of a stack with one more part is a beginning of the stack, unless it
is the whole. -/
theorem prefix_reverse_enter {stack : List String} {part : String} {ps : List String}
    (h : ps <+: (enter absolute stack part).reverse) :
    ps <+: stack.reverse ∨ ps = (enter absolute stack part).reverse := by
  rcases enter_cases absolute stack part with
    ⟨-, he⟩ | ⟨-, -, rfl, he⟩ | ⟨top, below, -, rfl, -, he⟩ | ⟨-, -, he⟩ <;> rw [he] at h ⊢
  · exact .inl h
  · exact .inl h
  · rw [List.reverse_cons]
    exact .inl (h.trans (List.prefix_append _ _))
  · rw [List.reverse_cons] at h ⊢
    exact (List.prefix_concat_iff.1 h).symm

theorem prefix_reverse_foldl_enter {stack ps qs : List String}
    (h : qs <+: (ps.foldl (enter absolute) stack).reverse) :
    qs <+: stack.reverse ∨ ∃ front, front <+: ps ∧
      qs = (front.foldl (enter absolute) stack).reverse := by
  induction ps generalizing stack with
  | nil => exact .inl h
  | cons p ps ih =>
    rcases ih h with h | ⟨front, hfront, rfl⟩
    · rcases prefix_reverse_enter h with h | rfl
      · exact .inl h
      · exact .inr ⟨[p], by simp, rfl⟩
    · exact .inr ⟨p :: front, by simpa using hfront, rfl⟩

/-- Each beginning of what remains leads where some beginning of the parts leads. -/
theorem exists_prefix_of_prefix_reduce (hf : Heeds f) {b : α}
    (hb : absolute = true → f b ".." = b) {ps qs : List String} (h : qs <+: reduce absolute ps) :
    ∃ front, front <+: ps ∧ qs.foldl f b = front.foldl f b := by
  rcases prefix_reverse_foldl_enter h with h | ⟨front, hfront, rfl⟩
  · rw [List.reverse_nil, List.prefix_nil] at h
    exact ⟨[], List.nil_prefix, by rw [h]⟩
  · exact ⟨front, hfront, foldl_reduce hf hb front⟩

end Reduce

theorem mem_enter {absolute : Bool} {stack : List String} {part x : String}
    (h : x ∈ enter absolute stack part) : x ∈ stack ∨ x = part := by
  rcases enter_cases absolute stack part with
    ⟨-, he⟩ | ⟨-, -, -, he⟩ | ⟨top, below, -, rfl, -, he⟩ | ⟨-, -, he⟩ <;> rw [he] at h
  · exact .inl h
  · cases h
  · exact .inl (List.mem_cons_of_mem _ h)
  · exact (List.mem_cons.1 h).symm

theorem mem_foldl_enter {absolute : Bool} {ps stack : List String} {x : String}
    (h : x ∈ ps.foldl (enter absolute) stack) : x ∈ stack ∨ x ∈ ps := by
  induction ps generalizing stack with
  | nil => exact .inl h
  | cons p ps ih =>
    rcases ih h with h | h
    · rcases mem_enter h with h | rfl
      · exact .inl h
      · exact .inr List.mem_cons_self
    · exact .inr (List.mem_cons_of_mem _ h)

/-- What remains is among the parts. -/
theorem mem_of_mem_reduce {absolute : Bool} {ps : List String} {x : String}
    (h : x ∈ reduce absolute ps) : x ∈ ps := by
  have hmem : x ∈ ps.foldl (enter absolute) [] := List.mem_reverse.1 h
  simpa using mem_foldl_enter hmem

theorem isStack_reduce {absolute : Bool} {ps : List String} : IsStack (reduce absolute ps) :=
  fun x hx => (isStack_nil.foldl ps) x (List.mem_reverse.1 hx)

/-- `enter` heeds what it does itself. -/
theorem heeds_enter (absolute : Bool) : Heeds (enter absolute) where
  nothing _ := rfl
  dot _ := rfl
  back b x hx := by
    obtain ⟨h1, h2, h3⟩ := hx
    simp [enter, h1, h2, h3]

/-! ## walking -/

/-- The place to which one part leads from another, whatever there is. -/
def walk (place : List String) (part : String) : List String :=
  if part = "" ∨ part = "." then place
  else if part = ".." then place.dropLast
  else place ++ [part]

theorem walk_of_idle {part : String} (h : part = "" ∨ part = ".") (place : List String) :
    walk place part = place :=
  if_pos h

theorem walk_back (place : List String) : walk place ".." = place.dropLast := rfl

theorem walk_of_isName {part : String} (h : IsName part) (place : List String) :
    walk place part = place ++ [part] := by
  simp [walk, h.1, h.2.1, h.2.2]

theorem heeds_walk : Heeds walk where
  nothing _ := rfl
  dot _ := rfl
  back b x hx := by rw [walk_of_isName hx, walk_back, List.dropLast_concat]

/-! ## normalized paths -/

theorem slash_notMem_of_mem_reduce {p x : String} {absolute : Bool}
    (h : x ∈ reduce absolute (parts p)) : '/' ∉ x.toList :=
  slash_notMem_of_mem_parts (mem_of_mem_reduce h)

/-- Nothing remains of the parts of a path that is empty once it is reduced. -/
theorem reduce_eq_nil {p : String} {absolute : Bool}
    (h : "/".intercalate (reduce absolute (parts p)) = "") : reduce absolute (parts p) = [] := by
  refine Decidable.byContradiction fun hne => ?_
  have hparts := parts_intercalate hne fun x hx => slash_notMem_of_mem_reduce hx
  have hempty : parts "" = [""] := by decide
  rw [h, hempty] at hparts
  have hmem : "" ∈ reduce absolute (parts p) := by rw [← hparts]; exact List.mem_cons_self
  exact (isStack_reduce "" hmem).1 rfl

/-- The slash that a normalized path keeps at its end adds one empty part. -/
theorem exists_parts_append_tail (p : String) :
    ∃ back, (∀ b, parts (b ++ if p.toList.getLast? = some '/' then "/" else "") = parts b ++ back) ∧
      (∀ x ∈ back, x = "" ∨ x = ".") ∧ (p.toList.getLast? ≠ some '/' → back = []) := by
  split
  · rename_i hend
    refine ⟨[""], fun b => ?_, by simp, fun h => absurd hend h⟩
    have hslash := parts_append_slash b ""
    rwa [String.append_empty] at hslash
  · exact ⟨[], fun b => by rw [String.append_empty, List.append_nil], by simp, fun _ => rfl⟩

/-- The parts of a normalized path are those that remain, and some that lead nowhere
around them. -/
theorem exists_parts_normalize (p : String) : ∃ front back,
    parts (normalize p) = front ++ reduce (isAbsolute p) (parts p) ++ back ∧
      (∀ x ∈ front, x = "" ∨ x = ".") ∧ (∀ x ∈ back, x = "" ∨ x = ".") ∧
      (p.toList.getLast? ≠ some '/' → back = []) := by
  obtain ⟨back, htail, hidle, hend⟩ := exists_parts_append_tail p
  have hrootParts : parts "/" = ["", ""] := by decide
  have hhereParts : parts "." = ["."] := by decide
  unfold normalize
  dsimp only
  by_cases hbody : "/".intercalate (reduce (isAbsolute p) (parts p)) = ""
  · have hnil := reduce_eq_nil hbody
    rw [hbody, hnil, decide_eq_true rfl]
    cases isAbsolute p with
    | true => exact ⟨["", ""], [], hrootParts, by simp, by simp, fun _ => rfl⟩
    | false => exact ⟨["."], back, by rw [htail, hhereParts]; rfl, by simp, hidle, hend⟩
  · have hne : reduce (isAbsolute p) (parts p) ≠ [] := fun e => hbody (by rw [e]; rfl)
    have hsegments := parts_intercalate hne fun x hx => slash_notMem_of_mem_reduce hx
    rw [decide_eq_false hbody]
    cases habs : isAbsolute p with
    | true =>
      rw [habs] at hsegments
      refine ⟨[""], back, ?_, by simp, hidle, hend⟩
      have hslash := parts_append_slash "" ("/".intercalate (reduce true (parts p)))
      rw [String.empty_append] at hslash
      rw [htail, hslash, hsegments]
      rfl
    | false =>
      rw [habs] at hsegments
      exact ⟨[], back, by rw [htail, hsegments]; rfl, by simp, hidle, hend⟩

/-- A normalized path leads to the place to which it led as it was written. -/
theorem foldl_parts_normalize {α : Type u} {f : α → String → α} (hf : Heeds f) {b : α} {p : String}
    (hb : isAbsolute p = true → f b ".." = b) :
    (parts (normalize p)).foldl f b = (parts p).foldl f b := by
  obtain ⟨front, back, hparts, hfront, hback, -⟩ := exists_parts_normalize p
  rw [hparts, List.foldl_append, List.foldl_append, hf.foldl_of_idle hfront,
    hf.foldl_of_idle hback, foldl_reduce hf hb]

/-- A normalized path leads through no other places than as it was written. -/
theorem exists_prefix_parts_of_normalize {α : Type u} {f : α → String → α} (hf : Heeds f)
    {b : α} {p : String} (hb : isAbsolute p = true → f b ".." = b) {ps : List String}
    (h : ps <+: parts (normalize p)) :
    ∃ qs, qs <+: parts p ∧ ps.foldl f b = qs.foldl f b := by
  obtain ⟨front, back, hparts, hfront, hback, -⟩ := exists_parts_normalize p
  have hps := List.prefix_iff_eq_take.1 h
  rw [hparts, List.take_append, List.take_append] at hps
  have hfold : ps.foldl f b =
      ((reduce (isAbsolute p) (parts p)).take (ps.length - front.length)).foldl f b := by
    rw [hps, List.foldl_append, List.foldl_append,
      hf.foldl_of_idle fun x hx => hfront x (List.mem_of_mem_take hx),
      hf.foldl_of_idle fun x hx => hback x (List.mem_of_mem_take hx), ← hps]
  obtain ⟨qs, hqs, hsame⟩ := exists_prefix_of_prefix_reduce hf hb (List.take_prefix _ _)
  exact ⟨qs, hqs, hfold.trans hsame⟩

/-- What a normalized path is depends on its start, on what remains of its parts and
on how it ends. -/
theorem normalize_congr {p q : String} (habs : isAbsolute p = isAbsolute q)
    (hreduce : reduce (isAbsolute q) (parts p) = reduce (isAbsolute q) (parts q))
    (hlast : p.toList.getLast? = q.toList.getLast?) : normalize p = normalize q := by
  unfold normalize
  rw [habs, hreduce, hlast]

theorem normalize_ne_empty (p : String) : normalize p ≠ "" := by
  unfold normalize
  dsimp only
  split
  · decide
  · simp
  · simp
  · rename_i h
    have hbody := of_decide_eq_false h
    simp_all

theorem isAbsolute_append {p : String} (h : p ≠ "") (q : String) :
    isAbsolute (p ++ q) = isAbsolute p := by
  have hp : p.toList ≠ [] := fun e => h (String.toList_inj.1 e)
  obtain ⟨c, cs, hcs⟩ := List.exists_cons_of_ne_nil hp
  simp [isAbsolute, hcs]

theorem isAbsolute_append_slash {p : String} (h : p ≠ "") (q : String) :
    isAbsolute (p ++ "/" ++ q) = isAbsolute p := by
  rw [String.append_assoc, isAbsolute_append h]

theorem isAbsolute_eq_false {p : String} (h : '/' ∉ p.toList) : isAbsolute p = false := by
  unfold isAbsolute
  cases hp : p.toList with
  | nil => rfl
  | cons c cs =>
    have hc : c ≠ '/' := fun e => h (by rw [hp, e]; exact List.mem_cons_self)
    simpa using hc

/-- Segments one after the other are no absolute path. -/
theorem isAbsolute_intercalate {x : String} (hne : x ≠ "") (hslash : '/' ∉ x.toList)
    (xs : List String) : isAbsolute ("/".intercalate (x :: xs)) = false := by
  cases xs with
  | nil => rw [String.intercalate_singleton, isAbsolute_eq_false hslash]
  | cons y ys =>
    rw [String.intercalate_cons_cons, isAbsolute_append_slash hne, isAbsolute_eq_false hslash]

/-- Normalizing does not change where a path starts. -/
theorem isAbsolute_normalize (p : String) : isAbsolute (normalize p) = isAbsolute p := by
  unfold normalize
  dsimp only
  split
  · rename_i habs hbody
    rw [habs]; decide
  · rename_i habs hbody
    rw [habs, String.append_assoc, isAbsolute_append (by decide)]; decide
  · rename_i habs hbody
    rw [habs, isAbsolute_append (by decide)]; decide
  · rename_i habs hbody
    have hne := of_decide_eq_false hbody
    rw [habs] at hne ⊢
    rw [isAbsolute_append hne]
    cases hs : reduce false (parts p) with
    | nil => rfl
    | cons x xs =>
      have hx : x ∈ reduce false (parts p) := by rw [hs]; exact List.mem_cons_self
      exact isAbsolute_intercalate (isStack_reduce x hx).1 (slash_notMem_of_mem_reduce hx) xs

end Docdown.Path
