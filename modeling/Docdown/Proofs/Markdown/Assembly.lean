import Docdown.Proofs.Markdown.Members
import Docdown.Proofs.Xml.Diagnostics

/-!
# Docdown.Proofs.Markdown.Assembly

How the blocks of a page become its text.  Texts joined by line feeds have the lines of
each, in order (`lines_joined`).  A page starts with a heading (`startsWithHeading_blocks`),
so that trimming takes nothing from its front, and nothing from the blocks up to one that
does not end with a blank (`exists_page_eq`).
-/

namespace Docdown.Markdown

open Doc
open Xml (lines)

/-! ## joined texts -/

theorem lines_append (s t : String) : lines (s ++ "\n" ++ t) = lines s ++ lines t := by
  have hbreak : (s ++ "\n" ++ t).toList = s.toList ++ '\n' :: t.toList := by simp
  rw [lines, hbreak, List.splitOn_append_cons_self, List.map_append, lines, lines]

theorem lines_joined {texts : List String} (h : texts ≠ []) :
    lines (joined "\n" texts) = texts.flatMap lines := by
  induction texts with
  | nil => contradiction
  | cons t ts ih =>
    by_cases hts : ts = []
    · rw [hts, joined, String.intercalate_singleton, List.flatMap_singleton]
    · rw [joined, String.intercalate_cons_of_ne_nil hts, lines_append, ← joined, ih hts,
        List.flatMap_cons]

theorem lines_ne_nil (s : String) : lines s ≠ [] := by
  rw [lines, Ne, List.map_eq_nil_iff]
  exact List.splitOn_ne_nil '\n' s.toList

theorem lines_of_not_mem {s : String} (h : '\n' ∉ s.toList) : lines s = [s] := by
  rw [lines, List.splitOn_eq_singleton h, List.map_singleton, String.ofList_toList]

/-- A text with a line feed has two lines or more. -/
theorem one_lt_length_lines {s : String} (h : '\n' ∈ s.toList) : 1 < (lines s).length := by
  obtain ⟨before, after, hs⟩ := List.append_of_mem h
  have hsplit : s = String.ofList before ++ "\n" ++ String.ofList after := by
    rw [← String.toList_inj, hs]
    simp
  have hbefore := List.length_pos_of_ne_nil (lines_ne_nil (String.ofList before))
  have hafter := List.length_pos_of_ne_nil (lines_ne_nil (String.ofList after))
  rw [hsplit, lines_append, List.length_append]
  omega

theorem head?_joined (t : String) (ts : List String) :
    (joined "\n" (t :: ts)).toList.head? =
      t.toList.head?.or (if ts = [] then none else some '\n') := by
  by_cases hts : ts = []
  · rw [hts, joined, String.intercalate_singleton, if_pos rfl, Option.or_none]
  · rw [joined, String.intercalate_cons_of_ne_nil hts, if_neg hts, String.append_assoc,
      String.toList_append, List.head?_append, String.toList_append]
    rfl

theorem getLast?_joined {texts : List String} {c : Char} (h : texts ≠ [])
    (hends : ∀ t ∈ texts, t.toList.getLast? = some c) :
    (joined "\n" texts).toList.getLast? = some c := by
  induction texts with
  | nil => contradiction
  | cons t ts ih =>
    by_cases hts : ts = []
    · rw [hts, joined, String.intercalate_singleton]
      exact hends t List.mem_cons_self
    · have hrest := ih hts fun t' ht' => hends t' (List.mem_cons_of_mem t ht')
      rw [joined, String.intercalate_cons_of_ne_nil hts, String.toList_append,
        List.getLast?_append, ← joined, hrest, Option.some_or]

/-! ## what a page starts with -/

def Block.isHeading : Block → Bool
  | .compoundHeading _ | .enumHeading _ | .memberHeading _ => true
  | _ => false

theorem Block.head?_render {b : Block} (h : b.isHeading = true) :
    b.render.toList.head? = some '#' := by
  unfold isHeading at h
  split at h
  · simp [render]
  · simp [render]
  · simp [render]
  · contradiction

/-- Whether the first of some blocks, if there is one, is a heading. -/
def StartsWithHeading (bs : List Block) : Prop := ∀ b ∈ bs.head?, b.isHeading = true

theorem StartsWithHeading.append {bs cs : List Block} (hbs : StartsWithHeading bs)
    (hcs : StartsWithHeading cs) : StartsWithHeading (bs ++ cs) := by
  cases bs with
  | nil => exact hcs
  | cons b bs => exact hbs

theorem startsWithHeading_flatMap {f : α → List Block} (h : ∀ x, StartsWithHeading (f x))
    (xs : List α) : StartsWithHeading (xs.flatMap f) := by
  induction xs with
  | nil =>
    intro b hb
    contradiction
  | cons x xs ih =>
    rw [List.flatMap_cons]
    exact (h x).append ih

theorem startsWithHeading_enumBlocks (e : Enumeration) : StartsWithHeading (enumBlocks e) := by
  rintro b ⟨⟩
  rfl

theorem startsWithHeading_compoundBlocks (c : Compound) :
    StartsWithHeading (compoundBlocks c) := by
  refine StartsWithHeading.append ?_ (startsWithHeading_flatMap startsWithHeading_enumBlocks _)
  split
  · rintro b ⟨⟩
    rfl
  · rintro b ⟨⟩

theorem startsWithHeading_addedBlocks (page : List Block) (m : Member) :
    StartsWithHeading (addedBlocks page m) := by
  rintro b ⟨⟩
  rfl

theorem startsWithHeading_blocks (d : Document) : StartsWithHeading (blocks d) := by
  rw [blocks_eq]
  exact (startsWithHeading_flatMap startsWithHeading_compoundBlocks _).append
    (startsWithHeading_flatMap (fun _ => startsWithHeading_addedBlocks _ _) _)

/-! ## trimming a page -/

/-- Stripping takes nothing from what starts and ends with an element that stays. -/
theorem strip_append {p : α → Bool} {xs : List α} (hhead : ∃ x ∈ xs.head?, p x = false)
    (hlast : ∃ x ∈ xs.getLast?, p x = false) (ys : List α) :
    Text.strip p (xs ++ ys) = xs ++ ys.rdropWhile p := by
  have hstays : ∀ zs : List α, (∃ x ∈ zs.head?, p x = false) → zs.dropWhile p = zs := by
    rintro zs ⟨x, hx, hp⟩
    obtain ⟨zs', rfl⟩ := List.head?_eq_some_iff.1 hx
    exact List.dropWhile_cons_of_neg (by simp [hp])
  have hfront : ∃ x ∈ (xs ++ ys).head?, p x = false := by
    obtain ⟨x, hx, hp⟩ := hhead
    exact ⟨x, by rw [List.head?_append, hx, Option.some_or]; rfl, hp⟩
  have hback : xs.reverse.dropWhile p = xs.reverse :=
    hstays _ (by rwa [List.head?_reverse])
  rw [Text.strip, hstays _ hfront, List.reverse_append, List.dropWhile_append, hback]
  split
  next hys =>
    rw [List.isEmpty_iff] at hys
    rw [List.rdropWhile, hys, List.reverse_reverse, List.reverse_nil, List.append_nil]
  next => rw [List.reverse_append, List.reverse_reverse, List.rdropWhile]

/-- The front of a page stands as it was rendered if it does not end with a blank.  What is
below starts as the other blocks do, or with a line feed. -/
theorem exists_page_eq {d : Document} {front rest : List Block} (h : blocks d = front ++ rest)
    (hrest : rest ≠ [])
    (hlast : ∃ c ∈ (joined "\n" (front.map Block.render)).toList.getLast?,
      Text.isBlank c = false) :
    ∃ below, page d = joined "\n" (front.map Block.render) ++ "\n" ++ below ∧
      ∀ c ∈ below.toList.head?,
        c = '\n' ∨ (joined "\n" (rest.map Block.render)).toList.head? = some c := by
  have hfront : front ≠ [] := by
    rintro rfl
    obtain ⟨c, hc, -⟩ := hlast
    simp [joined] at hc
  have hhead : ∃ c ∈ (joined "\n" (front.map Block.render)).toList.head?,
      Text.isBlank c = false := by
    obtain ⟨b, bs, rfl⟩ := List.exists_cons_of_ne_nil hfront
    have hb : b.isHeading = true := startsWithHeading_blocks d b (by rw [h]; rfl)
    refine ⟨'#', ?_, by decide⟩
    rw [List.map_cons, head?_joined, Block.head?_render hb]
    rfl
  have htext : (joined "\n" ((blocks d).map Block.render)).toList =
      (joined "\n" (front.map Block.render)).toList ++
        '\n' :: (joined "\n" (rest.map Block.render)).toList := by
    rw [h, List.map_append, joined, String.intercalate_append_of_ne_nil (by simpa using hfront)
      (by simpa using hrest)]
    simp [joined]
  have htrim : (Text.trim (joined "\n" ((blocks d).map Block.render))).toList =
      (joined "\n" (front.map Block.render)).toList ++
        List.rdropWhile Text.isBlank
          ('\n' :: (joined "\n" (rest.map Block.render)).toList) := by
    rw [Text.toList_trim, htext, strip_append hhead hlast]
  -- If nothing but blanks follows the front, only the page's final line feed is below it.
  obtain hnone | ⟨kept, hkept, hbegins⟩ := List.prefix_cons_iff.1
    (List.rdropWhile_prefix Text.isBlank
      ('\n' :: (joined "\n" (rest.map Block.render)).toList))
  · refine ⟨"", ?_, by simp⟩
    rw [hnone] at htrim
    rw [page, ← String.toList_inj, String.toList_append, htrim]
    simp
  · refine ⟨String.ofList kept ++ "\n", ?_, ?_⟩
    · rw [hkept] at htrim
      rw [page, ← String.toList_inj, String.toList_append, htrim]
      simp
    · intro c hc
      obtain ⟨more, hmore⟩ := hbegins
      rw [← hmore]
      cases kept with
      | nil => exact .inl (by simpa using hc.symm)
      | cons x xs => exact .inr (by simpa using hc)

end Docdown.Markdown
