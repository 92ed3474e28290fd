import Docdown.Proofs.Xml.Reading.Attributes

/-!
# Docdown.Proofs.Xml.Reading.Tags

What a scanner makes of tags, from the character after their `<`:

* `readAll_startTag` -- an opening tag, up to the `>` or the `/` that ends it;
* `exists_readAll_endTag` -- a closing tag, up to its `>`.
-/

namespace Docdown.Xml.Scanner

open Spelling

/-! ## tags -/

theorem read_markup_of_isSpace (s : Scanner) (c : Char) (hc : isSpace c = true) :
    (s.inMode .markup).read c = .ok (s.inMode .markup) := by
  simp [read, readMarkup, hc]

/-- The name of an opening tag. -/
theorem readAll_tagName (s : Scanner) (lead : Blanks) (n : Name) (rest : List Char) :
    (s.inMode .markup).readAll (lead.chars ++ (n.chars ++ rest)) =
      (s.inMode (.tagName n.chars.reverse)).readAll rest := by
  obtain ⟨d, ds, hname, hd, hds⟩ := exists_of_isName n.isName
  have hfirst : (s.inMode .markup).read d = .ok (s.inMode (.tagName [d])) := by
    have h1 : d ≠ '!' := isNameStart_ne hd (by decide)
    have h2 : d ≠ '/' := isNameStart_ne hd (by decide)
    have h3 : d ≠ '?' := isNameStart_ne hd (by decide)
    simp [read, readMarkup, isSpace_of_isNameStart hd, h1, h2, h3, hd]
  have hcollect := readAll_collect (s := s) (k := .tagName)
    (p := fun c => isNameChar c = true)
    (fun c cs hc => by simp [read, readTagName, hc]) ds hds [d]
  rw [readAll_blanks s.read_markup_of_isSpace lead, hname, List.reverse_cons, List.cons_append,
    readAll_cons_ok hfirst, hcollect]

/-- What ends the name of an opening tag is read as after an attribute. -/
theorem read_tagName (s : Scanner) (n : Name) {c : Char}
    (hc : isSpace c = true ∨ c = '>' ∨ c = '/') :
    (s.inMode (.tagName n.chars.reverse)).read c =
      (s.flush.inMode (.afterValue ⟨n.text, []⟩)).read c := by
  rcases hc with hc | rfl | rfl
  · have hn : isNameChar c = false := isNameChar_of_isSpace hc
    have hgt : c ≠ '>' := isSpace_ne hc (by decide)
    have hslash : c ≠ '/' := isSpace_ne hc (by decide)
    simp [read, readTagName, readAfterValue, hn, hgt, hslash, hc, flush_inMode, Name.text]
  · have hn : isNameChar '>' = false := by decide
    have hs : isSpace '>' = false := by decide
    simp [read, readTagName, readAfterValue, hn, hs, flush_inMode, openTag_inMode, Name.text]
  · have hn : isNameChar '/' = false := by decide
    have hs : isSpace '/' = false := by decide
    simp [read, readTagName, readAfterValue, hn, hs, flush_inMode, Name.text]

/-- The attributes of a tag begin with a blank, if there are any. -/
theorem exists_flatMap_assignments (as : List Assignment) {d : Char}
    (hd : isSpace d = true ∨ d = '>' ∨ d = '/') (rest : List Char) :
    ∃ c cs, as.flatMap Assignment.text ++ d :: rest = c :: cs ∧
      (isSpace c = true ∨ c = '>' ∨ c = '/') := by
  cases as with
  | nil => exact ⟨d, rest, rfl, hd⟩
  | cons a as =>
    obtain ⟨c, cs, hgap⟩ := List.exists_cons_of_ne_nil a.gap_ne_nil
    have hc : isSpace c = true := a.gap.all_isSpace c (by rw [hgap]; exact List.mem_cons_self)
    rw [List.flatMap_cons, Assignment.text, hgap]
    exact ⟨c, _, rfl, Or.inl hc⟩

/-- An opening tag, up to the `>` or the `/` that ends it.  The text before the
tag ends with it. -/
theorem readAll_startTag (s : Scanner) (g : StartTag) {d : Char} (hd : d = '>' ∨ d = '/')
    (rest : List Char) :
    (s.inMode .markup).readAll (g.inner ++ d :: rest) =
      (s.flush.inMode (.tag g.tag)).readAll (d :: rest) := by
  have hgap : ∀ c, isSpace c = true →
      (s.flush.inMode (.afterValue g.tag)).read c = .ok (s.flush.inMode (.tag g.tag)) := by
    intro c hc
    simp [read, readAfterValue, hc]
  have hmore : ∀ c, isSpace c = true →
      (s.flush.inMode (.tag g.tag)).read c = .ok (s.flush.inMode (.tag g.tag)) := by
    intro c hc
    simp [read, readTag, hc]
  have hsame : (s.flush.inMode (.afterValue g.tag)).read d =
      (s.flush.inMode (.tag g.tag)).read d := by
    rcases hd with rfl | rfl
    · simp [read, readAfterValue, readTag, openTag_inMode]
    · simp [read, readAfterValue, readTag]
  have hstart : ∃ x xs, g.tail.chars ++ d :: rest = x :: xs ∧
      (isSpace x = true ∨ x = '>' ∨ x = '/') := by
    cases ht : g.tail.chars with
    | nil => exact ⟨d, rest, rfl, Or.inr hd⟩
    | cons x xs =>
      exact ⟨x, _, rfl, Or.inl (g.tail.all_isSpace x (by rw [ht]; exact List.mem_cons_self))⟩
  obtain ⟨x, xs, htail, hx⟩ := hstart
  obtain ⟨c, cs, hcs, hc⟩ := exists_flatMap_assignments g.assignments hx xs
  simp only [StartTag.inner, List.append_assoc]
  rw [readAll_tagName, htail, hcs, readAll, read_tagName s g.name hc, ← readAll, ← hcs,
    readAll_assignments s.flush g.assignments g.addAll_eq_ok, ← htail,
    readAll_gap_or_not hgap hmore g.tail hsame]

theorem read_endTag_gt (s : Scanner) (n : Name) :
    (s.inMode (.endTag n.chars.reverse)).read '>' = s.closeTag n.text := by
  obtain ⟨d, ds, hname, -, -⟩ := exists_of_isName n.isName
  have hne : n.chars.reverse.isEmpty = false := by simp [hname]
  simp [read, readEndTag, hne, closeTag_inMode, Name.text, -List.isEmpty_reverse]

theorem read_afterEndTagName_gt (s : Scanner) (n : Name) :
    (s.inMode (.afterEndTagName n.chars.reverse)).read '>' = s.closeTag n.text := by
  have hs : isSpace '>' = false := by decide
  simp [read, readAfterEndTagName, hs, closeTag_inMode, Name.text]

/-- A closing tag, up to its `>`, at which the innermost open element is closed. -/
theorem exists_readAll_endTag (s : Scanner) (e : EndTag) (n : Name) :
    ∃ m, (∀ rest, (s.inMode .markup).readAll (e.inner n ++ rest) = (s.inMode m).readAll rest) ∧
      (s.inMode m).read '>' = s.closeTag n.text := by
  obtain ⟨d, ds, hname, hd, hds⟩ := exists_of_isName n.isName
  have hslash : (s.inMode .markup).read '/' = .ok (s.inMode (.endTag [])) := by
    have hs : isSpace '/' = false := by decide
    simp [read, readMarkup, hs]
  have hspace : ∀ c, isSpace c = true →
      (s.inMode (.endTag [])).read c = .ok (s.inMode (.endTag [])) := by
    intro c hc
    simp [read, readEndTag, hc]
  have hfirst : (s.inMode (.endTag [])).read d = .ok (s.inMode (.endTag [d])) := by
    simp [read, readEndTag, isSpace_of_isNameStart hd, hd]
  have hcollect := readAll_collect (s := s) (k := fun cs => .endTag (cs ++ [d]))
    (p := fun c => isNameChar c = true)
    (fun c cs hc => by
      have hgt : c ≠ '>' := isNameChar_ne hc (by decide)
      simp [read, readEndTag, hgt, hc]) ds hds []
  have hafter : ∀ c, isSpace c = true → (s.inMode (.endTag n.chars.reverse)).read c =
      .ok (s.inMode (.afterEndTagName n.chars.reverse)) := by
    intro c hc
    have hgt : c ≠ '>' := isSpace_ne hc (by decide)
    have hne : n.chars.reverse.isEmpty = false := by simp [hname]
    simp [read, readEndTag, hne, hgt, isNameChar_of_isSpace hc, hc, -List.isEmpty_reverse]
  have hmore : ∀ c, isSpace c = true → (s.inMode (.afterEndTagName n.chars.reverse)).read c =
      .ok (s.inMode (.afterEndTagName n.chars.reverse)) := by
    intro c hc
    simp [read, readAfterEndTagName, hc]
  have hinner : ∀ rest, (s.inMode .markup).readAll (e.inner n ++ rest) =
      (s.inMode (.endTag n.chars.reverse)).readAll (e.tail.chars ++ rest) := by
    intro rest
    simp only [List.append_nil, List.nil_append] at hcollect
    simp only [EndTag.inner, List.append_assoc, List.cons_append]
    rw [readAll_blanks s.read_markup_of_isSpace e.lead, readAll_cons_ok hslash,
      readAll_blanks hspace e.afterSlash, hname, List.reverse_cons, List.cons_append,
      readAll_cons_ok hfirst, hcollect]
  by_cases htail : e.tail.chars = []
  · refine ⟨.endTag n.chars.reverse, fun rest => ?_, read_endTag_gt s n⟩
    rw [hinner, htail, List.nil_append]
  · refine ⟨.afterEndTagName n.chars.reverse, fun rest => ?_, read_afterEndTagName_gt s n⟩
    rw [hinner, readAll_gap hafter hmore e.tail htail]

end Docdown.Xml.Scanner
