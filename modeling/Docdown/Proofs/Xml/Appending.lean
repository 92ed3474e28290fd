import Docdown.Proofs.Xml.Effects
import Docdown.Proofs.Xml.Reading.Tags

/-!
# Docdown.Proofs.Xml.Appending

What may follow a document.  Once a text is accepted its tree is fixed: with more
text after it the same root element comes out or none at all (`parse_append`).
`Scanner.Accepts` is what holds of the scanner where a text may end; of the three
checks that keep the tree as it is each has its own case in the theorem.
-/

namespace Docdown.Xml

open Spelling

namespace Scanner

/-- The scanner has read a text that may end here, with the given root element. -/
structure Accepts (s : Scanner) (e : Element) : Prop where
  mode : s.mode = .content
  frames : s.tree.frames = []
  root? : s.tree.root? = some e
  tooLong? : s.tooLong? = none

/-- In text nothing but the document type can be unfinished. -/
theorem pieceLength_le {s : Scanner} (hs : s.mode = .content) (p : Piece) :
    s.pieceLength p ≤ s.doctype.length := by
  have hunfinished : s.mode.unfinished = [] := by rw [hs]; rfl
  unfold pieceLength
  split
  · next hdoctype => rw [hdoctype]; exact Nat.le_refl _
  · exact Nat.zero_le _
  · rw [hunfinished]
    exact Nat.zero_le _

theorem tooLong?_eq_none {s : Scanner} (hs : s.mode = .content)
    (hlength : s.doctype.length ≤ pieceLimit) : s.tooLong? = none := by
  rw [tooLong?, List.find?_eq_none]
  intro p hp
  have hpiece := s.pieceLength_le hs p
  rw [decide_eq_true_iff]
  omega

variable {s : Scanner} {e : Element}

namespace Accepts

theorem isComplete (h : s.Accepts e) : s.tree.isComplete = true :=
  Builder.isComplete_iff.2 ⟨h.frames, e, h.root?⟩

theorem isInside (h : s.Accepts e) : s.tree.isInside = false := by
  rw [Builder.isInside, h.frames]
  rfl

theorem finish (h : s.Accepts e) (n : Nat) : s.finish n = .ok e :=
  finish_eq_ok_iff.2 ⟨Or.inr h.tooLong?, h.frames, by rw [h.mode]; rfl, h.root?⟩

/-- Blanks change nothing. -/
theorem read_of_isSpace (h : s.Accepts e) (c : Char) (hc : isSpace c = true) :
    s.read c = .ok s := by
  have hlt : c ≠ '<' := isSpace_ne hc (by decide)
  rw [read, h.mode]
  simp [readContent, hlt, h.isInside, hc]

/-- Text is refused. -/
theorem read_of_ne (h : s.Accepts e) {c : Char} (hc : isSpace c = false) (hlt : c ≠ '<') :
    s.read c = .error .textOutsideRoot := by
  rw [read, h.mode]
  simp [readContent, hlt, h.isInside, hc]

theorem read_lt (h : s.Accepts e) : s.read '<' = .ok (s.inMode .markup) := by
  rw [read, h.mode]
  rfl

/-- A further tag is refused. -/
theorem openTag_flush (h : s.Accepts e) (t : Tag) :
    s.flush.openTag t = .error (.secondRoot t.name) := by
  have htree : s.flush.tree = s.tree := s.grows_flush.eq_of_isComplete h.isComplete
  have hfault : s.tree.fault? (.startTag t.name t.attributes) = some (.secondRoot t.name) := by
    rw [Builder.fault?, h.isInside, h.root?]
    rfl
  rw [openTag, emit, Builder.accept, htree, hfault]
  rfl

/-- The tag is refused where it ends. -/
theorem readAll_startTag (h : s.Accepts e) (g : StartTag) {close : List Char}
    (hclose : close = ['>'] ∨ close = ['/', '>']) (rest : List Char) :
    s.readAll (g.text ++ (close ++ rest)) = .error (.secondRoot g.name.text) := by
  have hopen : s.flush.openTag g.tag = .error (.secondRoot g.name.text) := h.openTag_flush g.tag
  rw [StartTag.text, List.cons_append, readAll_cons_ok h.read_lt]
  rcases hclose with rfl | rfl
  · have hgt : (s.flush.inMode (.tag g.tag)).read '>' = .error (.secondRoot g.name.text) := by
      show ((s.flush.inMode (.tag g.tag)).openTag g.tag) = _
      rw [openTag_inMode, hopen]
    rw [List.singleton_append, Scanner.readAll_startTag s g (Or.inl rfl), readAll_cons_error hgt]
  · have hslash : (s.flush.inMode (.tag g.tag)).read '/' =
        .ok (s.flush.inMode (.emptyTag g.tag)) := rfl
    have hgt : (s.flush.inMode (.emptyTag g.tag)).read '>' =
        .error (.secondRoot g.name.text) := by
      rw [read, mode_inMode]
      simp only [readEmptyTag, openTag_inMode, hopen, if_true]
    rw [List.cons_append, List.singleton_append, Scanner.readAll_startTag s g (Or.inr rfl),
      readAll_cons_ok hslash, readAll_cons_error hgt]

end Accepts

end Scanner

/-- Where a text is accepted it may end, whatever its prolog. -/
theorem exists_accepts_of_parse {t : String} {e : Element} (h : parse t = .ok e) :
    ∃ s : Scanner, ({} : Scanner).readAll t.toList = .ok s ∧ s.Accepts e := by
  obtain ⟨s, hread, hfinish⟩ := parse_eq_ok_iff.1 h
  obtain ⟨hlength, hframes, hresting, hroot⟩ := Scanner.finish_eq_ok_iff.1 hfinish
  have hearly : s.mode.isEarly = false := by
    cases he : s.mode.isEarly with
    | false => rfl
    | true => rw [Scanner.root?_of_isEarly hread he] at hroot; contradiction
  have hmode : s.mode = .content := by
    cases hm : s.mode <;> rw [hm] at hresting hearly <;> first | rfl | contradiction
  refine ⟨s, hread, hmode, hframes, hroot, ?_⟩
  rcases hlength with hlength | hlength
  · have hcounted : s.doctype.length + s.mode.pending ≤ 0 + Text.unitLength t.toList :=
      Scanner.counted_readAll hread
    exact Scanner.tooLong?_eq_none hmode (by omega)
  · exact hlength

/-! ## what is reported -/

namespace Problem

/-- A report begins with the fault in words. -/
theorem exists_cause? {p : Problem} (h : p.fault ≠ .noRoot) :
    ∃ more, p.cause? = some (p.fault.reason ++ more) := by
  rw [cause?, if_neg h, report]
  cases p.fault.isPlaced with
  | true =>
    refine ⟨"\nLine: " ++ toString p.place.line ++ "\nColumn: " ++ toString p.place.column ++
      "\nChar: " ++ charText p.char, ?_⟩
    simp only [if_true, String.append_assoc]
  | false => exact ⟨"", by simp⟩

/-- Without a place it is the fault in words. -/
theorem cause?_of_isPlaced {p : Problem} (h : p.fault ≠ .noRoot) (hp : p.fault.isPlaced = false) :
    p.cause? = some p.fault.reason := by
  rw [cause?, if_neg h, report, hp]
  rfl

end Problem

/-! ## the text goes on -/

/-- Reading goes on where the accepted text ended. -/
theorem Scanner.Accepts.readAll_append {s : Scanner} {t : String} {e : Element}
    (hread : ({} : Scanner).readAll t.toList = .ok s) (h : s.Accepts e) (b : Blanks) {q : String}
    {rest : List Char} (hq : q.toList = b.chars ++ rest) :
    ({} : Scanner).readAll (t ++ q).toList = s.readAll rest := by
  rw [String.toList_append, Scanner.readAll_append, hread, hq]
  exact readAll_blanks h.read_of_isSpace b rest

section

variable {t q : String} {e : Element}

/-- No other root element comes out. -/
theorem eq_of_parse_append {e' : Element} (h : parse t = .ok e)
    (h' : parse (t ++ q) = .ok e') : e' = e := by
  obtain ⟨s, hread, hs⟩ := exists_accepts_of_parse h
  obtain ⟨s', hread', hs'⟩ := exists_accepts_of_parse h'
  rw [hs.readAll_append hread .none rfl] at hread'
  have hgrows : s.tree.Grows s'.tree := Scanner.grows_readAll hread'
  have htree : s'.tree = s.tree := hgrows.eq_of_isComplete hs.isComplete
  have hroot : some e' = some e := by rw [← hs'.root?, htree, hs.root?]
  exact Option.some.inj hroot

/-- Blanks may follow. -/
theorem parse_append_blanks (h : parse t = .ok e) (hq : ∀ c ∈ q.toList, isSpace c = true) :
    parse (t ++ q) = .ok e := by
  obtain ⟨s, hread, hs⟩ := exists_accepts_of_parse h
  have hend := hs.readAll_append hread ⟨q.toList, hq⟩ (List.append_nil _).symm
  exact parse_eq_ok_iff.2 ⟨s, hend, hs.finish _⟩

/-- Text may not follow. -/
theorem exists_parse_append_text (h : parse t = .ok e) {c : Char}
    (hq : q.toList.find? (fun c => !isSpace c) = some c) (hlt : c ≠ '<') :
    ∃ p, parse (t ++ q) = .error p ∧ p.fault = .textOutsideRoot := by
  obtain ⟨s, hread, hs⟩ := exists_accepts_of_parse h
  obtain ⟨hc, before, rest, hsplit, hbefore⟩ := List.find?_eq_some_iff_append.1 hq
  have hspace : isSpace c = false := by simpa using hc
  have hblanks : ∀ d ∈ before, isSpace d = true := fun d hd => by simpa using hbefore d hd
  have hfault : ({} : Scanner).readAll (t ++ q).toList = .error .textOutsideRoot := by
    rw [hs.readAll_append hread ⟨before, hblanks⟩ hsplit]
    exact Scanner.readAll_cons_error (hs.read_of_ne hspace hlt) rest
  exact exists_parse_eq_error hfault

/-- A tag may not follow. -/
theorem exists_parse_append_startTag (h : parse t = .ok e) {b : Blanks} {g : StartTag}
    {close rest : List Char} (hclose : close = ['>'] ∨ close = ['/', '>'])
    (hq : q.toList = b.chars ++ (g.text ++ (close ++ rest))) :
    ∃ p, parse (t ++ q) = .error p ∧ p.fault = .secondRoot g.name.text := by
  obtain ⟨s, hread, hs⟩ := exists_accepts_of_parse h
  have hfault : ({} : Scanner).readAll (t ++ q).toList = .error (.secondRoot g.name.text) := by
    rw [hs.readAll_append hread b hq]
    exact hs.readAll_startTag g hclose rest
  exact exists_parse_eq_error hfault

end

/-- **The tree is frozen once the root element is closed.**  More text after an
accepted one leaves the root element or makes the text malformed.  Blanks leave it;
anything else that does not begin with `<` is reported as text outside of the root
element, and a complete opening tag as a second root, whatever follows. -/
theorem parse_append {t : String} {e : Element} (h : parse t = .ok e) (q : String) :
    ((∃ p, parse (t ++ q) = .error p) ∨ parse (t ++ q) = .ok e) ∧
    ((∀ c ∈ q.toList, isSpace c = true) → parse (t ++ q) = .ok e) ∧
    (∀ c, q.toList.find? (fun c => !isSpace c) = some c → c ≠ '<' →
      ∃ p more, parse (t ++ q) = .error p ∧
        p.cause? = some ("Text data outside of root node." ++ more)) ∧
    (∀ (b : Blanks) (g : StartTag) (close rest : List Char), close = ['>'] ∨ close = ['/', '>'] →
      q.toList = b.chars ++ (g.text ++ (close ++ rest)) →
      ∃ p, parse (t ++ q) = .error p ∧
        p.cause? =
          some ("Unexpected element <" ++ g.name.text ++ "> after the root element.")) := by
  refine ⟨?_, parse_append_blanks h, ?_, ?_⟩
  · cases hparse : parse (t ++ q) with
    | error p => exact Or.inl ⟨p, rfl⟩
    | ok e' =>
      rw [eq_of_parse_append h hparse]
      exact Or.inr rfl
  · intro c hc hlt
    obtain ⟨p, hp, hfault⟩ := exists_parse_append_text h hc hlt
    obtain ⟨more, hmore⟩ := p.exists_cause? (by rw [hfault]; decide)
    refine ⟨p, more, hp, ?_⟩
    rw [hmore, hfault]
    rfl
  · intro b g close rest hclose hq
    obtain ⟨p, hp, hfault⟩ := exists_parse_append_startTag h hclose hq
    have hplace : p.fault.isPlaced = false := by rw [hfault]; rfl
    refine ⟨p, hp, ?_⟩
    rw [p.cause?_of_isPlaced (by rw [hfault]; simp) hplace, hfault]
    rfl

/-- The root element may be closed inside of a document type that is left
unfinished. -/
theorem parse_append_unfinished_doctype :
    parse "<!DOCTYPE a [<a/>" = .ok ⟨"a", [], .nil⟩ ∧
      ∃ p, parse ("<!DOCTYPE a [<a/>" ++ "\n<b k=''>x") = .error p ∧
        p.cause? = some "Unexpected element <b> after the root element." := by
  have haccepted : parse "<!DOCTYPE a [<a/>" = .ok ⟨"a", [], .nil⟩ := by rfl
  let k : Assignment := ⟨Blanks.none.push ' ' rfl, by decide, ⟨['k'], by decide⟩, .none, .none,
    .single, []⟩
  let b : StartTag := ⟨.none, ⟨['b'], by decide⟩, [k], .none, by decide⟩
  obtain ⟨-, -, -, hsecond⟩ := parse_append haccepted "\n<b k=''>x"
  exact ⟨haccepted, hsecond (Blanks.none.push '\n' rfl) b ['>'] ['x'] (Or.inl rfl) (by decide)⟩

end Docdown.Xml
