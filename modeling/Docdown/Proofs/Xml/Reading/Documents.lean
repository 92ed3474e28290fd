import Docdown.Proofs.Xml.Gathering
import Docdown.Proofs.Xml.Reading.Asides

/-!
# Docdown.Proofs.Xml.Reading.Documents

What a scanner makes of whole documents.  `Scanner.inside` is a scanner in the
content of an open element and `Scanner.outside` one that is in none; opening and
closing tags lead from one to the other.  `readAll_markup` takes the content of
an element in prefix form, `exists_readAll_root` the root element, and
`exists_readAll_document` a document from its first character to its last.
-/

namespace Docdown.Xml.Scanner

open Spelling

/-! ## inside and outside of elements -/

/-- A scanner in the content of an element, of which something was gathered, with
other open elements around it. -/
def inside (t : Tag) (g : Gathered) (around : List Frame) : Scanner where
  mode := .content
  run := g.run
  tree := ⟨none, ⟨t.name, t.attributes, g.nodes⟩ :: around⟩

/-- A scanner in no element, before or after the root element. -/
def outside (m : Mode) (root? : Option Element) : Scanner where
  mode := m
  tree := ⟨root?, []⟩

theorem flush_inside (t : Tag) (g : Gathered) (fs : List Frame) :
    (inside t g fs).flush = inside t g.flush fs := by
  by_cases hrun : g.run.isEmpty = true
  · simp [flush, Gathered.flush, inside, hrun]
  · simp [flush, Gathered.flush, inside, hrun, Builder.apply, Builder.add]

/-- Flushing leaves pieces only. -/
theorem flush_inside_eq (t : Tag) (g : Gathered) (fs : List Frame) :
    (inside t g fs).flush = inside t ⟨[], g.flush.nodes⟩ fs := by
  rw [flush_inside, ← g.run_flush]

@[simp] theorem flush_outside (m : Mode) (root? : Option Element) :
    (outside m root?).flush = outside m root? := rfl

theorem inMode_content_inside (t : Tag) (g : Gathered) (fs : List Frame) :
    (inside t g fs).inMode .content = inside t g fs := rfl

theorem read_inside_lt (t : Tag) (g : Gathered) (fs : List Frame) :
    (inside t g fs).read '<' = .ok ((inside t g fs).inMode .markup) := rfl

/-- A tag inside an element opens a further one. -/
theorem openTag_inside (t t' : Tag) (ns : List Node) (fs : List Frame) :
    (inside t ⟨[], ns⟩ fs).openTag t' =
      .ok (inside t' {} (⟨t.name, t.attributes, ns⟩ :: fs)) := rfl

/-- The first tag opens the root element. -/
theorem openTag_outside (m : Mode) (t : Tag) :
    (outside m none).openTag t = .ok (inside t {} []) := rfl

/-- A closing tag makes the open element a piece of the one around it. -/
theorem closeTag_inside (t t' : Tag) (g : Gathered) (ns : List Node) (fs : List Frame) :
    (inside t' g (⟨t.name, t.attributes, ns⟩ :: fs)).closeTag t'.name =
      .ok (inside t ⟨[], .element ⟨t'.name, t'.attributes, g.content⟩ :: ns⟩ fs) := by
  have hframes : (inside t' g (⟨t.name, t.attributes, ns⟩ :: fs)).tree.frames =
      ⟨t'.name, t'.attributes, g.nodes⟩ :: ⟨t.name, t.attributes, ns⟩ :: fs := rfl
  rw [closeTag, hframes, flush_inside]
  simp only [if_true]
  simp [emit, Builder.accept, Builder.fault?, Builder.apply, Builder.add, inside, inMode,
    Except.map, Frame.element, Gathered.content]

/-- The last closing tag makes the open element the root. -/
theorem closeTag_root (t : Tag) (g : Gathered) :
    (inside t g []).closeTag t.name =
      .ok (outside .content (some ⟨t.name, t.attributes, g.content⟩)) := by
  have hframes : (inside t g []).tree.frames = [⟨t.name, t.attributes, g.nodes⟩] := rfl
  rw [closeTag, hframes, flush_inside]
  simp only [if_true]
  simp [emit, Builder.accept, Builder.fault?, Builder.apply, Builder.add, inside, outside, inMode,
    Except.map, Frame.element, Gathered.content]

/-! ## asides -/

theorem readAll_aside {s : Scanner} (hs : s.doctype.isOpen = false)
    (hlt : s.read '<' = .ok (s.inMode .markup)) (a : Aside) (rest : List Char) :
    s.readAll (a.text ++ rest) =
      ((if a.separates then s.flush else s).inMode .content).readAll rest := by
  cases a with
  | comment lead body hbody hlast =>
    simp only [Aside.text, List.append_assoc, List.cons_append, List.nil_append]
    rw [readAll_cons_ok hlt, readAll_comment hs lead hbody hlast]
    cases hb : body.isEmpty <;> simp [Aside.separates, hb]
  | instruction lead body hbody =>
    simp only [Aside.text, List.append_assoc, List.cons_append, List.nil_append]
    rw [readAll_cons_ok hlt, readAll_instruction s lead hbody]
    rfl

/-! ## content -/

/-- One character of text. -/
theorem readAll_char (t : Tag) (g : Gathered) (fs : List Frame) (w : Written '<')
    (rest : List Char) :
    (inside t g fs).readAll (w.text ++ rest) = (inside t (g.push w.char) fs).readAll rest := by
  cases w with
  | plain c h =>
    have hc : (inside t g fs).read c = .ok (inside t (g.push c) fs) := by
      simp [read, inside, readContent, h.1, h.2, Builder.isInside, Gathered.push]
    rw [Written.text, List.singleton_append, readAll_cons_ok hc]
    rfl
  | reference r =>
    have hc : (inside t g fs).read '&' = .ok ((inside t g fs).inMode (.textEntity [])) := rfl
    have hk : ∀ e c, ((inside t g fs).inMode (.textEntity e)).read c =
        (readEntity e c).map (Sum.elim (fun e => (inside t g fs).inMode (.textEntity e))
          fun d => inside t (g.push d) fs) := by
      intro e c
      show (readEntity e c).map _ = _
      cases readEntity e c with
      | error f => rfl
      | ok x => cases x <;> rfl
    rw [Written.text, Reference.text_append, readAll_cons_ok hc, readAll_reference hk]
    rfl

/-- An empty element written with one tag, in any element. -/
theorem readAll_emptyTag (t : Tag) (g : Gathered) (fs : List Frame) (tag : StartTag)
    (rest : List Char) :
    (inside t g fs).readAll (tag.text ++ '/' :: '>' :: rest) =
      (inside t (g.put (.element ⟨tag.name.text, tag.attributes, .nil⟩)) fs).readAll rest := by
  have hslash : ((inside t ⟨[], g.flush.nodes⟩ fs).inMode (.tag tag.tag)).read '/' =
      .ok ((inside t ⟨[], g.flush.nodes⟩ fs).inMode (.emptyTag tag.tag)) := rfl
  have hgt : ((inside t ⟨[], g.flush.nodes⟩ fs).inMode (.emptyTag tag.tag)).read '>' =
      .ok (inside t (g.put (.element ⟨tag.name.text, tag.attributes, .nil⟩)) fs) := rfl
  rw [StartTag.text, List.cons_append, readAll_cons_ok (read_inside_lt t g fs),
    readAll_startTag _ tag (Or.inr rfl), flush_inside_eq, readAll_cons_ok hslash,
    readAll_cons_ok hgt]

/-- The content of an element: what it adds to what was gathered before. -/
theorem readAll_markup (m : Markup) (t : Tag) (g : Gathered) (fs : List Frame)
    (rest : List Char) :
    (inside t g fs).readAll (m.text ++ rest) = (inside t (m.gather g) fs).readAll rest := by
  induction m generalizing t g fs rest with
  | nil => rfl
  | char w r ih => rw [Markup.text, List.append_assoc, readAll_char, ih]; rfl
  | cdata lead body h r ih =>
    have hs' : (if body.isEmpty then .ok ((inside t g fs).flush.inMode .content)
        else ((inside t g fs).flush.inMode .content).emit (.text (String.ofList body))) =
        .ok (inside t (if body.isEmpty then g.flush
          else g.put (.text (String.ofList body))) fs) := by
      cases hb : body.isEmpty with
      | true => simp [flush_inside, inMode_content_inside]
      | false => simp only [flush_inside_eq]; rfl
    simp only [Markup.text, List.append_assoc, List.cons_append, List.nil_append]
    rw [readAll_cons_ok (read_inside_lt t g fs), readAll_cdata rfl lead h hs', ih]
    rfl
  | aside a r ih =>
    have ha : (if a.separates then (inside t g fs).flush else inside t g fs).inMode .content =
        inside t (if a.separates then g.flush else g) fs := by
      cases a.separates with
      | true => simp only [if_true, flush_inside, inMode_content_inside]
      | false => rfl
    rw [Markup.text, List.append_assoc, readAll_aside rfl (read_inside_lt t g fs), ha, ih]
    rfl
  | empty tag r ih =>
    simp only [Markup.text, List.append_assoc, List.cons_append]
    rw [readAll_emptyTag, ih]
    rfl
  | element tag inner close r ihinner ih =>
    have hgt : ((inside t ⟨[], g.flush.nodes⟩ fs).inMode (.tag tag.tag)).read '>' =
        .ok (inside tag.tag {} (⟨t.name, t.attributes, g.flush.nodes⟩ :: fs)) := rfl
    obtain ⟨m, hinner, hclose⟩ := exists_readAll_endTag
      (inside tag.tag (inner.gather {}) (⟨t.name, t.attributes, g.flush.nodes⟩ :: fs))
      close tag.name
    have hclosed := hclose.trans (closeTag_inside t tag.tag (inner.gather {}) g.flush.nodes fs)
    simp only [Markup.text, StartTag.text, EndTag.text, List.append_assoc, List.cons_append,
      List.nil_append]
    rw [readAll_cons_ok (read_inside_lt t g fs), readAll_startTag _ tag (Or.inl rfl),
      flush_inside_eq, readAll_cons_ok hgt, ihinner, readAll_cons_ok (read_inside_lt _ _ _), hinner,
      readAll_cons_ok hclosed]
    exact ih t _ fs rest

end Docdown.Xml.Scanner

/-! ## documents -/

namespace Docdown.Xml.Spelling

/-- The root element with the runs that reading it gives. -/
def Root.gathered : Root → Element
  | .empty tag => ⟨tag.name.text, tag.attributes, .nil⟩
  | .element tag inner _ => ⟨tag.name.text, tag.attributes, (inner.gather {}).content⟩

/-- What is gathered is what is written, but for the cuts. -/
theorem Root.merge_gathered (r : Root) : r.gathered.merge = r.tree.merge := by
  cases r with
  | empty tag => rfl
  | element tag inner close =>
    rw [gathered, Element.merge, inner.merge_content_gather]
    rfl

theorem Root.gathered_of_isPlain {r : Root} (hr : r.isPlain = true) :
    r.gathered = r.tree.merge := by
  cases r with
  | empty tag => rfl
  | element tag inner close =>
    rw [gathered, Markup.content_gather_of_isPlain hr]
    rfl

end Docdown.Xml.Spelling

namespace Docdown.Xml.Scanner

open Spelling

theorem read_outside_lt {m : Mode} (hm : m.isResting = true) (root? : Option Element) :
    (outside m root?).read '<' = .ok ((outside m root?).inMode .markup) := by
  unfold Mode.isResting at hm
  split at hm
  · rfl
  · rfl
  · rfl
  · contradiction

/-- Outside of the root element blanks change at most the mode. -/
theorem exists_readAll_blanks (b : Blanks) {m : Mode} (hm : m.isResting = true)
    (root? : Option Element) :
    ∃ m', m'.isResting = true ∧ ∀ rest,
      (outside m root?).readAll (b.chars ++ rest) = (outside m' root?).readAll rest := by
  have hprolog : ∀ c, isSpace c = true →
      (outside .prolog root?).read c = .ok (outside .prolog root?) := by
    intro c hc
    have hlt : c ≠ '<' := isSpace_ne hc (by decide)
    simp [outside, read, readProlog, hlt, hc, inMode]
  unfold Mode.isResting at hm
  split at hm
  · by_cases hb : b.chars = []
    · exact ⟨.start, rfl, fun rest => by rw [hb]; rfl⟩
    · have hstart : ∀ c, isSpace c = true →
          (outside .start root?).read c = .ok (outside .prolog root?) := by
        intro c hc
        have hlt : c ≠ '<' := isSpace_ne hc (by decide)
        have hmark : c ≠ '\uFEFF' := isSpace_ne hc (by decide)
        simp [outside, read, readProlog, hlt, hmark, hc, inMode]
      exact ⟨.prolog, rfl, readAll_gap hstart hprolog b hb⟩
  · exact ⟨.prolog, rfl, readAll_blanks hprolog b⟩
  · have hcontent : ∀ c, isSpace c = true →
        (outside .content root?).read c = .ok (outside .content root?) := by
      intro c hc
      have hlt : c ≠ '<' := isSpace_ne hc (by decide)
      simp [outside, read, readContent, hlt, hc, Builder.isInside]
    exact ⟨.content, rfl, readAll_blanks hcontent b⟩
  · contradiction

/-- What may stand around the root element changes at most the mode. -/
theorem exists_readAll_miscs (ms : List Misc) {m : Mode} (hm : m.isResting = true)
    (root? : Option Element) :
    ∃ m', m'.isResting = true ∧ ∀ rest,
      (outside m root?).readAll (ms.flatMap Misc.text ++ rest) =
        (outside m' root?).readAll rest := by
  induction ms generalizing m with
  | nil => exact ⟨m, hm, fun rest => rfl⟩
  | cons x ms ih =>
    have hx : ∃ m', m'.isResting = true ∧ ∀ rest,
        (outside m root?).readAll (x.text ++ rest) = (outside m' root?).readAll rest := by
      cases x with
      | blanks b => exact exists_readAll_blanks b hm root?
      | aside a =>
        refine ⟨.content, rfl, fun rest => ?_⟩
        rw [Misc.text, readAll_aside rfl (read_outside_lt hm root?), flush_outside, ite_self]
        rfl
    obtain ⟨m₁, hm₁, hread₁⟩ := hx
    obtain ⟨m₂, hm₂, hread₂⟩ := ih hm₁
    refine ⟨m₂, hm₂, fun rest => ?_⟩
    rw [List.flatMap_cons, List.append_assoc, hread₁, hread₂]

/-- What precedes the root element. -/
theorem exists_readAll_prolog (d : Document) :
    ∃ m, m.isResting = true ∧ ∀ rest,
      ({} : Scanner).readAll (d.prolog ++ rest) = (outside m none).readAll rest := by
  cases hmark : d.mark with
  | false =>
    obtain ⟨m, hm, hread⟩ := exists_readAll_miscs d.before (m := .start) rfl none
    refine ⟨m, hm, fun rest => ?_⟩
    rw [Document.prolog, hmark]
    exact hread rest
  | true =>
    obtain ⟨m, hm, hread⟩ := exists_readAll_miscs d.before (m := .prolog) rfl none
    have hbegin : ({} : Scanner).read '\uFEFF' = .ok (outside .prolog none) := rfl
    refine ⟨m, hm, fun rest => ?_⟩
    rw [Document.prolog, hmark, if_pos rfl, List.append_assoc, List.singleton_append,
      readAll_cons_ok hbegin, hread]

/-- The root element.  There is none before its last character, and with it the
element is complete. -/
theorem exists_readAll_root (r : Root) {m : Mode} (hm : m.isResting = true) :
    ∃ s : Scanner, (∀ rest, (outside m none).readAll (r.front ++ rest) = s.readAll rest) ∧
      s.tree.root? = none ∧ s.read '>' = .ok (outside .content (some r.gathered)) := by
  cases r with
  | empty tag =>
    have hslash : ((outside m none).inMode (.tag tag.tag)).read '/' =
        .ok ((outside m none).inMode (.emptyTag tag.tag)) := rfl
    refine ⟨(outside m none).inMode (.emptyTag tag.tag), fun rest => ?_, rfl, rfl⟩
    rw [Root.front, StartTag.text, List.append_assoc, List.singleton_append, List.cons_append,
      readAll_cons_ok (read_outside_lt hm none), readAll_startTag _ tag (Or.inr rfl),
      flush_outside, readAll_cons_ok hslash]
  | element tag inner close =>
    have hgt : ((outside m none).inMode (.tag tag.tag)).read '>' =
        .ok (inside tag.tag {} []) := rfl
    obtain ⟨m', hinner, hclose⟩ :=
      exists_readAll_endTag (inside tag.tag (inner.gather {}) []) close tag.name
    refine ⟨(inside tag.tag (inner.gather {}) []).inMode m', fun rest => ?_, rfl,
      hclose.trans (closeTag_root tag.tag (inner.gather {}))⟩
    simp only [Root.front, StartTag.text, List.append_assoc, List.cons_append]
    rw [readAll_cons_ok (read_outside_lt hm none), readAll_startTag _ tag (Or.inl rfl),
      flush_outside, readAll_cons_ok hgt, readAll_markup,
      readAll_cons_ok (read_inside_lt _ _ _), hinner]

/-- A whole document leads out of its root element. -/
theorem exists_readAll_document (d : Document) :
    ∃ m, m.isResting = true ∧
      ({} : Scanner).readAll d.text = .ok (outside m (some d.root.gathered)) := by
  obtain ⟨m₁, hm₁, hprolog⟩ := exists_readAll_prolog d
  obtain ⟨s, hfront, -, hgt⟩ := exists_readAll_root d.root hm₁
  obtain ⟨m₂, hm₂, hafter⟩ :=
    exists_readAll_miscs d.after (m := .content) rfl (some d.root.gathered)
  refine ⟨m₂, hm₂, ?_⟩
  have hend := hafter []
  rw [List.append_nil, readAll_nil] at hend
  rw [Document.text, hprolog, Root.text, List.append_assoc, hfront, List.singleton_append,
    readAll_cons_ok hgt, hend]

end Docdown.Xml.Scanner
