import Docdown.Proofs.Xml.Reading.Documents

/-!
# Docdown.Proofs.Xml.Accepting.Spots

The places between two pieces of markup that reading a plain text can come to.  A
`Spot` holds the spelling up to there: the tags that are open, each with the
content it has so far.  `Spot.text` is what was read and `Spot.scanner` the scanner
that has read it.

A tag leads from one spot to another, and whenever the scanner takes the tag there
is such a spot: `exists_spot_openTag`, `exists_spot_emptyTag`,
`exists_spot_closeTag`.
-/

namespace Docdown.Xml.Spelling

/-! ## one more character -/

/-- A name of one character. -/
def Name.single (c : Char) (hc : isNameStart c = true) : Name where
  chars := [c]
  isName := by rw [Spelling.isName, hc]; rfl

/-- A name with one more character. -/
def Name.push (n : Name) (c : Char) (hc : isNameChar c = true) : Name where
  chars := n.chars ++ [c]
  isName := by
    obtain ⟨d, ds, hn, hd, hds⟩ := exists_of_isName n.isName
    rw [hn, List.cons_append, Spelling.isName, hd, List.all_append, List.all_eq_true.2 hds]
    simp [hc]

theorem Name.text_injective {n m : Name} (h : n.text = m.text) : n = m := by
  obtain ⟨cs, hcs⟩ := n
  obtain ⟨ds, hds⟩ := m
  have hchars : cs = ds := String.ofList_injective h
  subst hchars
  rfl

namespace StartTag

/-- A tag with no attributes. -/
def bare (lead : Blanks) (n : Name) : StartTag where
  lead := lead
  name := n
  assignments := []
  tail := .none
  lookup := by simp

theorem text_bare (lead : Blanks) (n : Name) :
    (bare lead n).text = '<' :: (lead.chars ++ n.chars) := by
  simp [bare, text, inner, Blanks.none]

theorem tag_bare (lead : Blanks) (n : Name) : (bare lead n).tag = ⟨n.text, []⟩ := rfl

/-- A tag with one more blank at its end. -/
def pad (g : StartTag) (c : Char) (hc : isSpace c = true) : StartTag :=
  { g with tail := g.tail.push c hc }

theorem text_pad (g : StartTag) (c : Char) (hc : isSpace c = true) :
    (g.pad c hc).text = g.text ++ [c] := by
  simp [pad, text, inner, Blanks.push]

theorem tail_pad_ne_nil (g : StartTag) (c : Char) (hc : isSpace c = true) :
    (g.pad c hc).tail.chars ≠ [] :=
  List.append_ne_nil_of_right_ne_nil _ (List.cons_ne_nil c [])

end StartTag

/-- Every name but `__proto__` counts at its first attribute. -/
theorem mem_map_effective {x : String} (hx : x ≠ "__proto__") {as : List Attribute}
    (h : x ∈ as.map Prod.fst) : x ∈ (effective as).map Prod.fst := by
  induction as with
  | nil => contradiction
  | cons a as ih =>
    rw [effective]
    rcases List.mem_cons.1 h with rfl | h
    · rw [if_neg hx]
      exact List.mem_cons_self
    · obtain ⟨b, hb, rfl⟩ := List.mem_map.1 (ih h)
      by_cases hproto : a.1 = "__proto__"
      · rw [if_pos hproto]
        exact List.mem_map_of_mem hb
      · rw [if_neg hproto]
        by_cases hab : b.1 = a.1
        · rw [hab]
          exact List.mem_cons_self
        · have hkept : b ∈ (effective as).filter fun b => b.1 ≠ a.1 :=
            List.mem_filter.2 ⟨hb, by simpa using hab⟩
          exact List.mem_cons_of_mem _ (List.mem_map_of_mem hkept)

/-! ## open elements -/

/-- An element whose closing tag is still to come, with the content so far. -/
structure OpenElement where
  tag : StartTag
  content : Markup
  isPlain : content.isPlain = true

namespace OpenElement

def text (o : OpenElement) : List Char := o.tag.text ++ '>' :: o.content.text

/-- What the tree being built holds of the element while another one is open
inside it. -/
def frame (o : OpenElement) : Frame :=
  ⟨o.tag.name.text, o.tag.attributes, (o.content.gather {}).flush.nodes⟩

/-- The element with more content. -/
def extend (o : OpenElement) (m : Markup) (hm : m.isPlain = true) : OpenElement where
  tag := o.tag
  content := o.content.append m
  isPlain := by rw [Markup.isPlain_append, o.isPlain, hm]; rfl

theorem text_extend (o : OpenElement) (m : Markup) (hm : m.isPlain = true) :
    (o.extend m hm).text = o.text ++ m.text := by
  rw [text, extend, Markup.text_append, text, List.append_assoc, List.cons_append]

/-- The scanner in the content of the element. -/
def scanner (o : OpenElement) (around : List OpenElement) : Scanner :=
  .inside o.tag.tag (o.content.gather {}) (around.map frame)

theorem scanner_extend (o : OpenElement) (m : Markup) (hm : m.isPlain = true)
    (around : List OpenElement) :
    (o.extend m hm).scanner around =
      .inside o.tag.tag (m.gather (o.content.gather {})) (around.map frame) := by
  rw [scanner, extend, Markup.gather_append]

end OpenElement

/-! ## spots -/

/-- How far the root element has come. -/
inductive Stage where
  | before
  | inside (o : OpenElement) (around : List OpenElement)
  | after (root : Root) (isPlain : root.isPlain = true) (blanks : Blanks)

namespace Stage

def text : Stage → List Char
  | .before => []
  | .inside o around => (o :: around).reverse.flatMap OpenElement.text
  | .after root _ blanks => root.text ++ blanks.chars

def scanner : Stage → Scanner
  | .before => .outside .prolog none
  | .inside o around => o.scanner around
  | .after root _ _ => .outside .content (some root.gathered)

theorem text_inside (o : OpenElement) (around : List OpenElement) :
    text (.inside o around) = around.reverse.flatMap OpenElement.text ++ o.text := by
  simp [text]

/-- What the innermost open element gains the text gains. -/
theorem text_inside_extend (o : OpenElement) (m : Markup) (hm : m.isPlain = true)
    (around : List OpenElement) :
    text (.inside (o.extend m hm) around) = text (.inside o around) ++ m.text := by
  rw [text_inside, text_inside, OpenElement.text_extend, List.append_assoc]

/-- A further open element comes last. -/
theorem text_inside_cons (o o' : OpenElement) (around : List OpenElement) :
    text (.inside o' (o :: around)) = text (.inside o around) ++ o'.text := by
  rw [text_inside]
  rfl

end Stage

/-- A place between two pieces of markup in a plain text. -/
structure Spot where
  mark : Bool
  blanks : Blanks
  stage : Stage

namespace Spot

/-- What was read. -/
def text (p : Spot) : List Char :=
  (if p.mark then ['\uFEFF'] else []) ++ (p.blanks.chars ++ p.stage.text)

/-- The scanner that has read it. -/
def scanner (p : Spot) : Scanner := p.stage.scanner

/-- The spot at another stage. -/
def atStage (p : Spot) (stage : Stage) : Spot := { p with stage := stage }

theorem text_atStage (p : Spot) {stage : Stage} {cs : List Char}
    (h : stage.text = p.stage.text ++ cs) : (p.atStage stage).text = p.text ++ cs := by
  show (if p.mark then ['\uFEFF'] else []) ++ (p.blanks.chars ++ stage.text) = _
  rw [h, text, List.append_assoc, List.append_assoc]

/-- A tag opens an element, unless the root element is complete. -/
theorem exists_openTag {p : Spot} {g : StartTag} {s' : Scanner}
    (h : p.scanner.flush.openTag g.tag = .ok s') :
    ∃ p' : Spot, p'.text = p.text ++ (g.text ++ ['>']) ∧ p'.scanner = s' := by
  obtain ⟨mark, blanks, stage⟩ := p
  cases stage with
  | before =>
    have hs : s' = .inside g.tag {} [] := by
      rw [scanner, Stage.scanner, Scanner.flush_outside, Scanner.openTag_outside] at h
      exact (Except.ok.inj h).symm
    refine ⟨⟨mark, blanks, .inside ⟨g, .nil, rfl⟩ []⟩,
      text_atStage ⟨mark, blanks, .before⟩ ?_, hs.symm⟩
    rw [Stage.text_inside]
    rfl
  | inside o around =>
    rw [scanner, Stage.scanner, OpenElement.scanner, Scanner.flush_inside_eq,
      Scanner.openTag_inside] at h
    refine ⟨⟨mark, blanks, .inside ⟨g, .nil, rfl⟩ (o :: around)⟩,
      text_atStage ⟨mark, blanks, .inside o around⟩ ?_, Except.ok.inj h⟩
    rw [Stage.text_inside_cons]
    rfl
  | after root hroot blanks' => contradiction

/-- A tag written for an empty element makes one. -/
theorem exists_emptyTag {p : Spot} {g : StartTag} {s' : Scanner}
    (h : (p.scanner.flush.inMode (.emptyTag g.tag)).read '>' = .ok s') :
    ∃ p' : Spot, p'.text = p.text ++ (g.text ++ ['/', '>']) ∧ p'.scanner = s' := by
  obtain ⟨mark, blanks, stage⟩ := p
  cases stage with
  | before =>
    have hs : Scanner.outside .content (some (Root.empty g).gathered) = s' := Except.ok.inj h
    refine ⟨⟨mark, blanks, .after (.empty g) rfl .none⟩,
      text_atStage ⟨mark, blanks, .before⟩ ?_, hs⟩
    simp [Stage.text, Root.text, Root.front, Blanks.none]
  | inside o around =>
    have hplain : (Markup.empty g .nil).isPlain = true := rfl
    rw [scanner, Stage.scanner, OpenElement.scanner, Scanner.flush_inside_eq] at h
    refine ⟨⟨mark, blanks, .inside (o.extend (.empty g .nil) hplain) around⟩,
      text_atStage ⟨mark, blanks, .inside o around⟩ ?_, ?_⟩
    · rw [Stage.text_inside_extend]
      rfl
    · rw [scanner, Stage.scanner, OpenElement.scanner_extend]
      exact Except.ok.inj h
  | after root hroot blanks' => contradiction

/-- A closing tag closes the innermost open element, whose name it has. -/
theorem exists_closeTag {p : Spot} {e : EndTag} {n : Name} {s' : Scanner}
    (h : p.scanner.closeTag n.text = .ok s') :
    ∃ p' : Spot, p'.text = p.text ++ e.text n ∧ p'.scanner = s' := by
  obtain ⟨mark, blanks, stage⟩ := p
  cases stage with
  | before => contradiction
  | inside o around =>
    have hname : o.tag.name = n := by
      by_cases htext : o.tag.name.text = n.text
      · exact Name.text_injective htext
      · rw [scanner, Stage.scanner, OpenElement.scanner, Scanner.closeTag] at h
        change (if o.tag.name.text = n.text then _ else _) = _ at h
        rw [if_neg htext] at h
        contradiction
    subst hname
    cases around with
    | nil =>
      have hs := h.symm.trans (Scanner.closeTag_root o.tag.tag (o.content.gather {}))
      refine ⟨⟨mark, blanks, .after (.element o.tag o.content e) o.isPlain .none⟩,
        text_atStage ⟨mark, blanks, .inside o []⟩ ?_, (Except.ok.inj hs).symm⟩
      simp [Stage.text, Root.text, Root.front, Blanks.none, OpenElement.text, EndTag.text]
    | cons o' around =>
      have hs := h.symm.trans (Scanner.closeTag_inside o'.tag.tag o.tag.tag (o.content.gather {})
        (o'.content.gather {}).flush.nodes (around.map OpenElement.frame))
      have hplain : (Markup.element o.tag o.content e .nil).isPlain = true := by
        rw [Markup.isPlain, o.isPlain]
        rfl
      refine ⟨⟨mark, blanks, .inside (o'.extend (.element o.tag o.content e .nil) hplain) around⟩,
        text_atStage ⟨mark, blanks, .inside o (o' :: around)⟩ ?_, ?_⟩
      · rw [Stage.text_inside_extend, Stage.text_inside_cons, List.append_assoc]
        simp [Markup.text, OpenElement.text]
      · rw [scanner, Stage.scanner, OpenElement.scanner_extend]
        exact (Except.ok.inj hs).symm
  | after root hroot blanks' => contradiction

end Spot

end Docdown.Xml.Spelling
