import Docdown.Proofs.Xml.Accepting.Spots

/-!
# Docdown.Proofs.Xml.Accepting.Steps

Whatever a scanner accepts of a text without declarations is the beginning of a
spelling.  `Reached` ties every mode to the spelling that leads to it, with the
words that are under way, and `Reached.step` takes it past one character; hence
`reached_of_readAll` for whole texts.

* `declares` -- the texts that are left out here: in them some `<` is followed by an
  exclamation or a question mark;
* `Begun` -- an attribute whose name was begun.
-/

namespace Docdown.Xml.Spelling

/-! ## texts without declarations -/

/-- Whether a comment, a section, an instruction or a declaration may begin in a
text: whether some `<` is followed, after blanks, by an exclamation mark or a
question mark. -/
def declares : List Char → Bool
  | [] => false
  | c :: cs =>
    (c == '<' && (cs.dropWhile isSpace).head?.any fun d => d == '!' || d == '?') || declares cs

theorem declares_of_append_left {cs : List Char} (h : declares cs = true) (ds : List Char) :
    declares (cs ++ ds) = true := by
  induction cs with
  | nil => contradiction
  | cons c cs ih =>
    rw [declares, Bool.or_eq_true] at h
    rw [List.cons_append, declares, Bool.or_eq_true]
    rcases h with h | h
    · left
      rw [Bool.and_eq_true] at h ⊢
      obtain ⟨d, hd, hmark⟩ := (Option.any_eq_true _ _).1 h.2
      obtain ⟨rest, hrest⟩ := List.head?_eq_some_iff.1 hd
      refine ⟨h.1, ?_⟩
      rw [List.dropWhile_append, hrest]
      exact hmark
    · exact Or.inr (ih h)

theorem declares_of_append_right (cs : List Char) {ds : List Char} (h : declares ds = true) :
    declares (cs ++ ds) = true := by
  induction cs with
  | nil => exact h
  | cons c cs ih => rw [List.cons_append, declares, ih, Bool.or_true]

/-- A `<` and blanks before one of the two marks. -/
theorem declares_markup (cs : List Char) (b : Blanks) {d : Char} (hd : d = '!' ∨ d = '?') :
    declares (cs ++ '<' :: b.chars ++ [d]) = true := by
  have hspace : isSpace d = false := by rcases hd with rfl | rfl <;> decide
  have hdrop : (b.chars ++ [d]).dropWhile isSpace = [d] := by
    rw [List.dropWhile_append_of_pos b.all_isSpace, List.dropWhile_cons_of_neg (by simp [hspace])]
  rw [List.append_assoc]
  refine declares_of_append_right cs ?_
  rw [List.cons_append, declares, hdrop]
  rcases hd with rfl | rfl <;> rfl

/-! ## attributes under way -/

/-- An attribute whose name was begun: the tag up to the blanks before it, and the
name so far. -/
structure Begun where
  tag : StartTag
  tail_ne_nil : tag.tail.chars ≠ []
  name : Name

namespace Begun

def text (a : Begun) : List Char := a.tag.text ++ a.name.chars

/-- What stands between the name and the value. -/
def equals (b b' : Blanks) : List Char := b.chars ++ '=' :: b'.chars

/-- Once the value is complete the tag goes on with the attribute in it. -/
theorem exists_tag (a : Begun) (b b' : Blanks) (q : Quote) (ws : List (Written q.char)) {t : Tag}
    (h : a.tag.tag.add a.name.text (String.ofList (ws.map Written.char)) = .ok t) :
    ∃ g : StartTag, g.tail.chars = [] ∧ g.tag = t ∧
      g.text = a.text ++ (equals b b' ++ q.char :: ws.flatMap Written.text) ++ [q.char] := by
  obtain ⟨⟨lead, name, as, tail, lookup⟩, htail, n⟩ := a
  let new : Assignment := ⟨tail, htail, n, b, b', q, ws⟩
  have hold : "hasOwnProperty" ∉ as.map fun a => a.pair.1 := by
    intro hmem
    have heffective : "hasOwnProperty" ∈ (effective (as.map Assignment.pair)).map Prod.fst :=
      mem_map_effective (by decide) (by rw [List.map_map]; exact hmem)
    rw [Tag.add] at h
    change (if "hasOwnProperty" ∈ (effective (as.map Assignment.pair)).map Prod.fst then _
      else _) = _ at h
    rw [if_pos heffective] at h
    contradiction
  let g : StartTag := ⟨lead, name, as ++ [new], .none, by
    rw [List.map_append, List.map_singleton, List.dropLast_concat]; exact hold⟩
  have htag : g.tag = t := by
    have hall := g.addAll_eq_ok
    have hsofar := StartTag.addAll_eq_ok ⟨lead, name, as, tail, lookup⟩
    rw [List.map_append, List.map_singleton, Tag.addAll_concat, hsofar] at hall
    exact Except.ok.inj (hall.symm.trans h)
  refine ⟨g, rfl, htag, ?_⟩
  simp [g, new, text, StartTag.text, StartTag.inner, equals, Assignment.text, Blanks.none]

end Begun

/-! ## what a scanner has read -/

open Scanner

/-- A scanner and the beginning of a spelling that it has read.  There is one case
for every mode; the spot in it is where the piece of markup under way begins. -/
inductive Reached : List Char → Scanner → Prop
  | start : Reached [] {}
  | spot (p : Spot) : Reached p.text p.scanner
  | markup (p : Spot) (b : Blanks) :
    Reached (p.text ++ '<' :: b.chars) (p.scanner.inMode .markup)
  | tagName (p : Spot) (b : Blanks) (n : Name) :
    Reached (p.text ++ (StartTag.bare b n).text) (p.scanner.inMode (.tagName n.chars.reverse))
  | tag (p : Spot) (g : StartTag) (hg : g.tail.chars ≠ []) :
    Reached (p.text ++ g.text) (p.scanner.flush.inMode (.tag g.tag))
  | afterValue (p : Spot) (g : StartTag) (hg : g.tail.chars = []) :
    Reached (p.text ++ g.text) (p.scanner.flush.inMode (.afterValue g.tag))
  | emptyTag (p : Spot) (g : StartTag) :
    Reached (p.text ++ (g.text ++ ['/'])) (p.scanner.flush.inMode (.emptyTag g.tag))
  | attributeName (p : Spot) (a : Begun) :
    Reached (p.text ++ a.text)
      (p.scanner.flush.inMode (.attributeName a.tag.tag a.name.chars.reverse))
  | afterAttributeName (p : Spot) (a : Begun) (b : Blanks) :
    Reached (p.text ++ (a.text ++ b.chars))
      (p.scanner.flush.inMode (.afterAttributeName a.tag.tag a.name.chars.reverse))
  | beforeValue (p : Spot) (a : Begun) (b b' : Blanks) :
    Reached (p.text ++ (a.text ++ Begun.equals b b'))
      (p.scanner.flush.inMode (.beforeValue a.tag.tag a.name.chars.reverse))
  | value (p : Spot) (a : Begun) (b b' : Blanks) (q : Quote) (ws : List (Written q.char)) :
    Reached (p.text ++ (a.text ++ (Begun.equals b b' ++ q.char :: ws.flatMap Written.text)))
      (p.scanner.flush.inMode (.value a.tag.tag a.name.chars.reverse q.char
        (ws.map Written.char).reverse))
  | valueEntity (p : Spot) (a : Begun) (b b' : Blanks) (q : Quote) (ws : List (Written q.char))
      (e : List Char) (he : e = [] ∨ isEntityName e = true) :
    Reached (p.text ++ (a.text ++ (Begun.equals b b' ++ q.char :: ws.flatMap Written.text)) ++
        '&' :: e)
      (p.scanner.flush.inMode (.valueEntity a.tag.tag a.name.chars.reverse q.char
        (ws.map Written.char).reverse e.reverse))
  | textEntity (mark : Bool) (b : Blanks) (o : OpenElement) (around : List OpenElement)
      (e : List Char) (he : e = [] ∨ isEntityName e = true) :
    Reached (Spot.text ⟨mark, b, .inside o around⟩ ++ '&' :: e)
      ((o.scanner around).inMode (.textEntity e.reverse))
  | endTag (p : Spot) (b b' : Blanks) (n : List Char) (hn : n = [] ∨ isName n = true) :
    Reached (p.text ++ '<' :: (b.chars ++ '/' :: (b'.chars ++ n)))
      (p.scanner.inMode (.endTag n.reverse))
  | afterEndTagName (p : Spot) (e : EndTag) (n : Name) :
    Reached (p.text ++ '<' :: e.inner n) (p.scanner.inMode (.afterEndTagName n.chars.reverse))

namespace Reached

theorem congr {t t' : List Char} {s s' : Scanner} (h : Reached t s) (ht : t = t')
    (hs : s = s') : Reached t' s' := by
  subst ht hs
  exact h

/-! ### between pieces of markup -/

theorem step_before (mark : Bool) (b : Blanks) {c : Char} {s' : Scanner}
    (h : (outside .prolog none).readProlog c = .ok s') :
    Reached (Spot.text ⟨mark, b, .before⟩ ++ [c]) s' := by
  unfold readProlog at h
  split at h
  · next hlt =>
    subst hlt
    exact (markup ⟨mark, b, .before⟩ .none).congr rfl (Except.ok.inj h)
  · split at h
    · next hspace =>
      exact (spot ⟨mark, b.push c hspace, .before⟩).congr
        (by simp [Spot.text, Blanks.push, Stage.text]) (Except.ok.inj h)
    · contradiction

theorem step_start {c : Char} {s' : Scanner} (h : ({} : Scanner).read c = .ok s') :
    Reached [c] s' := by
  change (if c = '\uFEFF' then _ else _) = _ at h
  split at h
  · next hmark =>
    subst hmark
    exact (spot ⟨true, .none, .before⟩).congr rfl (Except.ok.inj h)
  · exact step_before false .none h

theorem step_inside {mark : Bool} {b : Blanks} {o : OpenElement} {around : List OpenElement}
    {c : Char} {s' : Scanner} (h : (o.scanner around).readContent c = .ok s') :
    Reached (Spot.text ⟨mark, b, .inside o around⟩ ++ [c]) s' := by
  have hinside : (o.scanner around).tree.isInside = true := rfl
  simp only [readContent, hinside, if_true] at h
  split at h
  · next hlt =>
    subst hlt
    exact (markup ⟨mark, b, .inside o around⟩ .none).congr rfl (Except.ok.inj h)
  · next hlt =>
    split at h
    · next hamp =>
      subst hamp
      exact (textEntity mark b o around [] (Or.inl rfl)).congr rfl (Except.ok.inj h)
    · next hamp =>
      have hplain : (Markup.char (.plain c ⟨hlt, hamp⟩) .nil).isPlain = true := rfl
      refine (spot ⟨mark, b, .inside (o.extend _ hplain) around⟩).congr ?_ ?_
      · refine Spot.text_atStage ⟨mark, b, .inside o around⟩ ?_
        rw [Stage.text_inside_extend]
        rfl
      · rw [Spot.scanner, Stage.scanner, OpenElement.scanner_extend]
        exact Except.ok.inj h

theorem step_after {mark : Bool} {b b' : Blanks} {r : Root} {hr : r.isPlain = true} {c : Char}
    {s' : Scanner} (h : (outside .content (some r.gathered)).readContent c = .ok s') :
    Reached (Spot.text ⟨mark, b, .after r hr b'⟩ ++ [c]) s' := by
  have houtside : (outside .content (some r.gathered)).tree.isInside = false := rfl
  simp only [readContent, houtside, Bool.false_eq_true, if_false] at h
  split at h
  · next hlt =>
    subst hlt
    exact (markup ⟨mark, b, .after r hr b'⟩ .none).congr rfl (Except.ok.inj h)
  · split at h
    · next hspace =>
      refine (spot ⟨mark, b, .after r hr (b'.push c hspace)⟩).congr ?_ (Except.ok.inj h)
      simp [Spot.text, Blanks.push, Stage.text]
    · contradiction

theorem step_spot {p : Spot} {c : Char} {s' : Scanner} (h : p.scanner.read c = .ok s') :
    Reached (p.text ++ [c]) s' := by
  obtain ⟨mark, b, stage⟩ := p
  cases stage with
  | before => exact step_before mark b h
  | inside o around => exact step_inside h
  | after r hr b' => exact step_after h

/-! ### tags -/

theorem step_markup {p : Spot} {b : Blanks} {c : Char} {s' : Scanner}
    (h : (p.scanner.inMode .markup).readMarkup c = .ok s')
    (hd : declares (p.text ++ '<' :: b.chars ++ [c]) = false) :
    Reached (p.text ++ '<' :: b.chars ++ [c]) s' := by
  unfold readMarkup at h
  split at h
  · next hspace =>
    exact (markup p (b.push c hspace)).congr (by simp [Blanks.push]) (Except.ok.inj h)
  · split at h
    · next hmark =>
      rw [declares_markup p.text b (Or.inl hmark)] at hd
      contradiction
    · split at h
      · next hslash =>
        subst hslash
        exact (endTag p b .none [] (Or.inl rfl)).congr (by simp [Blanks.none]) (Except.ok.inj h)
      · split at h
        · next hmark =>
          rw [declares_markup p.text b (Or.inr hmark)] at hd
          contradiction
        · split at h
          · next hstart =>
            refine (tagName p b (.single c hstart)).congr ?_ (Except.ok.inj h)
            simp [StartTag.text_bare, Name.single]
          · contradiction

/-- The `>` of an opening tag. -/
theorem openTag {p : Spot} {g : StartTag} {s' : Scanner}
    (h : p.scanner.flush.openTag g.tag = .ok s') : Reached (p.text ++ (g.text ++ ['>'])) s' := by
  obtain ⟨p', htext, hscanner⟩ := Spot.exists_openTag h
  exact (spot p').congr htext hscanner

/-- The `>` of a closing tag. -/
theorem closeTag {p : Spot} {e : EndTag} {n : Name} {s' : Scanner}
    (h : p.scanner.closeTag n.text = .ok s') : Reached (p.text ++ e.text n) s' := by
  obtain ⟨p', htext, hscanner⟩ := Spot.exists_closeTag (e := e) h
  exact (spot p').congr htext hscanner

/-- A blank in an opening tag. -/
theorem blank (p : Spot) (g : StartTag) {c : Char} (hc : isSpace c = true) :
    Reached (p.text ++ (g.text ++ [c])) (p.scanner.flush.inMode (.tag g.tag)) := by
  rw [← g.text_pad c hc]
  exact tag p (g.pad c hc) (g.tail_pad_ne_nil c hc)

theorem step_tagName {p : Spot} {b : Blanks} {n : Name} {c : Char} {s' : Scanner}
    (h : (p.scanner.inMode (.tagName n.chars.reverse)).readTagName n.chars.reverse c = .ok s') :
    Reached (p.text ++ (StartTag.bare b n).text ++ [c]) s' := by
  have htag : (⟨collected n.chars.reverse, []⟩ : Tag) = (StartTag.bare b n).tag := by
    rw [collected_reverse, StartTag.tag_bare, Name.text]
  simp only [readTagName, htag, flush_inMode, openTag_inMode, inMode_inMode] at h
  rw [List.append_assoc]
  split at h
  · next hchar =>
    refine (tagName p b (n.push c hchar)).congr ?_ (Except.ok.inj h ▸ ?_)
    · simp [StartTag.text_bare, Name.push]
    · simp [Name.push]
  · split at h
    · next hgt =>
      subst hgt
      exact openTag h
    · split at h
      · next hslash =>
        subst hslash
        exact (emptyTag p (.bare b n)).congr rfl (Except.ok.inj h)
      · split at h
        · next hspace =>
          exact (blank p (.bare b n) hspace).congr rfl (Except.ok.inj h)
        · contradiction

theorem step_tag {p : Spot} {g : StartTag} (hg : g.tail.chars ≠ []) {c : Char} {s' : Scanner}
    (h : (p.scanner.flush.inMode (.tag g.tag)).readTag g.tag c = .ok s') :
    Reached (p.text ++ g.text ++ [c]) s' := by
  simp only [readTag, openTag_inMode, inMode_inMode] at h
  rw [List.append_assoc]
  split at h
  · next hspace =>
    exact (blank p g hspace).congr rfl (Except.ok.inj h)
  · split at h
    · next hgt =>
      subst hgt
      exact openTag h
    · split at h
      · next hslash =>
        subst hslash
        exact (emptyTag p g).congr rfl (Except.ok.inj h)
      · split at h
        · next hstart =>
          exact (attributeName p ⟨g, hg, .single c hstart⟩).congr rfl (Except.ok.inj h)
        · contradiction

theorem step_afterValue {p : Spot} {g : StartTag} {c : Char} {s' : Scanner}
    (h : (p.scanner.flush.inMode (.afterValue g.tag)).readAfterValue g.tag c = .ok s') :
    Reached (p.text ++ g.text ++ [c]) s' := by
  simp only [readAfterValue, openTag_inMode, inMode_inMode] at h
  rw [List.append_assoc]
  split at h
  · next hspace =>
    exact (blank p g hspace).congr rfl (Except.ok.inj h)
  · split at h
    · next hgt =>
      subst hgt
      exact openTag h
    · split at h
      · next hslash =>
        subst hslash
        exact (emptyTag p g).congr rfl (Except.ok.inj h)
      · split at h <;> contradiction

theorem step_emptyTag {p : Spot} {g : StartTag} {c : Char} {s' : Scanner}
    (h : (p.scanner.flush.inMode (.emptyTag g.tag)).read c = .ok s') :
    Reached (p.text ++ (g.text ++ ['/']) ++ [c]) s' := by
  by_cases hgt : c = '>'
  · subst hgt
    obtain ⟨p', htext, hscanner⟩ := Spot.exists_emptyTag h
    exact (spot p').congr (by simp [htext]) hscanner
  · change (if c = '>' then _ else _) = _ at h
    rw [if_neg hgt] at h
    contradiction

/-! ### references -/

/-- What is read of a reference is the beginning of its name, or all of it. -/
theorem readEntity_eq_ok {e : List Char} (he : e = [] ∨ isEntityName e = true) {c : Char}
    {x : List Char ⊕ Char} (h : readEntity e.reverse c = .ok x) :
    (isEntityName (e ++ [c]) = true ∧ x = .inl (e ++ [c]).reverse) ∨
      (c = ';' ∧ ∃ r : Reference, r.name = e ∧ x = .inr r.char) := by
  unfold readEntity at h
  rw [List.reverse_reverse] at h
  split at h
  · next hsemicolon =>
    right
    refine ⟨hsemicolon, ?_⟩
    cases hr : Entity.resolve? e with
    | none => rw [hr] at h; contradiction
    | some d =>
      rw [hr] at h
      rcases he with rfl | he
      · have hnone : Entity.resolve? [] = none := by decide +kernel
        rw [hnone] at hr
        contradiction
      · refine ⟨⟨e, he, by rw [hr]; rfl⟩, rfl, ?_⟩
        simp only [Reference.char, hr]
        exact (Except.ok.inj h).symm
  · by_cases hchar : (if e.reverse.isEmpty then isEntityStart c else isEntityChar c) = true
    · rw [if_pos hchar] at h
      left
      refine ⟨?_, by rw [List.reverse_append]; exact (Except.ok.inj h).symm⟩
      rcases he with rfl | he
      · rw [List.nil_append, isEntityName, List.all_nil, Bool.and_true]
        exact hchar
      · obtain ⟨d, ds, rfl, hd, hds⟩ := exists_of_isEntityName he
        rw [List.cons_append, isEntityName, hd, List.all_append, List.all_eq_true.2 hds]
        simpa using hchar
    · rw [if_neg hchar] at h
      contradiction

theorem step_textEntity {mark : Bool} {b : Blanks} {o : OpenElement} {around : List OpenElement}
    {e : List Char} (he : e = [] ∨ isEntityName e = true) {c : Char} {s' : Scanner}
    (h : ((o.scanner around).inMode (.textEntity e.reverse)).readTextEntity e.reverse c = .ok s') :
    Reached (Spot.text ⟨mark, b, .inside o around⟩ ++ '&' :: e ++ [c]) s' := by
  unfold readTextEntity at h
  cases hx : readEntity e.reverse c with
  | error f => rw [hx] at h; contradiction
  | ok x =>
    rw [hx] at h
    rcases readEntity_eq_ok he hx with ⟨hname, rfl⟩ | ⟨rfl, r, rfl, rfl⟩
    · exact (textEntity mark b o around (e ++ [c]) (Or.inr hname)).congr (by simp)
        (Except.ok.inj h)
    · have hplain : (Markup.char (.reference r) .nil).isPlain = true := rfl
      refine (spot ⟨mark, b, .inside (o.extend _ hplain) around⟩).congr ?_ ?_
      · rw [List.append_assoc]
        refine Spot.text_atStage ⟨mark, b, .inside o around⟩ ?_
        rw [Stage.text_inside_extend]
        simp [Markup.text, Written.text, Reference.text]
      · rw [Spot.scanner, Stage.scanner, OpenElement.scanner_extend]
        exact Except.ok.inj h

theorem step_valueEntity {p : Spot} {a : Begun} {b b' : Blanks} {q : Quote}
    {ws : List (Written q.char)} {e : List Char} (he : e = [] ∨ isEntityName e = true) {c : Char}
    {s' : Scanner}
    (h : p.scanner.flush.readValueEntity a.tag.tag a.name.chars.reverse q.char
      (ws.map Written.char).reverse e.reverse c = .ok s') :
    Reached (p.text ++ (a.text ++ (Begun.equals b b' ++ q.char :: ws.flatMap Written.text)) ++
      '&' :: e ++ [c]) s' := by
  unfold readValueEntity at h
  cases hx : readEntity e.reverse c with
  | error f => rw [hx] at h; contradiction
  | ok x =>
    rw [hx] at h
    rcases readEntity_eq_ok he hx with ⟨hname, rfl⟩ | ⟨rfl, r, rfl, rfl⟩
    · exact (valueEntity p a b b' q ws (e ++ [c]) (Or.inr hname)).congr (by simp)
        (Except.ok.inj h)
    · refine (value p a b b' q (ws ++ [.reference r])).congr ?_ (Except.ok.inj h ▸ ?_)
      · simp [Written.text, Reference.text]
      · simp [Written.char]

/-! ### attributes -/

theorem step_attributeName {p : Spot} {a : Begun} {c : Char} {s' : Scanner}
    (h : p.scanner.flush.readAttributeName a.tag.tag a.name.chars.reverse c = .ok s') :
    Reached (p.text ++ a.text ++ [c]) s' := by
  unfold readAttributeName at h
  split at h
  · next heq =>
    subst heq
    exact (beforeValue p a .none .none).congr (by simp [Begun.equals, Blanks.none])
      (Except.ok.inj h)
  · split at h
    · contradiction
    · split at h
      · next hspace =>
        exact (afterAttributeName p a (Blanks.none.push c hspace)).congr
          (by simp [Blanks.none, Blanks.push]) (Except.ok.inj h)
      · split at h
        · next hchar =>
          refine (attributeName p ⟨a.tag, a.tail_ne_nil, a.name.push c hchar⟩).congr ?_
            (Except.ok.inj h ▸ ?_)
          · simp [Begun.text, Name.push]
          · simp [Name.push]
        · contradiction

theorem step_afterAttributeName {p : Spot} {a : Begun} {b : Blanks} {c : Char} {s' : Scanner}
    (h : (p.scanner.flush.inMode (.afterAttributeName a.tag.tag a.name.chars.reverse)
      ).readAfterAttributeName a.tag.tag a.name.chars.reverse c = .ok s') :
    Reached (p.text ++ (a.text ++ b.chars) ++ [c]) s' := by
  unfold readAfterAttributeName at h
  split at h
  · next heq =>
    subst heq
    exact (beforeValue p a b .none).congr (by simp [Begun.equals, Blanks.none]) (Except.ok.inj h)
  · split at h
    · next hspace =>
      exact (afterAttributeName p a (b.push c hspace)).congr (by simp [Blanks.push])
        (Except.ok.inj h)
    · contradiction

theorem exists_quote {c : Char} (h : isQuote c = true) : ∃ q : Quote, q.char = c := by
  rw [isQuote, Bool.or_eq_true, beq_iff_eq, beq_iff_eq] at h
  rcases h with rfl | rfl
  · exact ⟨.double, rfl⟩
  · exact ⟨.single, rfl⟩

theorem step_beforeValue {p : Spot} {a : Begun} {b b' : Blanks} {c : Char} {s' : Scanner}
    (h : (p.scanner.flush.inMode (.beforeValue a.tag.tag a.name.chars.reverse)
      ).readBeforeValue a.tag.tag a.name.chars.reverse c = .ok s') :
    Reached (p.text ++ (a.text ++ Begun.equals b b') ++ [c]) s' := by
  unfold readBeforeValue at h
  split at h
  · next hspace =>
    exact (beforeValue p a b (b'.push c hspace)).congr (by simp [Begun.equals, Blanks.push])
      (Except.ok.inj h)
  · split at h
    · next hquote =>
      obtain ⟨q, rfl⟩ := exists_quote hquote
      exact (value p a b b' q []).congr (by simp) (Except.ok.inj h)
    · contradiction

theorem step_value {p : Spot} {a : Begun} {b b' : Blanks} {q : Quote}
    {ws : List (Written q.char)} {c : Char} {s' : Scanner}
    (h : p.scanner.flush.readValue a.tag.tag a.name.chars.reverse q.char
      (ws.map Written.char).reverse c = .ok s') :
    Reached (p.text ++ (a.text ++ (Begun.equals b b' ++ q.char :: ws.flatMap Written.text)) ++ [c])
      s' := by
  unfold readValue at h
  rw [collected_reverse, collected_reverse] at h
  split at h
  · next hquote =>
    subst hquote
    cases ht : a.tag.tag.add a.name.text (String.ofList (ws.map Written.char)) with
    | error f => rw [← Name.text, ht] at h; contradiction
    | ok t =>
      rw [← Name.text, ht] at h
      obtain ⟨g, hg, rfl, htext⟩ := a.exists_tag b b' q ws ht
      exact (afterValue p g hg).congr (by simp [htext]) (Except.ok.inj h)
  · next hquote =>
    split at h
    · next hamp =>
      subst hamp
      exact (valueEntity p a b b' q ws [] (Or.inl rfl)).congr rfl (Except.ok.inj h)
    · next hamp =>
      refine (value p a b b' q (ws ++ [.plain c ⟨hquote, hamp⟩])).congr ?_ (Except.ok.inj h ▸ ?_)
      · simp [Written.text]
      · simp [Written.char]

/-! ### closing tags -/

theorem step_endTag {p : Spot} {b b' : Blanks} {n : List Char} (hn : n = [] ∨ isName n = true)
    {c : Char} {s' : Scanner}
    (h : (p.scanner.inMode (.endTag n.reverse)).readEndTag n.reverse c = .ok s') :
    Reached (p.text ++ '<' :: (b.chars ++ '/' :: (b'.chars ++ n)) ++ [c]) s' := by
  rcases hn with rfl | hn
  · change (if isSpace c then _ else _) = _ at h
    split at h
    · next hspace =>
      exact (endTag p b (b'.push c hspace) [] (Or.inl rfl)).congr (by simp [Blanks.push])
        (Except.ok.inj h)
    · split at h
      · next hstart =>
        exact (endTag p b b' [c] (Or.inr (Name.single c hstart).isName)).congr (by simp)
          (Except.ok.inj h)
      · contradiction
  · have hne : n.reverse.isEmpty = false := by
      obtain ⟨d, ds, rfl, -, -⟩ := exists_of_isName hn
      rw [List.isEmpty_reverse]
      rfl
    simp only [readEndTag, hne, Bool.false_eq_true, if_false, closeTag_inMode, inMode_inMode,
      collected_reverse] at h
    split at h
    · next hgt =>
      subst hgt
      exact (closeTag (e := ⟨b, b', .none⟩) (n := ⟨n, hn⟩) h).congr
        (by simp [EndTag.text, EndTag.inner, Blanks.none]) rfl
    · split at h
      · next hchar =>
        exact (endTag p b b' (n ++ [c]) (Or.inr (Name.push ⟨n, hn⟩ c hchar).isName)).congr
          (by simp) (Except.ok.inj h ▸ by simp)
      · split at h
        · next hspace =>
          exact (afterEndTagName p ⟨b, b', Blanks.none.push c hspace⟩ ⟨n, hn⟩).congr
            (by simp [EndTag.inner, Blanks.none, Blanks.push]) (Except.ok.inj h)
        · contradiction

theorem step_afterEndTagName {p : Spot} {e : EndTag} {n : Name} {c : Char} {s' : Scanner}
    (h : (p.scanner.inMode (.afterEndTagName n.chars.reverse)).readAfterEndTagName
      n.chars.reverse c = .ok s') :
    Reached (p.text ++ '<' :: e.inner n ++ [c]) s' := by
  simp only [readAfterEndTagName, closeTag_inMode, collected_reverse] at h
  split at h
  · next hspace =>
    exact (afterEndTagName p ⟨e.lead, e.afterSlash, e.tail.push c hspace⟩ n).congr
      (by simp [EndTag.inner, Blanks.push]) (Except.ok.inj h)
  · split at h
    · next hgt =>
      subst hgt
      exact (closeTag (e := e) h).congr (by simp [EndTag.text]) rfl
    · contradiction

/-! ### whole texts -/

/-- One more character that is accepted goes on with the spelling. -/
theorem step {t : List Char} {s s' : Scanner} {c : Char} (h : Reached t s)
    (hread : s.read c = .ok s') (hd : declares (t ++ [c]) = false) : Reached (t ++ [c]) s' := by
  cases h with
  | start => exact step_start hread
  | spot p => exact step_spot hread
  | markup p b => exact step_markup hread hd
  | tagName p b n => exact step_tagName hread
  | tag p g hg => exact step_tag hg hread
  | afterValue p g hg => exact step_afterValue hread
  | emptyTag p g => exact step_emptyTag hread
  | attributeName p a => exact step_attributeName hread
  | afterAttributeName p a b => exact step_afterAttributeName hread
  | beforeValue p a b b' => exact step_beforeValue hread
  | value p a b b' q ws => exact step_value hread
  | valueEntity p a b b' q ws e he => exact step_valueEntity he hread
  | textEntity mark b o around e he => exact step_textEntity he hread
  | endTag p b b' n hn => exact step_endTag hn hread
  | afterEndTagName p e n => exact step_afterEndTagName hread

end Reached

/-- What a scanner accepts of a text without declarations is the beginning of a
spelling. -/
theorem reached_of_readAll {t u : List Char} {s s' : Scanner} (hs : Reached t s)
    (h : s.readAll u = .ok s') (hd : declares (t ++ u) = false) : Reached (t ++ u) s' := by
  induction u generalizing t s with
  | nil =>
    rw [List.append_nil]
    exact hs.congr rfl (Except.ok.inj h)
  | cons c cs ih =>
    have hsplit : t ++ c :: cs = t ++ [c] ++ cs := by simp
    have hfirst : declares (t ++ [c]) = false := by
      cases hdc : declares (t ++ [c]) with
      | false => rfl
      | true => rw [hsplit, declares_of_append_left hdc] at hd; contradiction
    cases hc : s.read c with
    | error f => rw [readAll_cons_error hc] at h; contradiction
    | ok s₁ =>
      rw [readAll_cons_ok hc] at h
      rw [hsplit] at hd ⊢
      exact ih (hs.step hc hfirst) h hd

end Docdown.Xml.Spelling
