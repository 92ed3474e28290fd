import Docdown.Proofs.Xml.Gathering
import Docdown.Proofs.Xml.Reading.Attributes

/-!
# Docdown.Proofs.Xml.WellFormed

What every tree that is read has in common: names are names, no attribute name comes
twice in an element, and no text run is empty (`Content.IsWellFormed`).

A scanner keeps this of the tree it builds and of the tag it is in the middle of
(`Scanner.IsWellFormed`), one lemma for each mode, so it holds of every root element
that parsing gives (`isWellFormed_of_parse`).
-/

namespace Docdown.Xml

/-! ## names -/

namespace Spelling

theorem isName_singleton {c : Char} (hc : isNameStart c = true) : isName [c] = true := by
  rw [isName, hc]
  rfl

theorem isName_concat {cs : List Char} {c : Char} (hcs : isName cs = true)
    (hc : isNameChar c = true) : isName (cs ++ [c]) = true := by
  obtain ⟨d, ds, rfl, hd, hds⟩ := exists_of_isName hcs
  rw [List.cons_append, isName, hd, List.all_append, List.all_eq_true.2 hds]
  simp [hc]

/-- Collected newest first, a name goes on at its front. -/
theorem isName_reverse_cons {cs : List Char} {c : Char} (hcs : isName cs.reverse = true)
    (hc : isNameChar c = true) : isName (c :: cs).reverse = true := by
  rw [List.reverse_cons]
  exact isName_concat hcs hc

end Spelling

open Spelling

/-! ## trees -/

/-- What holds of a tag that is read.  An attribute named `hasOwnProperty` can only be
the last one. -/
structure Tag.IsWellFormed (t : Tag) : Prop where
  name : isName t.name.toList = true
  names : ∀ a ∈ t.attributes, isName a.1.toList = true
  nodup : (t.attributes.map Prod.fst).Nodup
  stored : "__proto__" ∉ t.attributes.map Prod.fst
  lookup : "hasOwnProperty" ∉ (t.attributes.map Prod.fst).dropLast

/-- A tag without attributes. -/
theorem Tag.isWellFormed_bare {name : List Char} (h : isName name.reverse = true) :
    (⟨Scanner.collected name, []⟩ : Tag).IsWellFormed where
  name := by rw [Scanner.collected, String.toList_ofList, h]
  names := by simp
  nodup := by simp
  stored := by simp
  lookup := by simp

/-- A tag with one more attribute. -/
theorem Tag.IsWellFormed.add {t t' : Tag} (ht : t.IsWellFormed) {name : List Char}
    (hname : isName name.reverse = true) {value : String}
    (h : t.add (Scanner.collected name) value = .ok t') : t'.IsWellFormed := by
  unfold Tag.add at h
  dsimp only at h
  split at h
  · contradiction
  · next hlookup =>
    split at h
    · cases h
      exact ht
    · next hnew =>
      cases h
      obtain ⟨hnotin, hproto⟩ := not_or.1 hnew
      refine ⟨ht.name, ?_, ?_, ?_, ?_⟩
      · intro a ha
        rcases List.mem_append.1 ha with ha | ha
        · exact ht.names a ha
        · rw [List.mem_singleton.1 ha, Scanner.collected, String.toList_ofList, hname]
      · rw [List.map_append, List.map_singleton]
        refine List.nodup_append.2 ⟨ht.nodup, by simp, fun x hx y hy => ?_⟩
        rw [List.mem_singleton.1 hy]
        rintro rfl
        exact hnotin hx
      · rw [List.map_append, List.mem_append, not_or]
        exact ⟨ht.stored, fun h => hproto (List.mem_singleton.1 h).symm⟩
      · rw [List.map_append, List.map_singleton, List.dropLast_concat]
        exact hlookup

/-- Whether an element's name and its attributes are those of a tag that is read, at
any depth, and no text run is empty. -/
def Content.IsWellFormed : Content → Prop
  | .nil => True
  | .text v r => v ≠ "" ∧ r.IsWellFormed
  | .element n as c r => (⟨n, as⟩ : Tag).IsWellFormed ∧ c.IsWellFormed ∧ r.IsWellFormed

def Element.IsWellFormed (e : Element) : Prop :=
  (⟨e.name, e.attributes⟩ : Tag).IsWellFormed ∧ e.content.IsWellFormed

def Node.IsWellFormed : Node → Prop
  | .text v => v ≠ ""
  | .element e => e.IsWellFormed

theorem Content.isWellFormed_ofNodes {ns : List Node} (h : ∀ n ∈ ns, n.IsWellFormed) :
    (ofNodes ns).IsWellFormed := by
  induction ns with
  | nil => trivial
  | cons n ns ih =>
    have hn : n.IsWellFormed := h n List.mem_cons_self
    have hns : (ofNodes ns).IsWellFormed := ih fun m hm => h m (List.mem_cons_of_mem n hm)
    cases n with
    | text v => exact ⟨hn, hns⟩
    | element e => exact ⟨hn.1, hn.2, hns⟩

/-! ## trees being built -/

structure Frame.IsWellFormed (f : Frame) : Prop where
  tag : (⟨f.name, f.attributes⟩ : Tag).IsWellFormed
  nodes : ∀ n ∈ f.nodes, n.IsWellFormed

theorem Frame.IsWellFormed.element {f : Frame} (h : f.IsWellFormed) : f.element.IsWellFormed :=
  ⟨h.tag, Content.isWellFormed_ofNodes fun n hn => h.nodes n (List.mem_reverse.1 hn)⟩

structure Builder.IsWellFormed (b : Builder) : Prop where
  root? : ∀ e, b.root? = some e → e.IsWellFormed
  frames : ∀ f ∈ b.frames, f.IsWellFormed

def Event.IsWellFormed : Event → Prop
  | .startTag name attributes => (⟨name, attributes⟩ : Tag).IsWellFormed
  | .endTag => True
  | .text v => v ≠ ""

namespace Builder.IsWellFormed

variable {b b' : Builder}

theorem add (hb : b.IsWellFormed) {n : Node} (hn : n.IsWellFormed) : (b.add n).IsWellFormed := by
  unfold Builder.add
  split
  · next f fs hframes =>
    have hf : f.IsWellFormed := hb.frames f (by rw [hframes]; exact List.mem_cons_self)
    refine ⟨hb.root?, fun g hg => ?_⟩
    rcases List.mem_cons.1 hg with rfl | hg
    · refine ⟨hf.tag, fun m hm => ?_⟩
      rcases List.mem_cons.1 hm with rfl | hm
      · exact hn
      · exact hf.nodes m hm
    · exact hb.frames g (by rw [hframes]; exact List.mem_cons_of_mem f hg)
  · refine ⟨fun e he => ?_, hb.frames⟩
    cases hroot : b.root? with
    | none => rw [hroot] at he; cases he; exact hn
    | some root => rw [hroot] at he; cases he; exact hb.root? e hroot
  · exact hb

/-- An event keeps the tree well-formed. -/
theorem apply (hb : b.IsWellFormed) {e : Event} (he : e.IsWellFormed) :
    (b.apply e).IsWellFormed := by
  cases e with
  | startTag name attributes =>
    refine ⟨hb.root?, fun f hf => ?_⟩
    rcases List.mem_cons.1 hf with rfl | hf
    · exact ⟨he, by simp⟩
    · exact hb.frames f hf
  | text v => exact hb.add (n := .text v) he
  | endTag =>
    unfold Builder.apply
    cases hframes : b.frames with
    | nil => exact hb
    | cons f fs =>
      have hf : f.IsWellFormed := hb.frames f (by rw [hframes]; exact List.mem_cons_self)
      have hrest : ({ b with frames := fs } : Builder).IsWellFormed :=
        ⟨hb.root?, fun g hg => hb.frames g (by rw [hframes]; exact List.mem_cons_of_mem f hg)⟩
      exact hrest.add (n := .element f.element) hf.element

end Builder.IsWellFormed

/-! ## scanners -/

/-- What holds of the names and the tag that a mode is in the middle of. -/
def Mode.IsWellFormed : Mode → Prop
  | .tagName name => isName name.reverse = true
  | .tag t | .emptyTag t | .afterValue t => t.IsWellFormed
  | .attributeName t name | .afterAttributeName t name | .beforeValue t name
  | .value t name _ _ | .valueEntity t name _ _ _ => t.IsWellFormed ∧ isName name.reverse = true
  | _ => True

namespace Scanner

structure IsWellFormed (s : Scanner) : Prop where
  mode : s.mode.IsWellFormed
  tree : s.tree.IsWellFormed

variable {s s' : Scanner} {c : Char}

namespace IsWellFormed

theorem start : ({} : Scanner).IsWellFormed where
  mode := trivial
  tree := ⟨nofun, by simp⟩

theorem inMode (hs : s.IsWellFormed) {m : Mode} (hm : m.IsWellFormed) :
    (s.inMode m).IsWellFormed := ⟨hm, hs.tree⟩

theorem flush (hs : s.IsWellFormed) : s.flush.IsWellFormed := by
  unfold Scanner.flush
  split
  · exact hs
  · next hrun =>
    have htext : collected s.run ≠ "" := fun h => hrun (by simp [collected_eq_empty_iff.1 h])
    exact ⟨hs.mode, hs.tree.apply (e := .text _) htext⟩

theorem emit (hs : s.IsWellFormed) {e : Event} (h : s.emit e = .ok s') (he : e.IsWellFormed) :
    s'.IsWellFormed := by
  unfold Scanner.emit Builder.accept at h
  split at h
  · contradiction
  · cases h
    exact ⟨hs.mode, hs.tree.apply he⟩

theorem openTag (hs : s.IsWellFormed) {t : Tag} (ht : t.IsWellFormed)
    (h : s.openTag t = .ok s') : s'.IsWellFormed := by
  unfold Scanner.openTag at h
  cases hemit : s.emit (.startTag t.name t.attributes) with
  | error f => rw [hemit] at h; contradiction
  | ok s₁ =>
    rw [hemit] at h
    cases h
    exact (hs.emit hemit ht).inMode trivial

theorem closeTag (hs : s.IsWellFormed) {name : String} (h : s.closeTag name = .ok s') :
    s'.IsWellFormed := by
  unfold Scanner.closeTag at h
  split at h
  · contradiction
  · split at h
    · cases hemit : s.flush.emit .endTag with
      | error f => rw [hemit] at h; contradiction
      | ok s₁ =>
        rw [hemit] at h
        cases h
        exact (hs.flush.emit hemit trivial).inMode trivial
    · contradiction

/-! ### text and tags -/

theorem readProlog (hs : s.IsWellFormed) (h : s.readProlog c = .ok s') : s'.IsWellFormed := by
  unfold Scanner.readProlog at h
  split at h
  · cases h; exact hs.inMode trivial
  · split at h
    · cases h; exact hs.inMode trivial
    · contradiction

theorem readContent (hs : s.IsWellFormed) (h : s.readContent c = .ok s') : s'.IsWellFormed := by
  unfold Scanner.readContent at h
  split at h
  · cases h; exact hs.inMode trivial
  · split at h
    · split at h
      · cases h; exact hs.inMode trivial
      · cases h; exact ⟨hs.mode, hs.tree⟩
    · split at h
      · cases h; exact hs
      · contradiction

theorem readMarkup (hs : s.IsWellFormed) (h : s.readMarkup c = .ok s') : s'.IsWellFormed := by
  unfold Scanner.readMarkup at h
  split at h
  · cases h; exact hs
  · split at h
    · cases h; exact hs.inMode trivial
    · split at h
      · cases h; exact hs.inMode trivial
      · split at h
        · cases h; exact hs.inMode trivial
        · split at h
          · next hc => cases h; exact hs.inMode (isName_singleton hc)
          · contradiction

theorem readTagName (hs : s.IsWellFormed) {name : List Char} (hname : isName name.reverse = true)
    (h : s.readTagName name c = .ok s') : s'.IsWellFormed := by
  have ht := Tag.isWellFormed_bare hname
  unfold Scanner.readTagName at h
  split at h
  · next hc => cases h; exact hs.inMode (isName_reverse_cons hname hc)
  · split at h
    · exact hs.flush.openTag ht h
    · split at h
      · cases h; exact hs.flush.inMode ht
      · split at h
        · cases h; exact hs.flush.inMode ht
        · contradiction

theorem readTag (hs : s.IsWellFormed) {t : Tag} (ht : t.IsWellFormed)
    (h : s.readTag t c = .ok s') : s'.IsWellFormed := by
  unfold Scanner.readTag at h
  split at h
  · cases h; exact hs
  · split at h
    · exact hs.openTag ht h
    · split at h
      · cases h; exact hs.inMode ht
      · split at h
        · next hc => cases h; exact hs.inMode ⟨ht, isName_singleton hc⟩
        · contradiction

theorem readEmptyTag (hs : s.IsWellFormed) {t : Tag} (ht : t.IsWellFormed)
    (h : s.readEmptyTag t c = .ok s') : s'.IsWellFormed := by
  unfold Scanner.readEmptyTag at h
  split at h
  · split at h
    · next hopen => exact (hs.openTag ht hopen).emit h trivial
    · contradiction
  · contradiction

theorem readAttributeName (hs : s.IsWellFormed) {t : Tag} (ht : t.IsWellFormed)
    {name : List Char} (hname : isName name.reverse = true)
    (h : s.readAttributeName t name c = .ok s') : s'.IsWellFormed := by
  unfold Scanner.readAttributeName at h
  split at h
  · cases h; exact hs.inMode ⟨ht, hname⟩
  · split at h
    · contradiction
    · split at h
      · cases h; exact hs.inMode ⟨ht, hname⟩
      · split at h
        · next hc => cases h; exact hs.inMode ⟨ht, isName_reverse_cons hname hc⟩
        · contradiction

theorem readAfterAttributeName (hs : s.IsWellFormed) {t : Tag} (ht : t.IsWellFormed)
    {name : List Char} (hname : isName name.reverse = true)
    (h : s.readAfterAttributeName t name c = .ok s') : s'.IsWellFormed := by
  unfold Scanner.readAfterAttributeName at h
  split at h
  · cases h; exact hs.inMode ⟨ht, hname⟩
  · split at h
    · cases h; exact hs
    · contradiction

theorem readBeforeValue (hs : s.IsWellFormed) {t : Tag} (ht : t.IsWellFormed)
    {name : List Char} (hname : isName name.reverse = true)
    (h : s.readBeforeValue t name c = .ok s') : s'.IsWellFormed := by
  unfold Scanner.readBeforeValue at h
  split at h
  · cases h; exact hs
  · split at h
    · cases h; exact hs.inMode ⟨ht, hname⟩
    · contradiction

theorem readValue (hs : s.IsWellFormed) {t : Tag} (ht : t.IsWellFormed)
    {name : List Char} (hname : isName name.reverse = true) {quote : Char} {value : List Char}
    (h : s.readValue t name quote value c = .ok s') : s'.IsWellFormed := by
  unfold Scanner.readValue at h
  split at h
  · cases hadd : t.add (collected name) (collected value) with
    | error f => rw [hadd] at h; contradiction
    | ok t' =>
      rw [hadd] at h
      cases h
      exact hs.inMode (ht.add hname hadd)
  · split at h
    · cases h; exact hs.inMode ⟨ht, hname⟩
    · cases h; exact hs.inMode ⟨ht, hname⟩

theorem readValueEntity (hs : s.IsWellFormed) {t : Tag} (ht : t.IsWellFormed)
    {name : List Char} (hname : isName name.reverse = true) {quote : Char}
    {value entity : List Char} (h : s.readValueEntity t name quote value entity c = .ok s') :
    s'.IsWellFormed := by
  unfold Scanner.readValueEntity at h
  cases he : readEntity entity c with
  | error f => rw [he] at h; contradiction
  | ok x =>
    rw [he] at h
    cases x with
    | inl more => cases h; exact hs.inMode ⟨ht, hname⟩
    | inr d => cases h; exact hs.inMode ⟨ht, hname⟩

theorem readAfterValue (hs : s.IsWellFormed) {t : Tag} (ht : t.IsWellFormed)
    (h : s.readAfterValue t c = .ok s') : s'.IsWellFormed := by
  unfold Scanner.readAfterValue at h
  split at h
  · cases h; exact hs.inMode ht
  · split at h
    · exact hs.openTag ht h
    · split at h
      · cases h; exact hs.inMode ht
      · split at h <;> contradiction

theorem readTextEntity (hs : s.IsWellFormed) {entity : List Char}
    (h : s.readTextEntity entity c = .ok s') : s'.IsWellFormed := by
  unfold Scanner.readTextEntity at h
  cases he : readEntity entity c with
  | error f => rw [he] at h; contradiction
  | ok x =>
    rw [he] at h
    cases x with
    | inl more => cases h; exact hs.inMode trivial
    | inr d => cases h; exact ⟨trivial, hs.tree⟩

theorem readEndTag (hs : s.IsWellFormed) {name : List Char} (h : s.readEndTag name c = .ok s') :
    s'.IsWellFormed := by
  unfold Scanner.readEndTag at h
  split at h
  · split at h
    · cases h; exact hs
    · split at h
      · cases h; exact hs.inMode trivial
      · contradiction
  · split at h
    · exact hs.closeTag h
    · split at h
      · cases h; exact hs.inMode trivial
      · split at h
        · cases h; exact hs.inMode trivial
        · contradiction

theorem readAfterEndTagName (hs : s.IsWellFormed) {name : List Char}
    (h : s.readAfterEndTagName name c = .ok s') : s'.IsWellFormed := by
  unfold Scanner.readAfterEndTagName at h
  split at h
  · cases h; exact hs
  · split at h
    · exact hs.closeTag h
    · contradiction

/-! ### what says nothing about the tree -/

theorem readInstructionName (hs : s.IsWellFormed) (name : List Char) (c : Char) :
    (s.readInstructionName name c).IsWellFormed := by
  unfold Scanner.readInstructionName
  split
  · exact hs.inMode trivial
  · split
    · exact hs.inMode trivial
    · exact hs.inMode trivial

theorem readInstructionBody (hs : s.IsWellFormed) (name body : List Char) (c : Char) :
    (s.readInstructionBody name body c).IsWellFormed := by
  unfold Scanner.readInstructionBody
  split
  · exact hs
  · split
    · exact hs.inMode trivial
    · exact hs.inMode trivial

theorem readInstructionEnd (hs : s.IsWellFormed) (name body : List Char) (c : Char) :
    (s.readInstructionEnd name body c).IsWellFormed := by
  unfold Scanner.readInstructionEnd
  split
  · exact hs.flush.inMode trivial
  · exact hs.inMode trivial

theorem readDeclaration (hs : s.IsWellFormed) {text : List Char}
    (h : s.readDeclaration text c = .ok s') : s'.IsWellFormed := by
  unfold Scanner.readDeclaration at h
  split at h
  · cases h; exact hs.inMode trivial
  · split at h
    · cases h; exact ⟨trivial, hs.tree⟩
    · split at h
      · cases h; exact hs.flush.inMode trivial
      · split at h
        · split at h
          · cases h
          · cases h; exact ⟨trivial, hs.tree⟩
        · split at h
          · cases h; exact hs.flush.inMode trivial
          · split at h
            · cases h; exact hs.inMode trivial
            · cases h; exact hs.inMode trivial

/-- The document type may be given more text. -/
theorem extend (hs : s.IsWellFormed) (n : Nat) :
    ({ s with doctype := s.doctype.extend n } : Scanner).IsWellFormed := ⟨hs.mode, hs.tree⟩

theorem readDoctype (hs : s.IsWellFormed) (c : Char) : (s.readDoctype c).IsWellFormed := by
  unfold Scanner.readDoctype
  split
  · exact ⟨trivial, hs.flush.tree⟩
  · dsimp only
    split
    · exact (hs.extend _).inMode trivial
    · split
      · exact (hs.extend _).inMode trivial
      · exact hs.extend _

theorem readSubset (hs : s.IsWellFormed) (c : Char) : (s.readSubset c).IsWellFormed := by
  unfold Scanner.readSubset
  split
  · exact hs.inMode trivial
  · dsimp only
    split
    · exact (hs.extend _).inMode trivial
    · split
      · exact (hs.extend _).inMode trivial
      · exact hs.extend _

theorem readQuoted (hs : s.IsWellFormed) (quote : Char) {outer : Mode}
    (houter : outer.IsWellFormed) (c : Char) : (s.readQuoted quote outer c).IsWellFormed := by
  unfold Scanner.readQuoted
  dsimp only
  split
  · exact (hs.extend _).inMode houter
  · exact hs.extend _

theorem readComment (hs : s.IsWellFormed) (body : List Char) (c : Char) :
    (s.readComment body c).IsWellFormed := by
  unfold Scanner.readComment
  split
  · exact hs.inMode trivial
  · exact hs.inMode trivial

theorem readCommentHyphen (hs : s.IsWellFormed) (body : List Char) (c : Char) :
    (s.readCommentHyphen body c).IsWellFormed := by
  unfold Scanner.readCommentHyphen
  split
  · cases body.isEmpty with
    | true => exact hs.inMode trivial
    | false => exact hs.flush.inMode trivial
  · exact hs.inMode trivial

theorem readCommentEnd (hs : s.IsWellFormed) (h : s.readCommentEnd c = .ok s') :
    s'.IsWellFormed := by
  unfold Scanner.readCommentEnd afterComment at h
  split at h
  · cases h
    cases s.doctype.isOpen with
    | true => exact hs.inMode trivial
    | false => exact hs.inMode trivial
  · contradiction

theorem readCdata (hs : s.IsWellFormed) (body : List Char) (c : Char) :
    (s.readCdata body c).IsWellFormed := by
  unfold Scanner.readCdata
  split
  · exact hs.inMode trivial
  · exact hs.inMode trivial

theorem readCdataBracket (hs : s.IsWellFormed) (body : List Char) (c : Char) :
    (s.readCdataBracket body c).IsWellFormed := by
  unfold Scanner.readCdataBracket
  split
  · exact hs.inMode trivial
  · exact hs.inMode trivial

theorem readCdataBrackets (hs : s.IsWellFormed) {body : List Char}
    (h : s.readCdataBrackets body c = .ok s') : s'.IsWellFormed := by
  unfold Scanner.readCdataBrackets at h
  split at h
  · dsimp only at h
    split at h
    · cases h; exact hs.inMode trivial
    · next hbody =>
      have htext : collected body ≠ "" := fun h => hbody (by simp [collected_eq_empty_iff.1 h])
      exact (hs.inMode (m := .content) trivial).emit h htext
  · split at h
    · cases h; exact hs.inMode trivial
    · cases h; exact hs.inMode trivial

/-! ### all modes -/

/-- A character keeps the scanner well-formed, in every mode. -/
theorem read (hs : s.IsWellFormed) (h : s.read c = .ok s') : s'.IsWellFormed := by
  have hm := hs.mode
  unfold Scanner.read at h
  split at h
  · split at h
    · cases h; exact hs.inMode trivial
    · exact hs.readProlog h
  · exact hs.readProlog h
  · exact hs.readContent h
  · exact hs.readMarkup h
  · next hmode => rw [hmode] at hm; exact hs.readTagName hm h
  · next hmode => rw [hmode] at hm; exact hs.readTag hm h
  · next hmode => rw [hmode] at hm; exact hs.readEmptyTag hm h
  · next hmode => rw [hmode] at hm; exact hs.readAttributeName hm.1 hm.2 h
  · next hmode => rw [hmode] at hm; exact hs.readAfterAttributeName hm.1 hm.2 h
  · next hmode => rw [hmode] at hm; exact hs.readBeforeValue hm.1 hm.2 h
  · next hmode => rw [hmode] at hm; exact hs.readValue hm.1 hm.2 h
  · next hmode => rw [hmode] at hm; exact hs.readValueEntity hm.1 hm.2 h
  · next hmode => rw [hmode] at hm; exact hs.readAfterValue hm h
  · exact hs.readTextEntity h
  · exact hs.readEndTag h
  · exact hs.readAfterEndTagName h
  · cases h; exact hs.readInstructionName _ c
  · cases h; exact hs.readInstructionBody _ _ c
  · cases h; exact hs.readInstructionEnd _ _ c
  · exact hs.readDeclaration h
  · cases h; exact hs.inMode trivial
  · cases h; exact hs.readDoctype c
  · cases h; exact hs.readQuoted _ (show Mode.doctype.IsWellFormed from trivial) c
  · cases h; exact hs.readSubset c
  · cases h; exact hs.readQuoted _ (show Mode.subset.IsWellFormed from trivial) c
  · cases h; exact hs.readComment _ c
  · cases h; exact hs.readCommentHyphen _ c
  · exact hs.readCommentEnd h
  · cases h; exact hs.readCdata _ c
  · cases h; exact hs.readCdataBracket _ c
  · exact hs.readCdataBrackets h

/-- A whole text does, too. -/
theorem readAll (hs : s.IsWellFormed) {cs : List Char} (h : s.readAll cs = .ok s') :
    s'.IsWellFormed :=
  readAll_induction (fun ht hread => ht.read hread) hs h

end IsWellFormed

end Scanner

/-- Every root element that parsing gives is well-formed. -/
theorem isWellFormed_of_parse {t : String} {e : Element} (h : parse t = .ok e) :
    e.IsWellFormed := by
  obtain ⟨s, hread, hfinish⟩ := parse_eq_ok_iff.1 h
  obtain ⟨-, -, -, hroot⟩ := Scanner.finish_eq_ok_iff.1 hfinish
  exact (Scanner.IsWellFormed.start.readAll hread).tree.root? e hroot

end Docdown.Xml
