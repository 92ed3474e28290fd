import Docdown.Proofs.Xml.RoundTrip
import Docdown.Proofs.Xml.WellFormed

/-!
# Docdown.Proofs.Xml.Printing

One way of writing a tree down, as plain as can be: `Element.print` puts every
attribute into double quotes after a single blank, closes every element with a tag of
its own, and writes a reference only for the characters that need one.

What is printed of a well-formed tree is a spelling of it (`exists_markup_print`), so it
is parsed back: parsing, printing and parsing again changes nothing but the cuts between
text runs (`parse_print`).
-/

namespace Docdown.Xml

open Spelling

/-! ## printing -/

/-- A character as it is printed in text. -/
def escapeText (c : Char) : List Char :=
  if c = '&' then "&amp;".toList else if c = '<' then "&lt;".toList
  else if c = '>' then "&gt;".toList else [c]

/-- A character as it is printed in a value. -/
def escapeValue (c : Char) : List Char :=
  if c = '&' then "&amp;".toList else if c = '<' then "&lt;".toList
  else if c = '"' then "&quot;".toList else [c]

def printAttribute (a : Attribute) : List Char :=
  ' ' :: (a.1.toList ++ '=' :: '"' :: (a.2.toList.flatMap escapeValue ++ ['"']))

/-- An opening tag without the `>` that ends it. -/
def printTag (t : Tag) : List Char :=
  '<' :: (t.name.toList ++ t.attributes.flatMap printAttribute)

def printEndTag (name : String) : List Char := '<' :: '/' :: (name.toList ++ ['>'])

/-- A content as it is printed. -/
def Content.print : Content → List Char
  | .nil => []
  | .text v r => v.toList.flatMap escapeText ++ r.print
  | .element n as c r =>
    printTag ⟨n, as⟩ ++ '>' :: (c.print ++ (printEndTag n ++ r.print))

/-- An element as it is printed. -/
def Element.print (e : Element) : String :=
  String.ofList (printTag ⟨e.name, e.attributes⟩ ++ '>' :: (e.content.print ++ printEndTag e.name))

/-! ## what is printed is a spelling -/

namespace Spelling

/-- A character is written as it is printed, where a quotation mark ends the text or
none does. -/
theorem exists_written {stop : Char} {escape : Char → List Char}
    (hplain : ∀ c, escape c = [c] → c ≠ stop ∧ c ≠ '&')
    (hescape : ∀ c, escape c = [c] ∨ ∃ r : Reference, r.char = c ∧ r.text = escape c)
    (cs : List Char) :
    ∃ ws : List (Written stop), ws.flatMap Written.text = cs.flatMap escape ∧
      ws.map Written.char = cs := by
  induction cs with
  | nil => exact ⟨[], rfl, rfl⟩
  | cons c cs ih =>
    obtain ⟨ws, htext, hchar⟩ := ih
    obtain ⟨w, hw, hc⟩ : ∃ w : Written stop, w.text = escape c ∧ w.char = c := by
      rcases hescape c with h | ⟨r, hc, hr⟩
      · exact ⟨.plain c (hplain c h), h.symm, rfl⟩
      · exact ⟨.reference r, hr, hc⟩
    refine ⟨w :: ws, ?_, ?_⟩
    · rw [List.flatMap_cons, List.flatMap_cons, hw, htext]
    · rw [List.map_cons, hc, hchar]

/-- The reference by a name that stands for a character. -/
def Reference.ofName (name : List Char)
    (h : (Spelling.isEntityName name && (Entity.resolve? name).isSome) = true) : Reference :=
  ⟨name, (Bool.and_eq_true_iff.1 h).1, (Bool.and_eq_true_iff.1 h).2⟩

def Reference.amp : Reference := .ofName ['a', 'm', 'p'] (by decide +kernel)
def Reference.lt : Reference := .ofName ['l', 't'] (by decide +kernel)
def Reference.gt : Reference := .ofName ['g', 't'] (by decide +kernel)
def Reference.quot : Reference := .ofName ['q', 'u', 'o', 't'] (by decide +kernel)

theorem Reference.char_amp : amp.char = '&' := by decide +kernel
theorem Reference.char_lt : lt.char = '<' := by decide +kernel
theorem Reference.char_gt : gt.char = '>' := by decide +kernel
theorem Reference.char_quot : quot.char = '"' := by decide +kernel

theorem exists_written_text (cs : List Char) :
    ∃ ws : List (Written '<'), ws.flatMap Written.text = cs.flatMap escapeText ∧
      ws.map Written.char = cs := by
  refine exists_written (fun c h => ?_) (fun c => ?_) cs
  · refine ⟨?_, ?_⟩
    · rintro rfl; revert h; decide
    · rintro rfl; revert h; decide
  · unfold escapeText
    split
    · next hc => exact .inr ⟨.amp, by rw [Reference.char_amp, hc], rfl⟩
    · split
      · next hc => exact .inr ⟨.lt, by rw [Reference.char_lt, hc], rfl⟩
      · split
        · next hc => exact .inr ⟨.gt, by rw [Reference.char_gt, hc], rfl⟩
        · exact .inl rfl

theorem exists_written_value (cs : List Char) :
    ∃ ws : List (Written '"'), ws.flatMap Written.text = cs.flatMap escapeValue ∧
      ws.map Written.char = cs := by
  refine exists_written (fun c h => ?_) (fun c => ?_) cs
  · refine ⟨?_, ?_⟩
    · rintro rfl; revert h; decide
    · rintro rfl; revert h; decide
  · unfold escapeValue
    split
    · next hc => exact .inr ⟨.amp, by rw [Reference.char_amp, hc], rfl⟩
    · split
      · next hc => exact .inr ⟨.lt, by rw [Reference.char_lt, hc], rfl⟩
      · split
        · next hc => exact .inr ⟨.quot, by rw [Reference.char_quot, hc], rfl⟩
        · exact .inl rfl

/-- Attributes whose names are names are written as they are printed. -/
theorem exists_assignments (as : List Attribute)
    (hnames : ∀ a ∈ as, isName a.1.toList = true) :
    ∃ ws : List Assignment, ws.flatMap Assignment.text = as.flatMap printAttribute ∧
      ws.map Assignment.pair = as := by
  induction as with
  | nil => exact ⟨[], rfl, rfl⟩
  | cons a as ih =>
    obtain ⟨ws, htext, hpair⟩ := ih fun b hb => hnames b (List.mem_cons_of_mem a hb)
    obtain ⟨vs, hvtext, hvchar⟩ := exists_written_value a.2.toList
    let w : Assignment := ⟨Blanks.none.push ' ' rfl, by decide,
      ⟨a.1.toList, hnames a List.mem_cons_self⟩, .none, .none, .double, vs⟩
    have hw : w.text = printAttribute a := by
      simp [w, Assignment.text, printAttribute, Blanks.none, Blanks.push, Quote.char, ← hvtext]
    have hwpair : w.pair = a := by
      show (String.ofList a.1.toList, String.ofList (vs.map Written.char)) = a
      rw [hvchar, String.ofList_toList, String.ofList_toList]
    exact ⟨w :: ws, by rw [List.flatMap_cons, List.flatMap_cons, hw, htext],
      by rw [List.map_cons, hwpair, hpair]⟩

/-- Where no name comes twice all attributes count. -/
theorem effective_of_nodup {as : List Attribute} (hnodup : (as.map Prod.fst).Nodup)
    (hstored : "__proto__" ∉ as.map Prod.fst) : effective as = as := by
  induction as with
  | nil => rfl
  | cons a as ih =>
    rw [List.map_cons] at hnodup hstored
    obtain ⟨hnotin, hnodup⟩ := List.nodup_cons.1 hnodup
    obtain ⟨hproto, hstored⟩ := not_or.1 (fun h => hstored (List.mem_cons.2 h))
    rw [effective, if_neg (Ne.symm hproto), ih hnodup hstored]
    congr 1
    refine List.filter_eq_self.2 fun b hb => ?_
    have hne : b.1 ≠ a.1 := fun heq => hnotin (heq ▸ List.mem_map_of_mem hb)
    simpa using hne

/-- A well-formed tag is written as it is printed. -/
theorem exists_startTag {t : Tag} (ht : t.IsWellFormed) :
    ∃ g : StartTag, g.text = printTag t ∧ g.name.chars = t.name.toList ∧
      g.name.text = t.name ∧ g.attributes = t.attributes := by
  obtain ⟨ws, htext, hpair⟩ := exists_assignments t.attributes ht.names
  have hnames : (ws.map fun w => w.pair.1) = t.attributes.map Prod.fst := by
    rw [← hpair, List.map_map]
    rfl
  let g : StartTag := ⟨.none, ⟨t.name.toList, ht.name⟩, ws, .none, by rw [hnames]; exact ht.lookup⟩
  refine ⟨g, ?_, rfl, String.ofList_toList, ?_⟩
  · simp [g, StartTag.text, StartTag.inner, printTag, Blanks.none, htext]
  · show effective (ws.map Assignment.pair) = _
    rw [hpair, effective_of_nodup ht.nodup ht.stored]

/-- The closing tag without blanks. -/
def EndTag.plain : EndTag := ⟨.none, .none, .none⟩

theorem EndTag.text_plain {n : Name} {name : String} (h : n.chars = name.toList) :
    EndTag.plain.text n = printEndTag name := by
  simp [plain, EndTag.text, EndTag.inner, printEndTag, Blanks.none, h]

namespace Markup

/-- Characters in front of some markup. -/
def chars : List (Written '<') → Markup → Markup
  | [], m => m
  | w :: ws, m => .char w (chars ws m)

theorem text_chars (ws : List (Written '<')) (m : Markup) :
    (chars ws m).text = ws.flatMap Written.text ++ m.text := by
  induction ws with
  | nil => rfl
  | cons w ws ih => rw [chars, text, ih, List.flatMap_cons, List.append_assoc]

theorem isPlain_chars (ws : List (Written '<')) (m : Markup) :
    (chars ws m).isPlain = m.isPlain := by
  induction ws with
  | nil => rfl
  | cons w ws ih => exact ih

theorem merge_content_chars (ws : List (Written '<')) (m : Markup) :
    (chars ws m).content.merge =
      m.content.merge.prepend (String.ofList (ws.map Written.char)) := by
  induction ws with
  | nil => exact (Content.prepend_empty _).symm
  | cons w ws ih =>
    rw [chars, content, Content.merge_text, ih, Content.prepend_prepend, ← String.ofList_append]
    rfl

end Markup

end Spelling

/-- A well-formed content is written as it is printed. -/
theorem exists_markup_print {c : Content} (hc : c.IsWellFormed) :
    ∃ m : Markup, m.isPlain = true ∧ m.text = c.print ∧ m.content.merge = c.merge := by
  induction c with
  | nil => exact ⟨.nil, rfl, rfl, rfl⟩
  | text v r ih =>
    obtain ⟨m, hplain, htext, hmerge⟩ := ih hc.2
    obtain ⟨ws, hwtext, hwchar⟩ := exists_written_text v.toList
    refine ⟨.chars ws m, ?_, ?_, ?_⟩
    · rw [Markup.isPlain_chars, hplain]
    · rw [Markup.text_chars, hwtext, htext]
      rfl
    · rw [Markup.merge_content_chars, hmerge, hwchar, String.ofList_toList]
      rfl
  | element n as c r ihc ihr =>
    obtain ⟨ht, hc, hr⟩ := hc
    obtain ⟨inner, hplain, htext, hmerge⟩ := ihc hc
    obtain ⟨rest, hplain', htext', hmerge'⟩ := ihr hr
    obtain ⟨g, hg, hchars, hname, hattributes⟩ := exists_startTag ht
    refine ⟨.element g inner .plain rest, ?_, ?_, ?_⟩
    · rw [Markup.isPlain, hplain, hplain']
      rfl
    · rw [Markup.text, hg, htext, htext', EndTag.text_plain hchars, Content.print]
    · rw [Markup.content, Content.merge_element, hmerge, hmerge', hname, hattributes]
      rfl

/-- A well-formed root element is written as it is printed. -/
theorem exists_document_print {e : Element} (he : e.IsWellFormed) :
    ∃ d : Document, d.root.isPlain = true ∧ d.string = e.print ∧ d.tree.merge = e.merge := by
  obtain ⟨m, hplain, htext, hmerge⟩ := exists_markup_print he.2
  obtain ⟨g, hg, hchars, hname, hattributes⟩ := exists_startTag he.1
  refine ⟨⟨false, [], .element g m .plain, []⟩, hplain, ?_, ?_⟩
  · have hclose : '<' :: (EndTag.plain.inner g.name ++ ['>']) = printEndTag e.name :=
      EndTag.text_plain hchars
    simp [Document.string, Document.text, Document.prolog, Root.text, Root.front, Element.print,
      hg, htext, ← hclose]
  · rw [Document.tree, Root.tree, hname, hattributes, Element.merge, hmerge]
    rfl

/-! ## parsing what is printed -/

/-- **Every accepted text has a normal form.**  The root element of an accepted text is
well-formed; what is printed of it is accepted, gives the same element but for the cuts
between text runs, and so has the same page. -/
theorem parse_print {t : String} {e : Element} (h : parse t = .ok e) :
    e.IsWellFormed ∧ parse e.print = .ok e.merge ∧ convert e.print = convert t := by
  have he : e.IsWellFormed := isWellFormed_of_parse h
  obtain ⟨d, hplain, hstring, htree⟩ := exists_document_print he
  have hparse : parse e.print = .ok e.merge := by
    rw [← hstring, parse_string, Root.gathered_of_isPlain hplain]
    exact congrArg _ htree
  refine ⟨he, hparse, ?_⟩
  rw [convert, convert, hparse, h]
  exact congrArg Except.ok (page_merge e)

/-- An attribute that is repeated, a run that is cut by a comment, and a section. -/
theorem parse_print_cut :
    parse "<!DOCTYPE a><a k='\"' k='2'>x<!--c-->&lt;<![CDATA[]]]]></a>" =
        .ok ⟨"a", [("k", "\"")], .text "x" (.text "<" (.text "]]" .nil))⟩ ∧
      parse "<a k=\"&quot;\">x&lt;]]</a>" = .ok ⟨"a", [("k", "\"")], .text "x<]]" .nil⟩ := by
  have h : parse "<!DOCTYPE a><a k='\"' k='2'>x<!--c-->&lt;<![CDATA[]]]]></a>" =
      .ok ⟨"a", [("k", "\"")], .text "x" (.text "<" (.text "]]" .nil))⟩ := by rfl
  obtain ⟨-, hprint, -⟩ := parse_print h
  exact ⟨h, hprint⟩

end Docdown.Xml
