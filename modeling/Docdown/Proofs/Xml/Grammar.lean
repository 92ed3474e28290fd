import Docdown.Proofs.Xml.Accepting.Steps
import Docdown.Proofs.Xml.RoundTrip

/-!
# Docdown.Proofs.Xml.Grammar

Parsing accepts exactly the spellings: of the texts without comments, sections,
instructions and declarations those and only those are accepted that spell an
element, with nothing but blanks around it, and the element is what they are parsed
to (`parse_eq_ok_iff_exists_document`).
-/

namespace Docdown.Xml

open Spelling

/-- Where a text may end a spelling is complete. -/
theorem Spelling.Reached.exists_document {t : List Char} {s : Scanner} {e : Element}
    (h : Reached t s) (hframes : s.tree.frames = []) (hmode : s.mode.isResting = true)
    (hroot : s.tree.root? = some e) :
    ∃ d : Document, d.isPlain = true ∧ d.text = t ∧ d.tree.merge = e := by
  cases h with
  | spot p =>
    obtain ⟨mark, b, stage⟩ := p
    cases stage with
    | before => contradiction
    | inside o around => contradiction
    | after r hr b' =>
      refine ⟨⟨mark, [.blanks b], r, [.blanks b']⟩, ?_, ?_, ?_⟩
      · simp [Document.isPlain, Misc.isBlanks, hr]
      · simp [Document.text, Document.prolog, Misc.text, Spot.text, Stage.text]
      · rw [Document.tree, ← Root.gathered_of_isPlain hr]
        exact Option.some.inj hroot
  | _ => contradiction

/-- **Parsing accepts nothing but spellings**, and it accepts all of them.  A text
in which no comment, section, instruction or declaration begins is parsed to an
element exactly if it is a byte-order mark or none, blanks, a spelling of the
element and blanks. -/
theorem parse_eq_ok_iff_exists_document {t : String} {e : Element}
    (h : declares t.toList = false) :
    parse t = .ok e ↔ ∃ d : Document, d.isPlain = true ∧ d.string = t ∧ d.tree.merge = e := by
  constructor
  · intro hparse
    obtain ⟨s, hread, hfinish⟩ := parse_eq_ok_iff.1 hparse
    obtain ⟨-, hframes, hmode, hroot⟩ := Scanner.finish_eq_ok_iff.1 hfinish
    have hreached : Reached t.toList s := reached_of_readAll .start hread h
    obtain ⟨d, hplain, htext, htree⟩ := hreached.exists_document hframes hmode hroot
    refine ⟨d, hplain, ?_, htree⟩
    rw [Document.string, htext, String.ofList_toList]
  · rintro ⟨d, hplain, rfl, htree⟩
    have hroot : d.root.isPlain = true := by
      rw [Document.isPlain, Bool.and_eq_true, Bool.and_eq_true] at hplain
      exact hplain.1.2
    rw [parse_string, Root.gathered_of_isPlain hroot]
    exact congrArg _ htree

/-- A text with a reference, an attribute that is repeated and a closing tag with
blanks in it. -/
theorem parse_eq_ok_iff_exists_document_repeated :
    declares "<a k='1' k=\"2\">&lt;<b/></ a > ".toList = false ∧
      ∃ d : Document, d.isPlain = true ∧ d.string = "<a k='1' k=\"2\">&lt;<b/></ a > " ∧
        d.tree.merge = ⟨"a", [("k", "1")], .text "<" (.element "b" [] .nil .nil)⟩ :=
  have h : declares "<a k='1' k=\"2\">&lt;<b/></ a > ".toList = false := by decide
  ⟨h, (parse_eq_ok_iff_exists_document h).1 (by rfl)⟩

end Docdown.Xml
