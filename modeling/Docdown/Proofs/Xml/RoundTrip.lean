import Docdown.Proofs.Doc.Runs
import Docdown.Proofs.Xml.Reading.Documents

/-!
# Docdown.Proofs.Xml.RoundTrip

Parsing undoes spelling: however a tree is written down, parsing gives it back up
to the cuts between text runs (`parse_of_spells`), so all spellings of a tree have
one page and one group.
-/

namespace Docdown.Xml

open Spelling

/-- At rest outside of every element nothing is left unfinished. -/
theorem Scanner.finish_outside {m : Mode} (hm : m.isResting = true) (e : Element) (n : Nat) :
    (outside m (some e)).finish n = .ok e := by
  have hlength : (outside m (some e)).tooLong? = none := by
    unfold Mode.isResting at hm
    split at hm
    · rfl
    · rfl
    · rfl
    · contradiction
  exact finish_eq_ok_iff.2 ⟨Or.inr hlength, rfl, hm, rfl⟩

/-- Parsing a spelling gives the root element with the runs that reading gathers. -/
theorem parse_string (d : Document) : parse d.string = .ok d.root.gathered := by
  obtain ⟨m, hm, hread⟩ := Scanner.exists_readAll_document d
  rw [parse_eq_ok_iff, Document.string, String.toList_ofList]
  exact ⟨_, hread, Scanner.finish_outside hm _ _⟩

/-- **Parsing undoes every spelling of a tree**, but for the cuts between text
runs.  Nothing is lost if the tree has no empty and no adjacent runs and there is
no comment, instruction or section in the root element.  The page and the group
are those of the tree, so they are the same for all its spellings. -/
theorem parse_of_spells {d : Document} {e : Element} (h : d.Spells e) :
    (∃ r, parse d.string = .ok r ∧ r.merge = e.merge) ∧
    (d.root.isPlain = true → e.isMerged = true → parse d.string = .ok e) ∧
    convert d.string = .ok (page e) ∧
    (parse d.string).map Group.ofDocument = .ok (Group.ofDocument e) := by
  have hmerge : d.root.gathered.merge = e.merge := d.root.merge_gathered.trans h
  have hpage : page d.root.gathered = page e := by
    rw [← page_merge, hmerge, page_merge]
  have hgroup : Group.ofDocument d.root.gathered = Group.ofDocument e := by
    rw [← Group.ofDocument_merge, hmerge, Group.ofDocument_merge]
  rw [convert, parse_string]
  refine ⟨⟨_, rfl, hmerge⟩, fun hplain hmerged => ?_, congrArg _ hpage, congrArg _ hgroup⟩
  have hgathered : d.root.gathered = d.tree.merge := Root.gathered_of_isPlain hplain
  rw [hgathered, h, Element.merge_eq_self hmerged]

/-- A byte-order mark and a comment, then an element whose text `a<b]` is written
as a character, a reference, an empty comment and a section. -/
def Spelling.Document.mixed : Document where
  mark := true
  before := [.aside (.comment .none [' ', 'c', ' '] (by decide) (by decide)),
    .blanks (Blanks.none.push '\n' rfl)]
  root := .element
    { lead := Blanks.none.push ' ' rfl
      name := ⟨['n'], by decide⟩
      assignments := [{
        gap := Blanks.none.push ' ' rfl
        gap_ne_nil := by decide
        name := ⟨['k'], by decide⟩
        beforeEquals := Blanks.none.push ' ' rfl
        afterEquals := Blanks.none.push ' ' rfl
        quote := .single
        value := [.plain 'v' ⟨by decide, by decide⟩,
          .reference ⟨['#', '3', '3'], by decide, by decide +kernel⟩] }]
      tail := .none
      lookup := by decide }
    (.char (.plain 'a' ⟨by decide, by decide⟩) <|
      .char (.reference ⟨['l', 't'], by decide, by decide +kernel⟩) <|
      .aside (.comment .none [] (by decide) (by decide)) <|
      .cdata .none ['b', ']'] (by decide) .nil)
    ⟨Blanks.none.push ' ' rfl, Blanks.none.push ' ' rfl, .none⟩
  after := [.blanks (Blanks.none.push '\t' rfl)]

/-- The two runs are one text to everything that is made of the tree. -/
theorem parse_of_spells_mixed :
    Document.mixed.string =
        "\uFEFF<!-- c -->\n< n k = 'v&#33;'>a&lt;<!----><![CDATA[b]]]>< / n>\t" ∧
      Document.mixed.Spells ⟨"n", [("k", "v!")], .text "a<b]" .nil⟩ ∧
      convert Document.mixed.string = .ok (page ⟨"n", [("k", "v!")], .text "a<b]" .nil⟩) := by
  have hspells : Document.mixed.Spells ⟨"n", [("k", "v!")], .text "a<b]" .nil⟩ := by
    unfold Document.Spells
    decide +kernel
  obtain ⟨-, -, hpage, -⟩ := parse_of_spells hspells
  exact ⟨by decide +kernel, hspells, hpage⟩

end Docdown.Xml
