import Docdown.Convert
import Docdown.Proofs.Markdown.Assembly
import Docdown.Proofs.Text.Stripping
import Docdown.Proofs.Xml.Places

/-!
# Docdown.Proofs.Markdown.EmptyPage

What the page of a text is made of (`pageRule`).  A page begins with a heading, so only blanks
at its end are trimmed away, and only a page without blocks is a lone line feed.  It has none
if and only if the tree has nothing to show: no members, no enumerations inside compounds and
no compounds with headings (`IsSilent`).
-/

namespace Docdown

open Xml (Element)

/-! ## elements below an element -/

/-- Whether an element stands inside another, at any depth. -/
def Xml.Element.IsBelow (e root : Element) : Prop := ∃ p, root.content.at? p = some e

namespace Doc

/-- Nothing of a name is found inside an element if and only if nothing below has the name. -/
theorem descendants_eq_nil_iff {root : Element} {name : String} :
    root.descendants name = [] ↔ ∀ e : Element, e.IsBelow root → e.name ≠ name := by
  rw [List.eq_nil_iff_forall_not_mem]
  constructor
  · rintro h e ⟨p, hp⟩ hname
    exact h e (Xml.Content.mem_descendants.2 ⟨p, hp, hname⟩)
  · intro h e he
    obtain ⟨p, hp, hname⟩ := Xml.Content.mem_descendants.1 he
    exact h e ⟨p, hp⟩ hname

theorem isHeaded_attributeText_iff (e : Element) :
    Markdown.isHeaded (attributeText e "kind") = true ↔
      ∃ kind ∈ ["class", "struct", "namespace"], e.attribute? "kind" = some kind := by
  rw [Markdown.isHeaded, decide_eq_true_eq, attributeText]
  cases e.attribute? "kind" with
  | none => simp
  | some kind => simp

/-- Whether there is nothing to show in a tree: no members, no compounds with headings, and no
enumerations in compounds. -/
structure IsSilent (root : Element) : Prop where
  noMember : ∀ e : Element, e.IsBelow root → e.name ≠ "memberdef"
  noHeading : ∀ e : Element, e.IsBelow root → e.name = "compounddef" →
    ∀ kind ∈ ["class", "struct", "namespace"], e.attribute? "kind" ≠ some kind
  noEnum : ∀ e : Element, e.IsBelow root → e.name = "compounddef" →
    ∀ d : Element, d.IsBelow e → d.name ≠ "enum"

end Doc

namespace Markdown

open Doc

/-! ## pages without blocks -/

theorem compoundBlocks_eq_nil_iff {c : Compound} :
    compoundBlocks c = [] ↔ isHeaded c.kind = false ∧ c.enums = [] := by
  have henum : ∀ e, enumBlocks e ≠ [] := fun e => List.cons_ne_nil _ _
  rw [compoundBlocks, List.append_eq_nil_iff, List.flatMap_eq_nil_iff]
  refine and_congr ?_ ?_
  · cases isHeaded c.kind <;> simp
  · rw [List.eq_nil_iff_forall_not_mem]
    exact forall_congr' fun e => ⟨fun h he => henum e (h he), fun h he => absurd he h⟩

/-- A page has no blocks if and only if the document has no members, no compounds with headings
and no enumerations. -/
theorem blocks_eq_nil_iff {d : Document} :
    blocks d = [] ↔ d.members = [] ∧
      ∀ c ∈ d.compounds, isHeaded c.kind = false ∧ c.enums = [] := by
  have hadded : ∀ page m, addedBlocks page m ≠ [] := by
    intro page m
    simp [addedBlocks]
  rw [blocks_eq, List.append_eq_nil_iff, and_comm, compoundsBlocks, List.flatMap_eq_nil_iff,
    List.flatMap_eq_nil_iff]
  refine and_congr ?_ (forall₂_congr fun c _ => compoundBlocks_eq_nil_iff)
  constructor
  · intro h
    rw [← List.zipIdx_eq_nil_iff (i := 0), List.eq_nil_iff_forall_not_mem]
    exact fun m hm => hadded _ _ (h m hm)
  · intro h
    simp [h]

/-- The page of a tree has no blocks if and only if there is nothing to show in it. -/
theorem blocks_ofElement_eq_nil_iff {root : Element} :
    blocks (.ofElement root) = [] ↔ IsSilent root := by
  have hcompound : ∀ e : Element, isHeaded (Compound.ofElement e).kind = false ∧
      (Compound.ofElement e).enums = [] ↔
        (∀ kind ∈ ["class", "struct", "namespace"], e.attribute? "kind" ≠ some kind) ∧
          ∀ d : Element, d.IsBelow e → d.name ≠ "enum" := by
    intro e
    have hkind := (isHeaded_attributeText_iff e).not
    rw [Bool.not_eq_true] at hkind
    rw [Compound.ofElement, List.map_eq_nil_iff, descendants_eq_nil_iff, hkind]
    refine and_congr_left' ?_
    constructor
    · exact fun h kind hmem heq => h ⟨kind, hmem, heq⟩
    · exact fun h ⟨kind, hmem, heq⟩ => h kind hmem heq
  rw [blocks_eq_nil_iff, Document.ofElement, List.map_eq_nil_iff, descendants_eq_nil_iff]
  simp only [List.forall_mem_map, hcompound]
  constructor
  · rintro ⟨hmembers, hcompounds⟩
    have hall : ∀ e : Element, e.IsBelow root → e.name = "compounddef" → _ :=
      fun e ⟨p, hp⟩ hname => hcompounds e (Xml.Content.mem_descendants.2 ⟨p, hp, hname⟩)
    exact ⟨hmembers, fun e he hname => (hall e he hname).1, fun e he hname => (hall e he hname).2⟩
  · intro h
    refine ⟨h.noMember, fun e he => ?_⟩
    obtain ⟨p, hp, hname⟩ := Xml.Content.mem_descendants.1 he
    exact ⟨h.noHeading e ⟨p, hp⟩ hname, h.noEnum e ⟨p, hp⟩ hname⟩

/-! ## what is trimmed from a page -/

theorem Block.prefix_render {b : Block} (h : b.isHeading = true) :
    ['#', '#'] <+: b.render.toList := by
  unfold isHeading at h
  split at h
  · simp [render]
  · simp [render]
  · simp [render]
  · contradiction

/-- The text of a page with blocks begins with that of a heading. -/
theorem prefix_joined_blocks {d : Document} (h : blocks d ≠ []) :
    ['#', '#'] <+: (joined "\n" ((blocks d).map Block.render)).toList := by
  obtain ⟨b, bs, hbs⟩ := List.exists_cons_of_ne_nil h
  have hheading : b.isHeading = true := startsWithHeading_blocks d b (by rw [hbs]; rfl)
  rw [hbs, List.map_cons]
  by_cases hnil : bs = []
  · rw [hnil, List.map_nil, joined, String.intercalate_singleton]
    exact Block.prefix_render hheading
  · rw [joined, String.intercalate_cons_of_ne_nil (by simpa using hnil), String.append_assoc,
      String.toList_append]
    exact (Block.prefix_render hheading).trans (List.prefix_append _ _)

/-- Of a page with blocks only blanks at the end are trimmed away. -/
theorem exists_kept {d : Document} (h : blocks d ≠ []) :
    ∃ kept blanks, joined "\n" ((blocks d).map Block.render) = kept ++ blanks ∧
      Text.AllBlank blanks ∧ page d = kept ++ "\n" ∧ ['#', '#'] <+: kept.toList ∧
      ∃ c ∈ kept.toList.getLast?, Text.isBlank c = false := by
  obtain ⟨rest, hrest⟩ := prefix_joined_blocks h
  -- The number signs of the first heading keep the front as it is.
  have htrim : (Text.trim (joined "\n" ((blocks d).map Block.render))).toList =
      ['#', '#'] ++ rest.rdropWhile Text.isBlank := by
    rw [Text.toList_trim, ← hrest]
    exact strip_append ⟨'#', rfl, by decide⟩ ⟨'#', rfl, by decide⟩ rest
  have hhash : ['#', '#'] <+: (Text.trim (joined "\n" ((blocks d).map Block.render))).toList := by
    rw [htrim]
    exact List.prefix_append _ _
  refine ⟨Text.trim (joined "\n" ((blocks d).map Block.render)),
    String.ofList (rest.rtakeWhile Text.isBlank), ?_, ?_, rfl, hhash, ?_⟩
  · rw [← String.toList_inj, String.toList_append, htrim, String.toList_ofList, List.append_assoc,
      List.rdropWhile_append_rtakeWhile, hrest]
  · intro c hc
    rw [String.toList_ofList] at hc
    exact List.mem_rtakeWhile_imp hc
  · obtain ⟨more, hmore⟩ := hhash
    have hne : (Text.trim (joined "\n" ((blocks d).map Block.render))).toList ≠ [] := by
      rw [← hmore]
      simp
    exact ⟨_, List.getLast?_eq_some_getLast hne,
      (Text.isTrimmed_trim _).last _ (List.getLast?_eq_some_getLast hne)⟩

theorem page_eq_newline_iff {d : Document} : page d = "\n" ↔ blocks d = [] := by
  constructor
  · intro hpage
    by_contra h
    obtain ⟨kept, _, _, _, hkept, ⟨more, hmore⟩, _⟩ := exists_kept h
    rw [hkept, ← String.toList_inj, String.toList_append, ← hmore] at hpage
    simp at hpage
  · intro h
    rw [page, h]
    rfl

end Markdown

open Doc (IsSilent Document)
open Markdown (Block blocks joined)

/-! ## the rule of pages -/

/-- What the page of a text is made of. -/
structure PageRule (text : String) (root : Element) : Prop where
  /-- It is a lone line feed if and only if there is nothing to show in the tree. -/
  lone : convert text = .ok "\n" ↔ IsSilent root
  /-- Otherwise it is the blocks, each on lines of its own, but for blanks at the end, and a
  final line feed.  It begins with two number signs and has no blank before the line feed. -/
  whole : ¬IsSilent root →
    ∃ kept blanks, joined "\n" ((blocks (.ofElement root)).map Block.render) = kept ++ blanks ∧
      Text.AllBlank blanks ∧ convert text = .ok (kept ++ "\n") ∧ ['#', '#'] <+: kept.toList ∧
      ∃ c ∈ kept.toList.getLast?, Text.isBlank c = false

/-- **A page is a lone line feed only if there is nothing to show, and of any other page only
blanks at the end are trimmed away.** -/
theorem pageRule {text : String} {root : Element} (h : Xml.parse text = .ok root) :
    PageRule text root := by
  have hconvert : convert text = .ok (Markdown.page (.ofElement root)) := by
    rw [convert, h]
    rfl
  constructor
  · rw [hconvert, Except.ok.injEq, Markdown.page_eq_newline_iff,
      Markdown.blocks_ofElement_eq_nil_iff]
  · intro hsilent
    rw [← Markdown.blocks_ofElement_eq_nil_iff] at hsilent
    obtain ⟨kept, blanks, hjoined, hblank, hpage, hends⟩ := Markdown.exists_kept hsilent
    exact ⟨kept, blanks, hjoined, hblank, by rw [hconvert, hpage], hends⟩

/-- Of the heading of a class without a name the blank at the end is trimmed away. -/
theorem pageRule_nameless :
    Xml.parse "<d><compounddef kind='class'/></d>" =
        .ok ⟨"d", [], .element "compounddef" [("kind", "class")] .nil .nil⟩ ∧
      convert "<d><compounddef kind='class'/></d>" = .ok "##\n" ∧
      ¬IsSilent ⟨"d", [], .element "compounddef" [("kind", "class")] .nil .nil⟩ ∧
      ∃ blanks, joined "\n" ((blocks (.ofElement ⟨"d", [],
        .element "compounddef" [("kind", "class")] .nil .nil⟩)).map Block.render) =
          "##" ++ blanks ∧ Text.AllBlank blanks := by
  have hparse : Xml.parse "<d><compounddef kind='class'/></d>" =
      .ok ⟨"d", [], .element "compounddef" [("kind", "class")] .nil .nil⟩ := by rfl
  have hpage : convert "<d><compounddef kind='class'/></d>" = .ok "##\n" := by rfl
  have hrule := pageRule hparse
  have hsilent : ¬IsSilent ⟨"d", [], .element "compounddef" [("kind", "class")] .nil .nil⟩ := by
    intro h
    have hlone := hrule.lone.2 h
    rw [hpage] at hlone
    exact absurd (Except.ok.inj hlone) (by decide)
  obtain ⟨kept, blanks, hjoined, hblank, hkept, -⟩ := hrule.whole hsilent
  have hhash : "##" = kept := by
    rw [hpage, Except.ok.injEq] at hkept
    exact (String.append_left_inj "\n").1 hkept
  exact ⟨hparse, hpage, hsilent, blanks, by rw [hjoined, hhash], hblank⟩

end Docdown
