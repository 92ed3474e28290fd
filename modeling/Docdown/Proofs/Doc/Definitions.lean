import Docdown.Doc.Reading
import Docdown.Proofs.Markdown.Members
import Docdown.Proofs.Xml.Places

/-!
# Docdown.Proofs.Doc.Definitions

Which definitions of a tree are read, in which order and how often (`exists_sources`).
Members and compounds are read at any depth, each element of theirs once and in document
order.  An enumeration is read once for each compound around it, so it has as many headings
on the page as there are compounds around it.
-/

namespace Docdown

open Xml (Element)
open Xml.Content (Place)

/-! ## headings of enumerations -/

namespace Markdown

open Doc

/-- The name in the heading of an enumeration. -/
def Block.enumName? : Block → Option String
  | .enumHeading name => some name
  | _ => none

theorem enumNames_enumBlocks (e : Enumeration) :
    (enumBlocks e).filterMap Block.enumName? = [e.name] := by
  have hrest : (ifAny .prose (proseOf e.brief?) ++ e.values.map fun v =>
      Block.enumValue v.name (proseOf v.brief?)).filterMap Block.enumName? = [] := by
    refine List.filterMap_eq_nil_iff.2 fun b hb => ?_
    rcases List.mem_append.1 hb with hb | hb
    · obtain ⟨-, rfl⟩ := mem_ifAny.1 hb
      rfl
    · obtain ⟨v, -, rfl⟩ := List.mem_map.1 hb
      rfl
  rw [enumBlocks, List.cons_append, List.filterMap_cons, hrest]
  rfl

/-- A compound has a heading for each of its enumerations, in order. -/
theorem enumNames_compoundBlocks (c : Compound) :
    (compoundBlocks c).filterMap Block.enumName? = c.enums.map (·.name) := by
  have hfront : (if isHeaded c.kind then
      Block.compoundHeading c.name :: ifAny .prose (proseOf c.brief?) ++
        ifAny .prose (proseOf c.detail?) else []).filterMap Block.enumName? = [] := by
    split
    · refine List.filterMap_eq_nil_iff.2 fun b hb => ?_
      rw [List.cons_append, List.mem_cons, List.mem_append, mem_ifAny, mem_ifAny] at hb
      obtain rfl | ⟨-, rfl⟩ | ⟨-, rfl⟩ := hb <;> rfl
    · rfl
  have henums : (c.enums.flatMap enumBlocks).filterMap Block.enumName? = c.enums.map (·.name) := by
    induction c.enums with
    | nil => rfl
    | cons e es ih =>
      rw [List.flatMap_cons, List.filterMap_append, enumNames_enumBlocks, ih]
      rfl
  rw [compoundBlocks, List.filterMap_append, hfront, henums, List.nil_append]

/-- Members have no headings of enumerations. -/
theorem enumNames_addedBlocks (page : List Block) (m : Member) :
    (addedBlocks page m).filterMap Block.enumName? = [] := by
  refine List.filterMap_eq_nil_iff.2 fun b hb => ?_
  have hkind := isOfMember_of_mem_addedBlocks hb
  cases b with
  | enumHeading name => cases hkind
  | _ => rfl

/-- The headings of enumerations on a page are those of the compounds, in order. -/
theorem enumNames_blocks (d : Document) :
    (blocks d).filterMap Block.enumName? = (d.compounds.flatMap (·.enums)).map (·.name) := by
  rw [filterMap_blocks enumNames_compoundBlocks enumNames_addedBlocks, List.map_flatMap]
  simp

end Markdown

/-! ## where definitions are read -/

namespace Doc

/-- What is read of the element at a place inside an element. -/
def readAt (read : Element → α) (root : Element) (p : Place) : Option α :=
  (root.content.at? p).map read

/-- Where the definitions of a document are read: its members, its compounds, and for each
compound the enumerations in it. -/
structure Sources (root : Element) (members compounds : List Place) (enums : List (List Place)) :
    Prop where
  /-- Each member, at whatever depth, is read once and in document order. -/
  members_places : root.content.Lists (fun _ e => e.name = "memberdef") members
  members_read : (Document.ofElement root).members.map some = members.map (readAt .ofElement root)
  /-- So is each compound. -/
  compounds_places : root.content.Lists (fun _ e => e.name = "compounddef") compounds
  compounds_read : (Document.ofElement root).compounds.map some =
    compounds.map (readAt .ofElement root)
  /-- A compound has the enumerations inside it, in document order. -/
  enums_places : List.Forall₂ (fun q ps =>
    root.content.Lists (fun p e => e.name = "enum" ∧ q <+: p ∧ q ≠ p) ps) compounds enums
  enums_read : (Document.ofElement root).compounds.map (·.enums.map some) =
    enums.map fun ps => ps.map (readAt .ofElement root)
  /-- So an enumeration is read as often as there are compounds around it. -/
  enums_count : ∀ p e, root.content.at? p = some e → e.name = "enum" →
    enums.flatten.count p = (root.content.around p).countP (·.name = "compounddef")
  /-- Each time it has a heading on the page. -/
  enums_headings :
    ((Markdown.blocks (.ofElement root)).filterMap Markdown.Block.enumName?).map some =
      enums.flatten.map (readAt (fun e => (Enumeration.ofElement e).name) root)

/-- What is read of the elements at some places is read of the elements. -/
theorem map_readAt {root : Element} {ps : List Place} {es : List Element}
    (h : ps.map root.content.at? = es.map some) (read : Element → α) :
    (es.map read).map some = ps.map (readAt read root) := by
  have hread : readAt read root = Option.map read ∘ root.content.at? := rfl
  rw [hread, ← List.map_map, h, List.map_map, List.map_map]
  rfl

/-- The enumerations of the compounds at some places are read at the places inside these. -/
theorem map_readAt_placesIn {root : Element} {qs : List Place} {es : List Element}
    (h : qs.map root.content.at? = es.map some) :
    (es.map Compound.ofElement).map (·.enums.map some) =
      (qs.map (root.content.placesIn "enum")).map fun ps => ps.map (readAt .ofElement root) := by
  let enumsOf : Option Element → List (Option Enumeration) := fun e? =>
    (e?.map fun e => (Compound.ofElement e).enums.map some).getD []
  have hplace : ∀ q, (root.content.placesIn "enum" q).map (readAt .ofElement root) =
      enumsOf (root.content.at? q) := by
    intro q
    cases hq : root.content.at? q with
    | none =>
      rw [Xml.Content.placesIn, hq]
      rfl
    | some e => exact (map_readAt (Xml.Content.map_at?_placesIn "enum" hq) _).symm
  calc (es.map Compound.ofElement).map (·.enums.map some)
      = (es.map some).map enumsOf := by
        rw [List.map_map, List.map_map]
        rfl
    _ = qs.map (enumsOf ∘ root.content.at?) := by rw [← h, List.map_map]
    _ = (qs.map (root.content.placesIn "enum")).map fun ps =>
          ps.map (readAt .ofElement root) := by
        rw [List.map_map]
        exact List.map_congr_left fun q _ => (hplace q).symm

/-- The headings of enumerations on a page have the names read where the enumerations are. -/
theorem map_enumNames_blocks {d : Document} {root : Element} {groups : List (List Place)}
    (h : d.compounds.map (·.enums.map some) =
      groups.map fun ps => ps.map (readAt Enumeration.ofElement root)) :
    ((Markdown.blocks d).filterMap Markdown.Block.enumName?).map some =
      groups.flatten.map (readAt (fun e => (Enumeration.ofElement e).name) root) := by
  have hname : readAt (fun e => (Enumeration.ofElement e).name) root =
      Option.map (·.name) ∘ readAt Enumeration.ofElement root :=
    funext fun _ => (Option.map_map ..).symm
  have henums : (d.compounds.flatMap (·.enums)).map some =
      groups.flatten.map (readAt Enumeration.ofElement root) := by
    rw [List.map_flatten, ← h, List.map_flatMap, List.flatMap]
  rw [Markdown.enumNames_blocks, hname, ← List.map_map, ← henums, List.map_map, List.map_map]
  rfl

/-- **Every definition is read in document order and with its multiplicity.**  There are
places at which members, compounds and enumerations are read; they are the places of all
members, of all compounds and, for each compound, of all enumerations in it. -/
theorem exists_sources (root : Element) :
    ∃ members compounds enums, Sources root members compounds enums := by
  have hcompounds := root.content.map_at?_places "compounddef"
  have henums := map_readAt_placesIn hcompounds
  refine ⟨root.content.places "memberdef", root.content.places "compounddef",
    (root.content.places "compounddef").map (root.content.placesIn "enum"), ?_⟩
  exact {
    members_places := Xml.Content.lists_places _ _
    members_read := map_readAt (root.content.map_at?_places "memberdef") _
    compounds_places := Xml.Content.lists_places _ _
    compounds_read := map_readAt hcompounds _
    enums_places := by
      rw [List.forall₂_map_right_iff, List.forall₂_same]
      intro q hq
      obtain ⟨e, he, -⟩ := Xml.Content.mem_places.1 hq
      exact Xml.Content.lists_placesIn "enum" he
    enums_read := henums
    enums_count := fun p e hp hname => Xml.Content.count_flatMap_placesIn _ hp hname
    enums_headings := map_enumNames_blocks henums }

-- A compound in a compound: the enumeration inside both has two headings.
example : (Markdown.blocks (.ofElement ⟨"d", [], .element "compounddef" []
    (.element "compounddef" [] (.element "enum" [] (.element "name" [] (.text "E" .nil) .nil) .nil)
      .nil) .nil⟩)).filterMap Markdown.Block.enumName? = ["E", "E"] := by decide

end Doc

end Docdown
