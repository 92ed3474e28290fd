import Docdown.Markdown.Page
import Docdown.Proofs.Text.Words

/-!
# Docdown.Proofs.Markdown.Anchors

What the anchors on a page are (`slugRule`).  A slug joins the longest runs of ASCII letters
and digits of a text in lowercase, and the slug of two texts with a blank between them is made
of the slugs of both.  So a parameter is linked to the slug of its member's name, its member's
arguments and its own name.
-/

namespace Docdown.Markdown

open Doc

/-! ## links of parameters -/

/-- A parameter is linked to the slug of its member's name and arguments and its own name. -/
theorem nameCell?_eq {m : Member} {name : String} (hname : Text.slug name ≠ "")
    (hanchor : anchor m ≠ "") :
    nameCell? (anchor m) name =
      some ⟨name, some (Text.slug (m.name ++ " " ++ m.arguments ++ " " ++ name))⟩ := by
  have hne : name ≠ "" := by
    rintro rfl
    exact hname Text.slug_empty
  have hslug : Text.slug (m.name ++ " " ++ m.arguments ++ " " ++ name) =
      anchor m ++ "-" ++ Text.slug name := by
    have hblank : ∀ c ∈ " ".toList, c.toNat < 0x80 ∧ c.isAlphanum = false := by
      rintro c (_ | ⟨_, _ | _⟩)
      decide
    rw [Text.slug_append (by decide) hblank, ← anchor]
    simp [hname, hanchor, String.append_assoc]
  rw [nameCell?, if_neg hne, hslug]

theorem render_row_eq (text a : String) (type : Cell) (brief : String) :
    (Block.parameterRow (some ⟨text, some a⟩) type brief).render =
      "| [`" ++ text ++ "`](#" ++ a ++ ") | " ++ type.render ++ " | " ++ brief ++ " |" := by
  have hcell : Cell.render ⟨text, some a⟩ = "[`" ++ text ++ "`](#" ++ a ++ ")" := by
    rw [← String.toList_inj]
    simp [Cell.render]
  rw [Block.render, Option.map_some, Option.getD_some, hcell, ← String.toList_inj]
  simp

theorem parameterRow_mem_memberBlocks {m : Member} {p : Parameter} (h : p ∈ m.parameters) :
    parameterRow (anchor m) p ∈ memberBlocks m := by
  have htable : parameterRow (anchor m) p ∈ parameterBlocks m := by
    rw [parameterBlocks, if_neg (by simpa using List.ne_nil_of_mem h)]
    exact List.mem_append_right _ (List.mem_map_of_mem h)
  rw [memberBlocks]
  exact List.mem_append_left _ (List.mem_append_right _ htable)

/-! ## the rule of slugs -/

/-- What slugs are, and what is linked to them. -/
structure SlugRule : Prop where
  /-- Every text has a lowercase form. -/
  lowered : ∀ s : String, Text.IsLowered s.toList (Text.lower s.toList)
  /-- A slug joins the longest runs of word characters of a lowercase form, whichever it is. -/
  runs : ∀ (s : String) (cs : List Char), Text.IsLowered s.toList cs →
    ∃ ws, (∀ vs, Text.Runs Text.isWordChar cs vs ↔ vs = ws) ∧
      Text.slug s = joined "-" (ws.map String.ofList)
  /-- So it is what is left of one if each longest run of other characters becomes a hyphen and
  the hyphens at the ends are stripped. -/
  replaced : ∀ (s : String) (cs : List Char), Text.IsLowered s.toList cs →
    Text.slug s = String.ofList (Text.strip (· == '-') (Text.hyphenate cs))
  /-- It is empty or has words with single hyphens between them. -/
  shape : ∀ s : String, Text.slug s = "" ∨ Text.Hyphenated (Text.slug s).toList
  /-- The slug of a slug is the slug itself. -/
  again : ∀ s : String, Text.slug (Text.slug s) = Text.slug s
  /-- The slug of two texts with a separator between them is made of the slugs of both. -/
  append : ∀ s separator t : String, separator ≠ "" →
    (∀ c ∈ separator.toList, c.toNat < 0x80 ∧ c.isAlphanum = false) →
    Text.slug (s ++ separator ++ t) = joined "-" ([Text.slug s, Text.slug t].filter (· ≠ ""))
  /-- The row of a parameter links its name to the slug of the member's name and arguments and
  its own name. -/
  target : ∀ (m : Member), ∀ p ∈ m.parameters, Text.slug p.name ≠ "" → anchor m ≠ "" →
    parameterRow (anchor m) p ∈ memberBlocks m ∧
      (parameterRow (anchor m) p).render =
        "| [`" ++ p.name ++ "`](#" ++
          Text.slug (m.name ++ " " ++ m.arguments ++ " " ++ p.name) ++ ") | " ++
          (typeCell p.type).render ++ " | " ++ proseOf p.brief? ++ " |"

/-- **A slug joins the words of a text in lowercase**, and two texts with a separator between
them have the slugs of both. -/
theorem slugRule : SlugRule where
  lowered s := Text.isLowered_lower s.toList
  runs s cs hcs := by
    refine ⟨Text.words cs, fun vs => Text.runs_iff, ?_⟩
    rw [hcs.words_eq, Text.slug_eq_intercalate, joined]
  replaced s cs hcs := by
    rw [Text.strip_hyphenate, hcs.words_eq, ← Text.toList_slug, String.ofList_toList]
  shape s := by
    by_cases hs : Text.slug s = ""
    · exact .inl hs
    · exact .inr (Text.hyphenated_slug hs)
  again := Text.slug_slug
  append s separator t hne hascii := Text.slug_append hne hascii s t
  target m p hp hname hanchor := by
    refine ⟨parameterRow_mem_memberBlocks hp, ?_⟩
    rw [parameterRow, nameCell?_eq hname hanchor, render_row_eq]

/-- A parameter whose name has a dotted capital I and ends with a capital sigma. -/
def dottedSigma : Parameter := ⟨"\u0130x\u03A3", "double", none⟩

/-- A member whose name ends with a Kelvin sign. -/
def toKelvin : Member :=
  ⟨"to\u212A", "(double \u0130x\u03A3)", "double", none, none, [dottedSigma], none⟩

/-- The dot of the `i` and the final sigma stand between words, the Kelvin sign in one. -/
theorem slugRule_toKelvin :
    (∃ ws, (∀ vs, Text.Runs Text.isWordChar ['i', '\u0307', 'x', '\u03C2'] vs ↔ vs = ws) ∧
      Text.slug "\u0130x\u03A3" = joined "-" (ws.map String.ofList)) ∧
    (parameterRow (anchor toKelvin) dottedSigma).render =
      "| [`\u0130x\u03A3`](#tok-double-i-x-i-x) | [`double`](#type-double) |  |" := by
  have hfinal : Text.IsLowered "\u0130x\u03A3".toList ['i', '\u0307', 'x', '\u03C2'] := by
    have hdotted : Text.lowerChar '\u0130' = ['i', '\u0307'] := by decide
    have hx : Text.lowerChar 'x' = ['x'] := by decide
    have h := Text.IsLowered.char (c := '\u0130') (.char (c := 'x') (.finalSigma .nil))
    rwa [hdotted, hx] at h
  refine ⟨slugRule.runs _ _ hfinal, ?_⟩
  rw [(slugRule.target toKelvin dottedSigma List.mem_cons_self (by decide +kernel)
    (by decide +kernel)).2]
  decide +kernel

end Docdown.Markdown
