import Docdown.Convert
import Docdown.Proofs.Markdown.Assembly
import Docdown.Proofs.Text.Splitting

/-!
# Docdown.Proofs.Markdown.Table

The table of a member's parameters.  The texts of a parameter stand in its row as they were
written.  So the rows make a table if and only if no name, type or description breaks its
line or has a bar of its own (`parameterTable`); a bar after a backslash is not one of the
table.
-/

namespace Docdown.Markdown

open Doc
open Xml (lines)

/-! ## bars -/

/-- How many bars there are without a backslash right before them, in a text after a
character. -/
def barsAfter (before : Char) : List Char → Nat
  | [] => 0
  | c :: cs => (if c = '|' ∧ before ≠ '\\' then 1 else 0) + barsAfter c cs

/-- How many bars of a text have no backslash right before them.  The blank stands for what is
not a backslash. -/
def bars (s : String) : Nat := barsAfter ' ' s.toList

theorem barsAfter_append_cons (before c : Char) (xs ys : List Char) :
    barsAfter before (xs ++ c :: ys) = barsAfter before (xs ++ [c]) + barsAfter c ys := by
  induction xs generalizing before with
  | nil => rfl
  | cons x xs ih => rw [List.cons_append, barsAfter, ih, List.cons_append, barsAfter, Nat.add_assoc]

/-- What is before a text matters only if it is a backslash. -/
theorem barsAfter_of_ne {before : Char} (h : before ≠ '\\') (xs : List Char) :
    barsAfter before xs = barsAfter ' ' xs := by
  cases xs with
  | nil => rfl
  | cons x xs => simp [barsAfter, h]

/-- A character between two texts keeps their bars apart unless it is a bar or a backslash. -/
theorem barsAfter_append_cons_of_ne {c : Char} (hbar : c ≠ '|') (hback : c ≠ '\\') (before : Char)
    (xs ys : List Char) :
    barsAfter before (xs ++ c :: ys) = barsAfter before xs + barsAfter ' ' ys := by
  have hend : ∀ before, barsAfter before (xs ++ [c]) = barsAfter before xs := by
    induction xs with
    | nil => simp [barsAfter, hbar]
    | cons x xs ih =>
      intro before
      rw [List.cons_append, barsAfter, ih, barsAfter]
  rw [barsAfter_append_cons, hend, barsAfter_of_ne hback]

theorem barsAfter_eq_zero_of_not_mem {xs : List Char} (h : '|' ∉ xs) (before : Char) :
    barsAfter before xs = 0 := by
  induction xs generalizing before with
  | nil => rfl
  | cons x xs ih =>
    have hx : x ≠ '|' := fun e => h (e ▸ List.mem_cons_self)
    rw [barsAfter, ih fun hxs => h (List.mem_cons_of_mem x hxs), if_neg fun e => hx e.1]

/-! ## cells -/

/-- Whether a text has word characters and hyphens only, as anchors do. -/
def IsAnchor (a : String) : Prop := ∀ c ∈ a.toList, Text.isWordChar c = true ∨ c = '-'

theorem isAnchor_slug (s : String) : IsAnchor (Text.slug s) :=
  fun _ => Text.isWordChar_of_mem_slug

theorem IsAnchor.append {a b : String} (ha : IsAnchor a) (hb : IsAnchor b) :
    IsAnchor (a ++ b) := by
  intro c hc
  rw [String.toList_append, List.mem_append] at hc
  exact hc.elim (ha c) (hb c)

theorem IsAnchor.not_mem {a : String} (h : IsAnchor a) {c : Char}
    (hword : Text.isWordChar c = false) (hhyphen : c ≠ '-') : c ∉ a.toList := by
  intro hc
  obtain hc | hc := h c hc
  · rw [hword] at hc
    contradiction
  · exact hhyphen hc

theorem isAnchor_nameAnchor (m : Member) (name : String) :
    IsAnchor (anchor m ++ "-" ++ Text.slug name) := by
  have hhyphen : IsAnchor "-" := by simp [IsAnchor]
  exact ((isAnchor_slug _).append hhyphen).append (isAnchor_slug name)

theorem isAnchor_typeAnchor (type : String) : IsAnchor ("type-" ++ Text.slug type) := by
  have htype : IsAnchor "type-" := by simp [IsAnchor, Text.isWordChar]
  exact htype.append (isAnchor_slug type)

theorem anchored_typeCell (type : String) : ∀ a ∈ (typeCell type).anchor?, IsAnchor a := by
  intro a ha
  unfold typeCell at ha
  dsimp only at ha
  split at ha
  · contradiction
  · obtain rfl := Option.some.inj ha
    exact isAnchor_typeAnchor type

/-- Whether a rendered text has the bars and the line breaks of another, and no more. -/
structure Shows (rendered text : String) : Prop where
  bars_eq : bars rendered = bars text
  newline_mem : '\n' ∈ rendered.toList ↔ '\n' ∈ text.toList

theorem shows_render {c : Cell} (h : ∀ a ∈ c.anchor?, IsAnchor a) : Shows c.render c.text := by
  have htext : barsAfter '`' c.text.toList = bars c.text := barsAfter_of_ne (by decide) _
  unfold Cell.render
  split
  next a ha =>
    have hbar : '|' ∉ a.toList := (h a ha).not_mem (by decide) (by decide)
    have hbreak : '\n' ∉ a.toList := (h a ha).not_mem (by decide) (by decide)
    have hrender : ("[" ++ ("`" ++ c.text ++ "`") ++ "](#" ++ a ++ ")").toList =
        '[' :: '`' :: (c.text.toList ++ '`' :: ']' :: '(' :: '#' :: (a.toList ++ [')'])) := by
      simp
    constructor
    · rw [bars, hrender]
      simp [barsAfter, barsAfter_append_cons_of_ne, barsAfter_eq_zero_of_not_mem hbar, htext]
    · simp [hrender, hbreak]
  next =>
    have hrender : ("`" ++ c.text ++ "`").toList = '`' :: (c.text.toList ++ ['`']) := by simp
    constructor
    · rw [bars, hrender]
      simp [barsAfter, barsAfter_append_cons_of_ne, htext]
    · simp [hrender]

theorem shows_typeCell (type : String) : Shows (typeCell type).render type :=
  shows_render (anchored_typeCell type)

/-- The first cell of a row.  It is empty if the parameter has no name. -/
def shownName (m : Member) (p : Parameter) : String :=
  ((nameCell? (anchor m) p.name).map Cell.render).getD ""

theorem shows_shownName (m : Member) (p : Parameter) : Shows (shownName m p) p.name := by
  by_cases h : p.name = ""
  · rw [shownName, nameCell?, if_pos h, h]
    exact ⟨rfl, Iff.rfl⟩
  · have hanchor := isAnchor_nameAnchor m p.name
    have hcell : shownName m p =
        Cell.render ⟨p.name, some (anchor m ++ "-" ++ Text.slug p.name)⟩ := by
      rw [shownName, nameCell?, if_neg h]
      rfl
    rw [hcell]
    exact shows_render (by simpa using hanchor)

/-! ## rows -/

/-- The row of a parameter in the table of a member. -/
def row (m : Member) (p : Parameter) : String := (parameterRow (anchor m) p).render

theorem row_eq (m : Member) (p : Parameter) :
    row m p = "| " ++ shownName m p ++ " | " ++ (typeCell p.type).render ++ " | " ++
      proseOf p.brief? ++ " |" := rfl

theorem bars_cells (x y z : String) :
    bars ("| " ++ x ++ " | " ++ y ++ " | " ++ z ++ " |") = 4 + (bars x + bars y + bars z) := by
  have hcells : ("| " ++ x ++ " | " ++ y ++ " | " ++ z ++ " |").toList =
      '|' :: ' ' :: (x.toList ++ ' ' :: '|' :: ' ' ::
        (y.toList ++ ' ' :: '|' :: ' ' :: (z.toList ++ [' ', '|']))) := by
    simp
  rw [bars, hcells]
  simp [barsAfter, barsAfter_append_cons_of_ne, bars]
  omega

/-- A row has four bars besides those of its texts. -/
theorem bars_row (m : Member) (p : Parameter) :
    bars (row m p) = 4 + (bars p.name + bars p.type + bars (proseOf p.brief?)) := by
  rw [row_eq, bars_cells, (shows_shownName m p).bars_eq, (shows_typeCell p.type).bars_eq]

theorem newline_mem_row (m : Member) (p : Parameter) :
    '\n' ∈ (row m p).toList ↔
      '\n' ∈ p.name.toList ∨ '\n' ∈ p.type.toList ∨ '\n' ∈ (proseOf p.brief?).toList := by
  simp [row_eq, (shows_shownName m p).newline_mem, (shows_typeCell p.type).newline_mem]

theorem getLast?_row (m : Member) (p : Parameter) : (row m p).toList.getLast? = some '|' := by
  rw [row_eq, String.toList_append, List.getLast?_append]
  rfl

/-- Whether a line is a row of three cells. -/
def IsRow (line : String) : Prop :=
  line.toList.head? = some '|' ∧ line.toList.getLast? = some '|' ∧ bars line = 4

instance (line : String) : Decidable (IsRow line) := inferInstanceAs (Decidable (_ ∧ _))

/-- Whether a text can stand in a cell: it has one line, and each bar is after a backslash. -/
def FitsCell (s : String) : Prop := '\n' ∉ s.toList ∧ bars s = 0

instance (s : String) : Decidable (FitsCell s) := inferInstanceAs (Decidable (_ ∧ _))

/-- Whether the texts of a parameter can stand in cells. -/
def FitsRow (p : Parameter) : Prop :=
  FitsCell p.name ∧ FitsCell p.type ∧ FitsCell (proseOf p.brief?)

instance (p : Parameter) : Decidable (FitsRow p) := inferInstanceAs (Decidable (_ ∧ _))

theorem fitsRow_iff {m : Member} {p : Parameter} :
    FitsRow p ↔ '\n' ∉ (row m p).toList ∧ IsRow (row m p) := by
  have hhead : (row m p).toList.head? = some '|' := by simp [row_eq]
  have hbars : bars (row m p) = 4 ↔
      bars p.name = 0 ∧ bars p.type = 0 ∧ bars (proseOf p.brief?) = 0 := by
    rw [bars_row]
    omega
  rw [IsRow, hhead, getLast?_row, hbars, newline_mem_row, not_or, not_or]
  constructor
  · rintro ⟨⟨hname, hname'⟩, ⟨htype, htype'⟩, hbrief, hbrief'⟩
    exact ⟨⟨hname, htype, hbrief⟩, rfl, rfl, hname', htype', hbrief'⟩
  · rintro ⟨⟨hname, htype, hbrief⟩, -, -, hname', htype', hbrief'⟩
    exact ⟨⟨hname, hname'⟩, ⟨htype, htype'⟩, hbrief, hbrief'⟩

/-! ## tables -/

/-- The table of a member's parameters. -/
def table (m : Member) : String :=
  joined "\n" (Block.tableHeader.render :: Block.tableRule.render :: m.parameters.map (row m))

/-- Whether a text is a table with three columns and a number of rows below its header. -/
def IsTable (n : Nat) (text : String) : Prop :=
  (lines text).length = n + 2 ∧
    (lines text).take 2 = ["| Name | Type | Description |", "| --- | --- | --- |"] ∧
    ∀ line ∈ lines text, IsRow line

instance (n : Nat) (text : String) : Decidable (IsTable n text) :=
  inferInstanceAs (Decidable (_ ∧ _))

theorem lines_table (m : Member) :
    lines (table m) = "| Name | Type | Description |" :: "| --- | --- | --- |" ::
      m.parameters.flatMap fun p => lines (row m p) := by
  have hheader : lines Block.tableHeader.render = ["| Name | Type | Description |"] := by decide
  have hrule : lines Block.tableRule.render = ["| --- | --- | --- |"] := by decide
  rw [table, lines_joined (List.cons_ne_nil _ _), List.flatMap_cons, List.flatMap_cons,
    List.flatMap_map, hheader, hrule]
  rfl

/-- The parameters of a member that fit have a line each, in order. -/
theorem lines_table_of_fitsRow {m : Member} (h : ∀ p ∈ m.parameters, FitsRow p) :
    lines (table m) =
      "| Name | Type | Description |" :: "| --- | --- | --- |" :: m.parameters.map (row m) := by
  have hrows : (m.parameters.flatMap fun p => lines (row m p)) = m.parameters.map (row m) := by
    rw [List.map_eq_flatMap]
    exact List.flatMap_congr fun p hp => lines_of_not_mem (fitsRow_iff.1 (h p hp)).1
  rw [lines_table, hrows]

/-- If lists that are not empty have as many elements in all as there are lists, each has
one. -/
theorem length_eq_one_of_length_flatMap {f : α → List β} {xs : List α} (hne : ∀ x, f x ≠ [])
    (h : (xs.flatMap f).length = xs.length) : ∀ x ∈ xs, (f x).length = 1 := by
  have hlower : ∀ ys : List α, ys.length ≤ (ys.flatMap f).length := by
    intro ys
    induction ys with
    | nil => simp
    | cons y ys ih =>
      have hy := List.length_pos_of_ne_nil (hne y)
      rw [List.length_cons, List.flatMap_cons, List.length_append]
      omega
  induction xs with
  | nil => simp
  | cons x xs ih =>
    have hx := List.length_pos_of_ne_nil (hne x)
    have hxs := hlower xs
    rw [List.length_cons, List.flatMap_cons, List.length_append] at h
    rw [List.forall_mem_cons]
    exact ⟨by omega, ih (by omega)⟩

/-- The rows make a table if and only if each parameter fits. -/
theorem isTable_table_iff (m : Member) :
    IsTable m.parameters.length (table m) ↔ ∀ p ∈ m.parameters, FitsRow p := by
  constructor
  · rintro ⟨hlength, -, hrows⟩ p hp
    rw [lines_table] at hlength hrows
    -- Each row has a line at least, and there are as many lines as rows.
    have hone : (lines (row m p)).length = 1 :=
      length_eq_one_of_length_flatMap (fun p => lines_ne_nil (row m p)) (by simpa using hlength)
        p hp
    have hbreak : '\n' ∉ (row m p).toList := fun h => absurd (one_lt_length_lines h) (by omega)
    have hline : row m p ∈ m.parameters.flatMap fun p => lines (row m p) :=
      List.mem_flatMap.2 ⟨p, hp, by rw [lines_of_not_mem hbreak]; exact List.mem_singleton_self _⟩
    exact fitsRow_iff.2 ⟨hbreak, hrows _ (by simp [hline])⟩
  · intro h
    rw [IsTable, lines_table_of_fitsRow h]
    refine ⟨by simp, rfl, ?_⟩
    rw [List.forall_mem_cons, List.forall_mem_cons]
    refine ⟨by decide, by decide, fun line hline => ?_⟩
    obtain ⟨p, hp, rfl⟩ := List.mem_map.1 hline
    exact (fitsRow_iff.1 (h p hp)).2

/-! ## the table on the page -/

/-- The text of a page above the label of a member's parameters. -/
def textAbove (d : Document) (i : Nat) (m : Member) : String :=
  joined "\n" (((pageBefore d i).reverse ++ leadBlocks m).map Block.render)

/-- The label and the table of a member that has parameters. -/
theorem joined_parameterBlocks {m : Member} (h : m.parameters ≠ []) :
    joined "\n" ((parameterBlocks m).map Block.render) = "**Parameters:**\n" ++ table m := by
  have hblocks : (parameterBlocks m).map Block.render = Block.parametersLabel.render ::
      Block.tableHeader.render :: Block.tableRule.render :: m.parameters.map (row m) := by
    rw [parameterBlocks, if_neg (by simpa using h), List.map_append, List.map_map]
    rfl
  rw [hblocks, joined, String.intercalate_cons_of_ne_nil (List.cons_ne_nil _ _)]
  rfl

theorem getLast?_table (m : Member) : (table m).toList.getLast? = some '|' := by
  refine getLast?_joined (List.cons_ne_nil _ _) ?_
  rw [List.forall_mem_cons, List.forall_mem_cons]
  refine ⟨by decide, by decide, fun line hline => ?_⟩
  obtain ⟨p, -, rfl⟩ := List.mem_map.1 hline
  exact getLast?_row m p

/-- What a member adds after its parameters does not start with a bar. -/
theorem head?_belowParameters (page : List Block) (m : Member) (later : List Block) :
    ∃ b bs, templateBlocks m ++ (typeBlocks page m ++ .empty :: later) = b :: bs ∧
      b.render.toList.head? ≠ some '|' := by
  have htype : ∃ b bs, typeBlocks page m ++ .empty :: later = b :: bs ∧
      b.render.toList.head? ≠ some '|' := by
    cases hblocks : typeBlocks page m with
    | nil => exact ⟨_, _, rfl, by simp [Block.render]⟩
    | cons b bs =>
      refine ⟨b, bs ++ .empty :: later, rfl, ?_⟩
      have hb : b ∈ typeBlocks page m := by rw [hblocks]; exact List.mem_cons_self
      unfold typeBlocks at hb
      split at hb
      · contradiction
      · obtain ⟨-, rfl⟩ := mem_ifAny.1 hb
        simp [Block.render]
  unfold templateBlocks
  split
  · exact htype
  · exact htype
  · exact ⟨_, _, rfl, by simp [Block.render]⟩

/-- The table is right below its label, and what is below it does not go on with it. -/
theorem exists_page_eq_of_parameters {d : Document} {i : Nat} {m : Member}
    (hm : d.members[i]? = some m) (hparameters : m.parameters ≠ []) :
    ∃ below, page d = textAbove d i m ++ "\n**Parameters:**\n" ++ table m ++ "\n" ++ below ∧
      below.toList.head? ≠ some '|' := by
  obtain ⟨later, hlater⟩ := exists_blocks_eq hm
  obtain ⟨b, bs, hbelow, hbar⟩ :=
    head?_belowParameters ((memberBlocks m).reverse ++ pageBefore d i) m later
  have hblocks : blocks d =
      ((pageBefore d i).reverse ++ leadBlocks m ++ parameterBlocks m) ++ b :: bs := by
    rw [hlater, addedBlocks, ← hbelow]
    simp only [memberBlocks_eq, List.append_assoc, List.cons_append, List.nil_append]
  have hfront : joined "\n" (((pageBefore d i).reverse ++ leadBlocks m ++
      parameterBlocks m).map Block.render) =
        textAbove d i m ++ "\n**Parameters:**\n" ++ table m := by
    have hlead : ((pageBefore d i).reverse ++ leadBlocks m).map Block.render ≠ [] := by
      simp [leadBlocks]
    have hparams : (parameterBlocks m).map Block.render ≠ [] := by
      simp [parameterBlocks, hparameters]
    rw [List.map_append, joined, String.intercalate_append_of_ne_nil hlead hparams, ← joined,
      ← joined, joined_parameterBlocks hparameters, ← textAbove]
    simp only [String.append_assoc]
    rfl
  have hlast : (textAbove d i m ++ "\n**Parameters:**\n" ++ table m).toList.getLast? =
      some '|' := by
    rw [String.toList_append, List.getLast?_append, getLast?_table, Option.some_or]
  obtain ⟨below, hpage, hstart⟩ := exists_page_eq hblocks (List.cons_ne_nil b bs)
    ⟨'|', by rw [hfront, hlast]; rfl, by decide⟩
  refine ⟨below, by rw [hpage, hfront], fun hhead => ?_⟩
  obtain hbreak | hrest := hstart '|' hhead
  · exact absurd hbreak (by decide)
  · rw [List.map_cons, head?_joined, Option.or_eq_some_iff] at hrest
    obtain hb | ⟨-, hbreak⟩ := hrest
    · exact hbar hb
    · split at hbreak
      · cases hbreak
      · exact absurd hbreak (by decide)

/-- The table of a member's parameters on the page of a document. -/
structure ParameterTable (d : Document) (i : Nat) (m : Member) : Prop where
  /-- The table is right below its label, and what is below it does not go on with it. -/
  page_eq : ∃ below,
    page d = textAbove d i m ++ "\n**Parameters:**\n" ++ table m ++ "\n" ++ below ∧
      below.toList.head? ≠ some '|'
  /-- It is a table with a row for each parameter if and only if each parameter fits. -/
  isTable_iff : IsTable m.parameters.length (table m) ↔ ∀ p ∈ m.parameters, FitsRow p
  /-- Then its rows are those of the parameters, in order. -/
  lines_eq : (∀ p ∈ m.parameters, FitsRow p) → lines (table m) =
    "| Name | Type | Description |" :: "| --- | --- | --- |" :: m.parameters.map (row m)

/-- **The parameters of a member make a table if and only if their texts fit its cells.**
The table is on the page as it is, whatever the texts are. -/
theorem parameterTable {d : Document} {i : Nat} {m : Member} (hm : d.members[i]? = some m)
    (hparameters : m.parameters ≠ []) : ParameterTable d i m where
  page_eq := exists_page_eq_of_parameters hm hparameters
  isTable_iff := isTable_table_iff m
  lines_eq := lines_table_of_fitsRow

/-- A member whose second parameter has a bar in its type, after a backslash. -/
def openMember : Member where
  name := "open"
  arguments := "(Path path, Flags flags)"
  returnType := "File"
  brief? := none
  detail? := none
  parameters := [⟨"path", "Path", some ⟨["Where it is."], "Where it is."⟩⟩,
    ⟨"flags", "A\\|B", none⟩]
  templateParameters? := none

/-- A member's bar after a backslash leaves its table whole. -/
theorem parameterTable_openMember :
    (⟨[], [openMember, openMember]⟩ : Document).members[1]? = some openMember ∧
      openMember.parameters ≠ [] ∧ ParameterTable ⟨[], [openMember, openMember]⟩ 1 openMember ∧
      IsTable 2 (table openMember) := by
  have hparameters : openMember.parameters ≠ [] := by decide
  have htable : ParameterTable ⟨[], [openMember, openMember]⟩ 1 openMember :=
    parameterTable rfl hparameters
  exact ⟨rfl, hparameters, htable, htable.isTable_iff.2 (by decide)⟩

/-- A bar in a type makes one cell more, and a second paragraph breaks the row. -/
theorem broken_rows :
    ((convert "<d><memberdef><name>f</name><param><type>A|B</type></param></memberdef></d>").toOption
        = some ("### f\n**Parameters:**\n" ++
          ("| Name | Type | Description |\n| --- | --- | --- |\n" ++
            "|  | [`A|B`](#type-a-b) |  |") ++ "\n") ∧
      ¬IsTable 1 ("| Name | Type | Description |\n| --- | --- | --- |\n" ++
        "|  | [`A|B`](#type-a-b) |  |")) ∧
    (convert ("<d><memberdef><name>f</name><param><briefdescription><para>a</para>" ++
        "<para>b</para></briefdescription></param></memberdef></d>")).toOption
        = some ("### f\n**Parameters:**\n" ++
          ("| Name | Type | Description |\n| --- | --- | --- |\n" ++
            "|  | `` | a\n\nb |") ++ "\n") ∧
      ¬IsTable 1 ("| Name | Type | Description |\n| --- | --- | --- |\n" ++
        "|  | `` | a\n\nb |") := by
  refine ⟨⟨?_, ?_⟩, ?_, ?_⟩
  · decide +kernel
  · decide +kernel
  · decide +kernel
  · decide +kernel

end Docdown.Markdown
