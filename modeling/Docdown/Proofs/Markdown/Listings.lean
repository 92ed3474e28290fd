import Docdown.Convert
import Docdown.Proofs.Markdown.Assembly
import Docdown.Proofs.Text.Splitting
import Docdown.Proofs.Text.Stripping

/-!
# Docdown.Proofs.Markdown.Listings

Code listings on a page.  A listing stands between two fences as it was written, but for the
line feeds around it.  A reader of the page takes the first line below that closes a fence for
the end of the listing, so it reads the listing back if and only if none of the listing's own
lines closes a fence (`fencedListing`).
-/

namespace Docdown.Markdown

open Doc
open Xml (lines)

/-! ## fences -/

/-- Whether a line closes a fence: three blanks at most, three backticks at least, and then
blanks only. -/
def ClosesFence (line : String) : Prop :=
  ∃ indent ticks blanks : Nat, indent ≤ 3 ∧ 3 ≤ ticks ∧ line.toList =
    List.replicate indent ' ' ++ List.replicate ticks '`' ++ List.replicate blanks ' '

/-- No part of a line is longer than the line. -/
theorem closesFence_iff {line : String} :
    ClosesFence line ↔ ∃ indent ≤ 3, ∃ ticks ≤ line.toList.length, ∃ blanks ≤ line.toList.length,
      3 ≤ ticks ∧ line.toList =
        List.replicate indent ' ' ++ List.replicate ticks '`' ++ List.replicate blanks ' ' := by
  constructor
  · rintro ⟨indent, ticks, blanks, hindent, hticks, hline⟩
    have hlength := congrArg List.length hline
    simp only [List.length_append, List.length_replicate] at hlength
    exact ⟨indent, hindent, ticks, by omega, blanks, by omega, hticks, hline⟩
  · rintro ⟨indent, hindent, ticks, -, blanks, -, hticks, hline⟩
    exact ⟨indent, ticks, blanks, hindent, hticks, hline⟩

instance (line : String) : Decidable (ClosesFence line) := decidable_of_iff' _ closesFence_iff

/-- What is read below the line that opens a fence: the lines up to the first that closes
one. -/
def fenced (below : List String) : List String := below.takeWhile fun line => ¬ClosesFence line

theorem closesFence_fence : ClosesFence "```" := ⟨0, 3, 0, by decide, by decide, by decide⟩

theorem not_closesFence_of_mem_fenced {below : List String} {line : String}
    (h : line ∈ fenced below) : ¬ClosesFence line := by
  simpa using List.mem_takeWhile_imp h

theorem fenced_eq_self_iff {ls : List String} :
    fenced ls = ls ↔ ∀ line ∈ ls, ¬ClosesFence line := by
  simp [fenced, List.takeWhile_eq_self_iff]

/-- Nothing below a closing fence is read. -/
theorem fenced_append_cons {line : String} (h : ClosesFence line) (ls below : List String) :
    fenced (ls ++ line :: below) = fenced ls := by
  induction ls with
  | nil => exact List.takeWhile_cons_of_neg (by simpa using h)
  | cons l ls ih =>
    unfold fenced at ih ⊢
    rw [List.cons_append, List.takeWhile_cons, List.takeWhile_cons, ih]

/-! ## lines -/

theorem newline_notMem_of_mem_lines {s line : String} (h : line ∈ lines s) :
    '\n' ∉ line.toList := by
  obtain ⟨piece, hpiece, rfl⟩ := List.mem_map.1 h
  rw [String.toList_ofList]
  intro hbreak
  have hother := Text.eq_false_of_mem_splitOnP hpiece '\n' hbreak
  simp at hother

theorem joined_lines (s : String) : joined "\n" (lines s) = s := by
  rw [← String.toList_inj, joined, String.toList_intercalate, lines, List.map_map]
  have hlists : String.toList ∘ String.ofList = id := funext fun _ => String.toList_ofList
  rw [hlists, List.map_id]
  exact List.intercalate_splitOn '\n'

theorem lines_joined_of_notMem {ls : List String} (hne : ls ≠ [])
    (h : ∀ line ∈ ls, '\n' ∉ line.toList) : lines (joined "\n" ls) = ls := by
  rw [lines_joined hne, List.flatMap_congr fun line hline => lines_of_not_mem (h line hline),
    List.flatMap_singleton']

/-- What is read in a fence has no line that closes one. -/
theorem not_closesFence_of_read {below : List String} {c : String} (hc : c ≠ "")
    (hlines : ∀ line ∈ below, '\n' ∉ line.toList) (h : joined "\n" (fenced below) = c) :
    ∀ line ∈ lines c, ¬ClosesFence line := by
  have hne : fenced below ≠ [] := by
    intro hnil
    rw [hnil] at h
    exact hc h.symm
  -- Put together and split again they are the same lines, as none has a line feed of its own.
  have hread : lines c = fenced below := by
    rw [← h]
    exact lines_joined_of_notMem hne fun line hline =>
      hlines line (List.takeWhile_sublist _ |>.subset hline)
  rw [hread]
  exact fun line => not_closesFence_of_mem_fenced

/-- A listing on a page: a line that opens a fence, its own lines, and one that closes it. -/
theorem lines_listing (c : String) :
    lines (Block.listing c).render = "```cpp" :: (lines c ++ ["```"]) := by
  have hrender : (Block.listing c).render = "```cpp" ++ "\n" ++ (c ++ "\n" ++ "```") := by
    rw [← String.toList_inj]
    simp [Block.render]
  rw [hrender, lines_append, lines_append, lines_of_not_mem (by decide),
    lines_of_not_mem (s := "```") (by decide), List.singleton_append]

/-! ## the code of a listing -/

/-- A listing is its code with line feeds around it. -/
theorem exists_listing_eq (listing : String) :
    ∃ before after, listing = before ++ code listing ++ after ∧
      (∀ c ∈ before.toList, c = '\n') ∧ ∀ c ∈ after.toList, c = '\n' := by
  obtain ⟨as, bs, hlisting, has, hbs⟩ := Text.exists_append_strip (· == '\n') listing.toList
  refine ⟨String.ofList as, String.ofList bs, ?_, by simpa using has, by simpa using hbs⟩
  rw [← String.toList_inj]
  simpa [code] using hlisting

theorem head?_code (listing : String) : (code listing).toList.head? ≠ some '\n' := by
  rw [code, String.toList_ofList]
  intro h
  simpa using Text.head?_strip h

theorem getLast?_code (listing : String) : (code listing).toList.getLast? ≠ some '\n' := by
  rw [code, String.toList_ofList]
  intro h
  simpa using Text.getLast?_strip _ _ _ h

/-! ## the listings of a page -/

/-- The code in a block, if it is a listing. -/
def Block.code? : Block → Option String
  | .listing c => some c
  | _ => none

/-- The code of the listings of a member, without those that have none. -/
def shownCode (m : Member) : List String :=
  (((m.detail?.map Detail.listings).getD []).map code).filter (· ≠ "")

theorem codes_ifAny (block : String → Block) (h : ∀ text, (block text).code? = none)
    (text : String) : (ifAny block text).filterMap Block.code? = [] := by
  refine List.filterMap_eq_nil_iff.2 fun b hb => ?_
  obtain ⟨-, rfl⟩ := mem_ifAny.1 hb
  exact h text

theorem codes_detailBlocks (detail : Detail) :
    (detailBlocks detail).filterMap Block.code? =
      (detail.listings.map code).filter (· ≠ "") := by
  have hremarks : ∀ remarks : List Remark, (remarks.flatMap fun r =>
      ifAny .returns (prose r.body)).filterMap Block.code? = [] := by
    intro remarks
    refine List.filterMap_eq_nil_iff.2 fun b hb => ?_
    obtain ⟨r, -, hb⟩ := List.mem_flatMap.1 hb
    obtain ⟨-, rfl⟩ := mem_ifAny.1 hb
    rfl
  have hlistings : (detail.listings.flatMap fun l =>
      ifAny .listing (code l)).filterMap Block.code? =
        (detail.listings.map code).filter (· ≠ "") := by
    induction detail.listings with
    | nil => rfl
    | cons l ls ih =>
      rw [List.flatMap_cons, List.filterMap_append, ih, List.map_cons]
      by_cases hcode : code l = "" <;> simp [ifAny, hcode, Block.code?]
  rw [detailBlocks, List.filterMap_append, List.filterMap_append, codes_ifAny .prose (fun _ => rfl),
    hlistings, hremarks, List.nil_append, List.append_nil]

theorem codes_addedBlocks (page : List Block) (m : Member) :
    (addedBlocks page m).filterMap Block.code? = shownCode m := by
  have hparameters : (parameterBlocks m).filterMap Block.code? = [] := by
    refine List.filterMap_eq_nil_iff.2 fun b hb => ?_
    obtain rfl | rfl | rfl | ⟨_, rfl⟩ := of_mem_parameterBlocks hb <;> rfl
  have htemplates : (templateBlocks m).filterMap Block.code? = [] := by
    refine List.filterMap_eq_nil_iff.2 fun b hb => ?_
    obtain rfl | ⟨_, rfl⟩ := of_mem_templateBlocks hb <;> rfl
  have htype : ∀ page, (typeBlocks page m).filterMap Block.code? = [] := by
    intro page
    unfold typeBlocks
    split
    · rfl
    · exact codes_ifAny .type (fun _ => rfl) _
  have hdetail : ((m.detail?.map detailBlocks).getD []).filterMap Block.code? = shownCode m := by
    rw [shownCode]
    cases m.detail? with
    | none => rfl
    | some detail => exact codes_detailBlocks detail
  rw [addedBlocks, memberBlocks]
  simp only [List.filterMap_append, List.filterMap_cons, hparameters, htemplates, htype, hdetail,
    codes_ifAny .brief (fun _ => rfl)]
  simp [Block.code?]

theorem codes_compoundBlocks (c : Compound) : (compoundBlocks c).filterMap Block.code? = [] := by
  refine List.filterMap_eq_nil_iff.2 fun b hb => ?_
  rw [compoundBlocks, List.mem_append] at hb
  rcases hb with hfront | henums
  · split at hfront
    · rw [List.cons_append, List.mem_cons, List.mem_append, mem_ifAny, mem_ifAny] at hfront
      obtain rfl | ⟨-, rfl⟩ | ⟨-, rfl⟩ := hfront <;> rfl
    · cases hfront
  · obtain ⟨e, -, hb⟩ := List.mem_flatMap.1 henums
    rw [enumBlocks, List.cons_append, List.mem_cons, List.mem_append, mem_ifAny,
      List.mem_map] at hb
    obtain rfl | ⟨-, rfl⟩ | ⟨_, -, rfl⟩ := hb <;> rfl

/-- The listings of a page are those of its members that have code, in order. -/
theorem codes_blocks (d : Document) :
    (blocks d).filterMap Block.code? = d.members.flatMap shownCode := by
  rw [filterMap_blocks codes_compoundBlocks codes_addedBlocks]
  simp

/-! ## where the listings stand -/

/-- The blocks of a page before a listing of a member.  Listings are counted from zero. -/
def blocksBefore (d : Document) (i : Nat) (m : Member) (detail : Detail) (k : Nat) : List Block :=
  (pageBefore d i).reverse ++ (.memberHeading (m.name ++ m.arguments) ::
    ifAny .brief (proseOf m.brief?) ++ ifAny .prose (prose detail.prose)) ++
    (detail.listings.take k).flatMap fun l => ifAny .listing (code l)

/-- The lines of a page before a listing of a member. -/
def linesBefore (d : Document) (i : Nat) (m : Member) (detail : Detail) (k : Nat) : List String :=
  (blocksBefore d i m detail k).flatMap fun b => lines b.render

variable {d : Document} {i : Nat} {m : Member} {detail : Detail} {k : Nat} {listing : String}

theorem blocksBefore_succ (h : detail.listings[k]? = some listing) :
    blocksBefore d i m detail (k + 1) =
      blocksBefore d i m detail k ++ ifAny .listing (code listing) := by
  rw [blocksBefore, List.take_add_one, h, Option.toList_some, List.flatMap_append,
    List.flatMap_singleton, ← List.append_assoc, ← blocksBefore]

theorem blocksBefore_ne_nil : blocksBefore d i m detail k ≠ [] := by
  simp [blocksBefore]

theorem prefix_blocksBefore {k' : Nat} (h : k ≤ k') :
    blocksBefore d i m detail k <+: blocksBefore d i m detail k' := by
  obtain ⟨more, hmore⟩ : detail.listings.take k <+: detail.listings.take k' :=
    List.take_prefix_take_left h
  rw [blocksBefore, blocksBefore, ← hmore, List.flatMap_append, List.prefix_append_right_inj]
  exact List.prefix_append _ _

theorem prefix_linesBefore {k' : Nat} (h : k ≤ k') :
    linesBefore d i m detail k <+: linesBefore d i m detail k' := by
  obtain ⟨more, hmore⟩ : blocksBefore d i m detail k <+: blocksBefore d i m detail k' :=
    prefix_blocksBefore h
  rw [linesBefore, linesBefore, ← hmore, List.flatMap_append]
  exact List.prefix_append _ _

/-- Whatever is before a listing there are more blocks below it, if only an empty one. -/
theorem exists_blocks_eq_blocksBefore (hm : d.members[i]? = some m)
    (hdetail : m.detail? = some detail) (k : Nat) :
    ∃ rest, rest ≠ [] ∧ blocks d = blocksBefore d i m detail k ++ rest := by
  obtain ⟨later, hlater⟩ := exists_blocks_eq hm
  obtain ⟨more, hmore⟩ : blocksBefore d i m detail k <+:
      blocksBefore d i m detail (max k detail.listings.length) :=
    prefix_blocksBefore (Nat.le_max_left ..)
  have hall : detail.listings.take (max k detail.listings.length) = detail.listings :=
    List.take_of_length_le (Nat.le_max_right ..)
  refine ⟨more ++ ((detail.remarks.filter (·.kind == "return")).flatMap fun r =>
    ifAny .returns (prose r.body)) ++ parameterBlocks m ++ templateBlocks m ++
      typeBlocks ((memberBlocks m).reverse ++ pageBefore d i) m ++ .empty :: later, by simp, ?_⟩
  simp only [← List.append_assoc]
  rw [hmore, blocksBefore, hall, hlater, addedBlocks, memberBlocks, hdetail]
  simp [detailBlocks, List.append_assoc]

theorem linesBefore_succ (h : detail.listings[k]? = some listing) (hcode : code listing ≠ "") :
    linesBefore d i m detail (k + 1) =
      linesBefore d i m detail k ++ "```cpp" :: (lines (code listing) ++ ["```"]) := by
  rw [linesBefore, blocksBefore_succ h, ifAny, if_neg hcode, List.flatMap_append,
    List.flatMap_singleton, lines_listing, ← linesBefore]

/-- A listing stands on the page as it is, between the blocks before it and what is below. -/
theorem exists_lines_page_eq (hm : d.members[i]? = some m) (hdetail : m.detail? = some detail)
    (hlisting : detail.listings[k]? = some listing) (hcode : code listing ≠ "") :
    ∃ below, lines (page d) =
      linesBefore d i m detail k ++ "```cpp" :: (lines (code listing) ++ "```" :: below) := by
  obtain ⟨rest, hrest, hblocks⟩ := exists_blocks_eq_blocksBefore hm hdetail (k + 1)
  have hfront : (blocksBefore d i m detail (k + 1)).map Block.render ≠ [] := by
    simpa using blocksBefore_ne_nil
  -- They end with the closing fence, so trimming the page takes nothing from them.
  have hlast : (joined "\n" ((blocksBefore d i m detail (k + 1)).map Block.render)).toList.getLast?
      = some '`' := by
    have hfence : (Block.listing (code listing)).render.toList.getLast? = some '`' := by
      rw [Block.render, String.toList_append, List.getLast?_append]
      rfl
    rw [blocksBefore_succ hlisting, ifAny, if_neg hcode, List.map_append, joined,
      String.intercalate_append_of_ne_nil (by simpa using blocksBefore_ne_nil) (by simp),
      String.toList_append, List.getLast?_append, List.map_singleton,
      String.intercalate_singleton, hfence, Option.some_or]
  obtain ⟨below, hpage, -⟩ := exists_page_eq hblocks hrest
    ⟨'`', by rw [hlast]; rfl, by decide⟩
  refine ⟨lines below, ?_⟩
  rw [hpage, lines_append, lines_joined hfront, List.flatMap_map, ← linesBefore,
    linesBefore_succ hlisting hcode]
  simp

/-! ## reading listings back -/

/-- The listing of a member on the page of a document. -/
structure FencedListing (d : Document) (i : Nat) (m : Member) (detail : Detail) (k : Nat)
    (listing : String) : Prop where
  /-- Its code is the listing without the line feeds around it. -/
  listing_eq : ∃ before after, listing = before ++ code listing ++ after ∧
    (∀ c ∈ before.toList, c = '\n') ∧ ∀ c ∈ after.toList, c = '\n'
  head?_ne : (code listing).toList.head? ≠ some '\n'
  getLast?_ne : (code listing).toList.getLast? ≠ some '\n'
  /-- The page has a listing for each one that has code, in order, and no others. -/
  codes_eq : (blocks d).filterMap Block.code? = d.members.flatMap shownCode
  /-- The code stands between two fences as it is. -/
  lines_eq : code listing ≠ "" → ∃ below, lines (page d) =
    linesBefore d i m detail k ++ "```cpp" :: (lines (code listing) ++ "```" :: below)
  /-- The next listings are below it. -/
  next : code listing ≠ "" → ∀ k' > k, (linesBefore d i m detail k).length +
    (lines (code listing)).length + 2 ≤ (linesBefore d i m detail k').length
  /-- What is read below the first fence are the lines of the code up to one that closes a
  fence. -/
  read_eq : code listing ≠ "" →
    fenced ((lines (page d)).drop ((linesBefore d i m detail k).length + 1)) =
      fenced (lines (code listing))
  /-- The code is read below some fence of the page if and only if none of its own lines closes
  a fence. -/
  survives_iff : code listing ≠ "" →
    ((∃ n, (lines (page d))[n]? = some "```cpp" ∧
        joined "\n" (fenced ((lines (page d)).drop (n + 1))) = code listing) ↔
      ∀ line ∈ lines (code listing), ¬ClosesFence line)

/-- **A listing is read back from a page if and only if none of its lines closes a fence.** -/
theorem fencedListing (hm : d.members[i]? = some m) (hdetail : m.detail? = some detail)
    (hlisting : detail.listings[k]? = some listing) : FencedListing d i m detail k listing := by
  have hread : code listing ≠ "" →
      fenced ((lines (page d)).drop ((linesBefore d i m detail k).length + 1)) =
        fenced (lines (code listing)) := by
    intro hcode
    obtain ⟨below, hlines⟩ := exists_lines_page_eq hm hdetail hlisting hcode
    rw [hlines, ← List.drop_drop, List.drop_left, List.drop_one, List.tail_cons,
      fenced_append_cons closesFence_fence]
  refine {
    listing_eq := exists_listing_eq listing
    head?_ne := head?_code listing
    getLast?_ne := getLast?_code listing
    codes_eq := codes_blocks d
    lines_eq := exists_lines_page_eq hm hdetail hlisting
    next := ?_
    read_eq := hread
    survives_iff := fun hcode => ⟨?_, fun hfits => ?_⟩ }
  · intro hcode k' hk
    have hbelow : linesBefore d i m detail (k + 1) <+: linesBefore d i m detail k' :=
      prefix_linesBefore hk
    have hlength := hbelow.length_le
    rw [linesBefore_succ hlisting hcode] at hlength
    simp only [List.length_append, List.length_cons, List.length_nil] at hlength
    omega
  · rintro ⟨n, -, hn⟩
    refine not_closesFence_of_read hcode (fun line hline => ?_) hn
    exact newline_notMem_of_mem_lines (List.mem_of_mem_drop hline)
  · obtain ⟨below, hlines⟩ := exists_lines_page_eq hm hdetail hlisting hcode
    refine ⟨(linesBefore d i m detail k).length, ?_, ?_⟩
    · rw [hlines, List.getElem?_append_right (Nat.le_refl _), Nat.sub_self]
      rfl
    · rw [hread hcode, fenced_eq_self_iff.2 hfits, joined_lines]

/-- A detailed description with a listing of line feeds only, and one with an empty line and
an indented fence. -/
def indented : Detail :=
  ⟨⟨["Runs."], ""⟩, ["\n\n", "\n  if (x)\n\n    ```\n"], []⟩

/-- A member with listings. -/
def running : Member := ⟨"run", "()", "", none, some indented, [], none⟩

/-- A fence that is indented by four blanks closes none, so the listing is read back. -/
theorem fencedListing_indented :
    FencedListing ⟨[], [running]⟩ 0 running indented 1 "\n  if (x)\n\n    ```\n" ∧
      ∃ n, (lines (page ⟨[], [running]⟩))[n]? = some "```cpp" ∧
        joined "\n" (fenced ((lines (page ⟨[], [running]⟩)).drop (n + 1))) =
          "  if (x)\n\n    ```" := by
  have hrule : FencedListing ⟨[], [running]⟩ 0 running indented 1 "\n  if (x)\n\n    ```\n" :=
    fencedListing rfl rfl rfl
  have hcode : code "\n  if (x)\n\n    ```\n" = "  if (x)\n\n    ```" := by decide +kernel
  refine ⟨hrule, ?_⟩
  have hsurvives := hrule.survives_iff (by rw [hcode]; decide)
  rw [hcode] at hsurvives
  exact hsurvives.2 (by decide +kernel)

/-- A line of backticks in a listing closes its fence: the listing is read back nowhere. -/
theorem torn_listing :
    (convert ("<d><memberdef><name>f</name><detaileddescription><para>p</para>" ++
        "<programlisting>a\n```\nb</programlisting></detaileddescription></memberdef></d>")).toOption
        = some "### f\np\n```cpp\na\n```\nb\n```\n" ∧
      code "a\n```\nb" = "a\n```\nb" ∧
      ¬∃ n, (lines "### f\np\n```cpp\na\n```\nb\n```\n")[n]? = some "```cpp" ∧
        joined "\n" (fenced ((lines "### f\np\n```cpp\na\n```\nb\n```\n").drop (n + 1))) =
          "a\n```\nb" := by
  refine ⟨by decide +kernel, by decide +kernel, ?_⟩
  rintro ⟨n, -, hread⟩
  refine not_closesFence_of_read (by decide) (fun line hline => ?_) hread "```" (by decide +kernel)
    closesFence_fence
  exact newline_notMem_of_mem_lines (List.mem_of_mem_drop hline)

end Docdown.Markdown
