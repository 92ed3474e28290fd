import Docdown.Proofs.Markdown.Members

/-!
# Docdown.Proofs.Markdown.ReturnTypes

Which members show their return type.  It depends on the last three blocks of the page, but
every member ends with an empty block, so no more than one block of the member before is
ever among them, and that only if a member has nothing but a heading.  Hence the rule has a
closed form (`ShowsTypeFirst`, `ShowsTypeAfter`), in which a member is told from the member
before it alone (`typeRule`).
-/

namespace Docdown.Markdown

open Doc

/-! ## blocks that tell what is returned -/

/-- Besides the blocks that are there to tell what is returned only prose can. -/
theorem Block.eq_of_tellsReturn {b : Block} (h : b.tellsReturn = true) :
    (∃ text, b = .prose text) ∨ ∃ text, b = .returns text := by
  cases b with
  | prose text => exact .inl ⟨text, rfl⟩
  | returns text => exact .inr ⟨text, rfl⟩
  | _ => simp [tellsReturn, render, returnsLabel, List.isPrefixOf] at h

/-- Whether one of the last three of some blocks, given in order, tells what is returned. -/
def TellsAtEnd (bs : List Block) : Prop := ∃ b ∈ bs.rtake 3, b.tellsReturn = true

instance (bs : List Block) : Decidable (TellsAtEnd bs) :=
  inferInstanceAs (Decidable (∃ b ∈ bs.rtake 3, b.tellsReturn = true))

/-- Whether the last of some blocks tells what is returned. -/
def TellsLast (bs : List Block) : Prop := ∃ b ∈ bs.getLast?, b.tellsReturn = true

instance (bs : List Block) : Decidable (TellsLast bs) :=
  inferInstanceAs (Decidable (∃ b ∈ bs.getLast?, b.tellsReturn = true))

/-! ## the rule -/

/-- Whether the first member of a document shows its return type, after the blocks of the
compounds. -/
def ShowsTypeFirst (front : List Block) (m : Member) : Prop :=
  m.returnType ≠ "" ∧ ¬TellsAtEnd (front ++ memberBlocks m)

/-- Whether a member shows its return type after another. -/
def ShowsTypeAfter (previous m : Member) : Prop :=
  m.returnType ≠ "" ∧ ¬TellsAtEnd (memberBlocks m) ∧
    ¬(memberBlocks m = [.memberHeading (m.name ++ m.arguments)] ∧
      TellsLast (memberBlocks previous))

instance (front : List Block) (m : Member) : Decidable (ShowsTypeFirst front m) :=
  inferInstanceAs (Decidable (_ ∧ _))

instance (previous m : Member) : Decidable (ShowsTypeAfter previous m) :=
  inferInstanceAs (Decidable (_ ∧ _))

/-- The blocks of a member that shows its return type, or does not. -/
def memberBlocksWith (m : Member) (showsType : Bool) : List Block :=
  memberBlocks m ++ (if showsType then [.type m.returnType] else []) ++ [.empty]

/-! ## the last blocks of a page -/

theorem tellsAtEnd_append (front bs : List Block) :
    TellsAtEnd (front ++ bs) ↔
      TellsAtEnd bs ∨ ∃ b ∈ front.rtake (3 - bs.length), b.tellsReturn = true := by
  have hends : (front ++ bs).rtake 3 = front.rtake (3 - bs.length) ++ bs.rtake 3 := by
    simp only [List.rtake_eq_reverse_take_reverse, List.reverse_append, List.take_append,
      List.length_reverse]
  simp only [TellsAtEnd, hends, List.mem_append, or_and_right, exists_or]
  exact or_comm

theorem tellsLast_iff (bs : List Block) :
    TellsLast bs ↔ ∃ b ∈ bs.rtake 1, b.tellsReturn = true := by
  have hlast : bs.rtake 1 = bs.getLast?.toList := by
    rw [List.rtake_eq_reverse_take_reverse, ← List.head?_reverse]
    cases bs.reverse <;> rfl
  simp only [TellsLast, hlast, Option.mem_toList, Option.mem_def]

theorem TellsLast.tellsAtEnd {bs : List Block} (h : TellsLast bs) : TellsAtEnd bs := by
  obtain ⟨b, hb, htells⟩ := h
  obtain ⟨front, rfl⟩ := List.getLast?_eq_some_iff.1 hb
  exact (tellsAtEnd_append front [b]).2 (.inl ⟨b, List.mem_singleton_self b, htells⟩)

/-- Before the blocks of a member a page ends with the empty one of the member before. -/
theorem tells_rtake_concat_empty (bs : List Block) (n : Nat) :
    (∃ b ∈ (bs ++ [Block.empty]).rtake (n + 1), b.tellsReturn = true) ↔
      ∃ b ∈ bs.rtake n, b.tellsReturn = true := by
  have hempty : Block.empty.tellsReturn = false := by decide
  simp [List.rtake_concat_succ, or_and_right, exists_or, hempty]

/-! ## what a member adds -/

theorem memberBlocks_ne_nil (m : Member) : memberBlocks m ≠ [] := by
  simp [memberBlocks]

theorem length_memberBlocks_eq_one (m : Member) :
    (memberBlocks m).length = 1 ↔ memberBlocks m = [.memberHeading (m.name ++ m.arguments)] := by
  simp [memberBlocks]

theorem typeBlocks_eq (page : List Block) (m : Member) :
    typeBlocks page m =
      if m.returnType ≠ "" ∧ ¬TellsAtEnd page.reverse then [.type m.returnType] else [] := by
  have htells : (page.take lookback).any Block.tellsReturn = true ↔ TellsAtEnd page.reverse := by
    simp [TellsAtEnd, List.rtake_eq_reverse_take_reverse, lookback]
  unfold typeBlocks ifAny
  by_cases hend : TellsAtEnd page.reverse
  · rw [if_pos (htells.2 hend), if_neg (fun h => h.2 hend)]
  · rw [if_neg (fun h => hend (htells.1 h))]
    by_cases htype : m.returnType = ""
    · rw [if_pos htype, if_neg (fun h => h.1 htype)]
    · rw [if_neg htype, if_pos ⟨htype, hend⟩]

/-- A member shows its return type unless one of the last three blocks of the page and the
member tells what is returned. -/
theorem addedBlocks_eq (page : List Block) (m : Member) :
    addedBlocks page m = memberBlocksWith m
      (decide (m.returnType ≠ "" ∧ ¬TellsAtEnd (page.reverse ++ memberBlocks m))) := by
  rw [addedBlocks, typeBlocks_eq, List.reverse_append, List.reverse_reverse, memberBlocksWith]
  simp only [decide_eq_true_eq]

/-- Whether a member shows its return type or not does not change whether its last block,
the empty one apart, tells what is returned: the type is shown only if none of the last
blocks does. -/
theorem tellsLast_typeBlocks (page : List Block) (m : Member) :
    TellsLast (page.reverse ++ memberBlocks m ++ typeBlocks ((memberBlocks m).reverse ++ page) m) ↔
      TellsLast (memberBlocks m) := by
  have hlast : (page.reverse ++ memberBlocks m).getLast? = (memberBlocks m).getLast? :=
    List.getLast?_append_of_ne_nil _ (memberBlocks_ne_nil m)
  rw [typeBlocks_eq, List.reverse_append, List.reverse_reverse]
  split
  · rename_i hshows
    have hnot : ¬TellsLast (memberBlocks m) := by
      intro h
      exact hshows.2 ((tellsAtEnd_append _ _).2 (.inl h.tellsAtEnd))
    refine iff_of_false ?_ hnot
    rintro ⟨b, hb, htells⟩
    rw [List.getLast?_concat, Option.mem_some_iff] at hb
    subst hb
    obtain ⟨_, h⟩ | ⟨_, h⟩ := Block.eq_of_tellsReturn htells <;> cases h
  · rw [List.append_nil, TellsLast, TellsLast, hlast]

/-- After what a member has added to a page another member's last three blocks tell what is
returned if they did without it, or if the other has nothing but a heading and the last block
of the first tells. -/
theorem tellsAtEnd_addedBlocks (page : List Block) (previous m : Member) :
    TellsAtEnd (page.reverse ++ addedBlocks page previous ++ memberBlocks m) ↔
      TellsAtEnd (memberBlocks m) ∨
        memberBlocks m = [.memberHeading (m.name ++ m.arguments)] ∧
          TellsLast (memberBlocks previous) := by
  rw [tellsAtEnd_append, ← length_memberBlocks_eq_one]
  refine or_congr_right ?_
  have hpositive : 0 < (memberBlocks m).length := List.length_pos_of_ne_nil (memberBlocks_ne_nil m)
  rw [addedBlocks, ← List.append_assoc, ← List.append_assoc]
  by_cases hone : (memberBlocks m).length = 1
  · -- The window reaches two blocks of the page: the empty one and the one before it.
    rw [hone, tells_rtake_concat_empty, ← tellsLast_iff, tellsLast_typeBlocks]
    exact (and_iff_right rfl).symm
  · refine iff_of_false ?_ fun h => hone h.1
    -- It reaches the empty block at most.
    rintro ⟨b, hb, htells⟩
    have hreach : 3 - (memberBlocks m).length = 0 ∨ 3 - (memberBlocks m).length = 0 + 1 := by omega
    rcases hreach with hzero | hnext
    · rw [hzero, List.rtake_zero] at hb
      exact List.not_mem_nil hb
    · rw [hnext] at hb
      obtain ⟨b, hb, -⟩ := (tells_rtake_concat_empty _ 0).1 ⟨b, hb, htells⟩
      rw [List.rtake_zero] at hb
      exact List.not_mem_nil hb

/-! ## members with tables and lists -/

/-- No block of the tables and lists of a member tells what is returned. -/
theorem tellsReturn_of_mem_tables {m : Member} {b : Block}
    (hb : b ∈ parameterBlocks m ++ templateBlocks m) : b.tellsReturn = false := by
  have hkind : (∀ text, b ≠ .prose text) ∧ ∀ text, b ≠ .returns text := by
    obtain hb | hb := List.mem_append.1 hb
    · obtain rfl | rfl | rfl | ⟨_, rfl⟩ := of_mem_parameterBlocks hb <;> exact ⟨nofun, nofun⟩
    · obtain rfl | ⟨_, rfl⟩ := of_mem_templateBlocks hb <;> exact ⟨nofun, nofun⟩
  refine Bool.eq_false_iff.2 fun htells => ?_
  obtain ⟨text, rfl⟩ | ⟨text, rfl⟩ := Block.eq_of_tellsReturn htells
  · exact hkind.1 text rfl
  · exact hkind.2 text rfl

theorem three_le_length_tables {m : Member}
    (h : m.parameters ≠ [] ∨ 2 ≤ (m.templateParameters?.getD []).length) :
    3 ≤ (parameterBlocks m ++ templateBlocks m).length := by
  rw [List.length_append]
  rcases h with hparameters | htemplates
  · have hlength : (parameterBlocks m).length = m.parameters.length + 3 := by
      rw [parameterBlocks, if_neg (by simpa using hparameters)]
      simp
    omega
  · have hlength : 3 ≤ (templateBlocks m).length := by
      unfold templateBlocks
      split
      next hnone =>
        rw [hnone] at htemplates
        simp at htemplates
      next hnil =>
        rw [hnil] at htemplates
        simp at htemplates
      next ps _ hsome =>
        rw [hsome] at htemplates
        simpa using htemplates
    omega

/-- A member with parameters or with two template parameters shows its return type. -/
theorem not_tellsAtEnd_of_tables {m : Member} (front : List Block)
    (h : m.parameters ≠ [] ∨ 2 ≤ (m.templateParameters?.getD []).length) :
    ¬TellsAtEnd (front ++ memberBlocks m) := by
  rw [memberBlocks_eq, ← List.append_assoc, tellsAtEnd_append,
    Nat.sub_eq_zero_of_le (three_le_length_tables h), List.rtake_zero]
  rintro (⟨b, hb, htells⟩ | ⟨b, hb, -⟩)
  · have hmem : b ∈ parameterBlocks m ++ templateBlocks m := List.mem_of_mem_drop hb
    rw [tellsReturn_of_mem_tables hmem] at htells
    cases htells
  · exact List.not_mem_nil hb

/-! ## the closed form -/

/-- What the members of a document add to its page. -/
structure TypeRule (d : Document) : Prop where
  /-- The page is what the compounds and the members add, in turn. -/
  whole : blocks d = compoundsBlocks d ++
    d.members.zipIdx.flatMap fun (m, i) => addedBlocks (pageBefore d i) m
  /-- The first member looks at the blocks of the compounds. -/
  first : ∀ m, d.members[0]? = some m →
    addedBlocks (pageBefore d 0) m =
      memberBlocksWith m (decide (ShowsTypeFirst (compoundsBlocks d) m))
  /-- Any other member looks at the member before it and at nothing else. -/
  next : ∀ i previous m, d.members[i]? = some previous → d.members[i + 1]? = some m →
    addedBlocks (pageBefore d (i + 1)) m = memberBlocksWith m (decide (ShowsTypeAfter previous m))
  /-- So it adds the same to the page of every document where it follows the same member. -/
  nextElsewhere : ∀ i previous m, d.members[i]? = some previous → d.members[i + 1]? = some m →
    ∀ (other : Document) (j : Nat), other.members[j]? = some previous →
      other.members[j + 1]? = some m →
      addedBlocks (pageBefore other (j + 1)) m = addedBlocks (pageBefore d (i + 1)) m
  /-- A member with a table, or with a list of two, shows its return type wherever it is. -/
  always : ∀ i m, d.members[i]? = some m → m.returnType ≠ "" →
    (m.parameters ≠ [] ∨ 2 ≤ (m.templateParameters?.getD []).length) →
    addedBlocks (pageBefore d i) m = memberBlocksWith m true

theorem addedBlocks_pageBefore_succ {d : Document} {i : Nat} {previous : Member}
    (hprevious : d.members[i]? = some previous) (m : Member) :
    addedBlocks (pageBefore d (i + 1)) m =
      memberBlocksWith m (decide (ShowsTypeAfter previous m)) := by
  have hrule : (m.returnType ≠ "" ∧
      ¬TellsAtEnd ((pageBefore d (i + 1)).reverse ++ memberBlocks m)) ↔
        ShowsTypeAfter previous m := by
    rw [pageBefore_succ hprevious, List.reverse_append, List.reverse_reverse,
      tellsAtEnd_addedBlocks, not_or, ShowsTypeAfter]
  rw [addedBlocks_eq, decide_eq_decide.2 hrule]

/-- **Which members show their return type.**  The first one does unless one of the last
three blocks of the compounds and itself tells what is returned, any other unless one of its
own last three does, or it has nothing but a heading and the last block of the member before
it tells. -/
theorem typeRule (d : Document) : TypeRule d where
  whole := blocks_eq d
  first m _ := by
    rw [addedBlocks_eq, pageBefore_zero, List.reverse_reverse]
    rfl
  next i previous m hprevious _ := addedBlocks_pageBefore_succ hprevious m
  nextElsewhere i previous m hprevious _ other j hother _ := by
    rw [addedBlocks_pageBefore_succ hprevious, addedBlocks_pageBefore_succ hother]
  always i m _ htype htables := by
    rw [addedBlocks_eq, decide_eq_true ⟨htype, not_tellsAtEnd_of_tables _ htables⟩]

/-- A member that tells what is returned. -/
def summing : Member :=
  ⟨"sum", "()", "int", none, some ⟨⟨[], ""⟩, [], [⟨"return", ⟨["The sum."], ""⟩⟩]⟩, [], none⟩

/-- A member with nothing but a heading and a return type. -/
def bare : Member := ⟨"next", "()", "int", none, none, [], none⟩

/-- Twice the second member after the first: its type is left out and then shown. -/
theorem typeRule_summing_bare :
    addedBlocks (pageBefore ⟨[], [summing, bare, bare]⟩ 1) bare =
        [.memberHeading "next()", .empty] ∧
      addedBlocks (pageBefore ⟨[], [summing, bare, bare]⟩ 2) bare =
        [.memberHeading "next()", .type "int", .empty] := by
  have hrule := typeRule ⟨[], [summing, bare, bare]⟩
  exact ⟨(hrule.next 0 summing bare rfl rfl).trans (by decide +kernel),
    (hrule.next 1 bare bare rfl rfl).trans (by decide +kernel)⟩

end Docdown.Markdown
