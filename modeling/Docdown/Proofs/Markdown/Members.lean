import Docdown.Markdown.Page
import Mathlib.Data.List.DropRight

/-!
# Docdown.Proofs.Markdown.Members

How a page grows member by member.  `pageBefore` is the page that a member of a document
finds, `addedBlocks` what the member adds to a page; the page of the document is what its
compounds and its members add, in turn (`blocks_eq`), and so is what is picked out of the page
(`filterMap_blocks`).
-/

namespace Docdown.Markdown

open Doc

/-! ## growing a page -/

theorem mem_ifAny {block : String → Block} {text : String} {b : Block} :
    b ∈ ifAny block text ↔ text ≠ "" ∧ b = block text := by
  unfold ifAny
  split <;> simp_all

/-- The blocks that a member adds to a page, in order.  The page is given newest block
first. -/
def addedBlocks (page : List Block) (m : Member) : List Block :=
  memberBlocks m ++ typeBlocks ((memberBlocks m).reverse ++ page) m ++ [.empty]

theorem addMember_eq (page : List Block) (m : Member) :
    addMember page m = (addedBlocks page m).reverse ++ page := by
  have htype : ∀ page, (typeBlocks page m).reverse = typeBlocks page m := by
    intro page
    unfold typeBlocks ifAny
    split
    · rfl
    · split <;> rfl
  simp [addMember, addedBlocks, htype]

/-- The blocks of the compounds of a document, in order. -/
def compoundsBlocks (d : Document) : List Block := d.compounds.flatMap compoundBlocks

/-- The blocks before a member of a document, newest first.  Members are counted from
zero. -/
def pageBefore (d : Document) (i : Nat) : List Block :=
  (d.members.take i).foldl addMember (compoundsBlocks d).reverse

@[simp] theorem pageBefore_zero (d : Document) : pageBefore d 0 = (compoundsBlocks d).reverse := rfl

theorem pageBefore_succ {d : Document} {i : Nat} {m : Member} (h : d.members[i]? = some m) :
    pageBefore d (i + 1) = (addedBlocks (pageBefore d i) m).reverse ++ pageBefore d i := by
  rw [pageBefore, List.take_add_one, h, Option.toList_some, List.foldl_append, ← pageBefore,
    List.foldl_cons, List.foldl_nil, addMember_eq]

/-- The page of a document is what its compounds and its members add, in turn. -/
theorem blocks_eq (d : Document) :
    blocks d = compoundsBlocks d ++
      d.members.zipIdx.flatMap fun (m, i) => addedBlocks (pageBefore d i) m := by
  have hgrown : ∀ i ≤ d.members.length, (pageBefore d i).reverse = compoundsBlocks d ++
      (d.members.take i).zipIdx.flatMap fun (m, i) => addedBlocks (pageBefore d i) m := by
    intro i hi
    induction i with
    | zero => simp
    | succ i ih =>
      have hm : d.members[i]? = some d.members[i] := List.getElem?_eq_getElem hi
      rw [pageBefore_succ hm, List.reverse_append, List.reverse_reverse, ih (Nat.le_of_lt hi),
        List.take_add_one, hm, Option.toList_some, List.zipIdx_append, List.flatMap_append,
        List.length_take_of_le (Nat.le_of_lt hi), List.append_assoc]
      simp
  have hlast := hgrown d.members.length (Nat.le_refl _)
  rw [pageBefore, List.take_length] at hlast
  exact hlast

/-- What is picked out of the blocks of a page, if it is the same wherever a member stands. -/
theorem filterMap_blocks {f : Block → Option α} {ofCompound : Compound → List α}
    {ofMember : Member → List α} (hcompound : ∀ c, (compoundBlocks c).filterMap f = ofCompound c)
    (hmember : ∀ page m, (addedBlocks page m).filterMap f = ofMember m) (d : Document) :
    (blocks d).filterMap f = d.compounds.flatMap ofCompound ++ d.members.flatMap ofMember := by
  have hcompounds : (compoundsBlocks d).filterMap f = d.compounds.flatMap ofCompound := by
    rw [compoundsBlocks, List.filterMap_flatMap]
    exact List.flatMap_congr fun c _ => hcompound c
  have hmembers : ∀ ms : List (Member × Nat),
      (ms.flatMap fun m => addedBlocks (pageBefore d m.2) m.1).filterMap f =
        (ms.map Prod.fst).flatMap ofMember := by
    intro ms
    rw [List.filterMap_flatMap, List.flatMap_map]
    exact List.flatMap_congr fun m _ => hmember _ m.1
  have hwhole := hmembers d.members.zipIdx
  rw [List.zipIdx_map_fst] at hwhole
  rw [blocks_eq, List.filterMap_append, hcompounds]
  exact congrArg _ hwhole

theorem suffix_foldl_addMember (ms : List Member) (page : List Block) :
    page <:+ ms.foldl addMember page := by
  induction ms generalizing page with
  | nil => exact List.suffix_refl page
  | cons m ms ih =>
    have hstep : page <:+ addMember page m := ⟨_, (addMember_eq page m).symm⟩
    exact hstep.trans (ih (addMember page m))

/-- What a member adds stands between the blocks before it and those that come later. -/
theorem exists_blocks_eq {d : Document} {i : Nat} {m : Member} (h : d.members[i]? = some m) :
    ∃ later, blocks d = (pageBefore d i).reverse ++ addedBlocks (pageBefore d i) m ++ later := by
  have hrest : blocks d =
      ((d.members.drop (i + 1)).foldl addMember (pageBefore d (i + 1))).reverse := by
    rw [pageBefore, ← List.foldl_append, List.take_append_drop]
    rfl
  obtain ⟨later, hlater⟩ := suffix_foldl_addMember (d.members.drop (i + 1)) (pageBefore d (i + 1))
  refine ⟨later.reverse, ?_⟩
  rw [hrest, ← hlater, pageBefore_succ h, List.reverse_append, List.reverse_append,
    List.reverse_reverse]

/-- The blocks of a member before those of its parameters. -/
def leadBlocks (m : Member) : List Block :=
  .memberHeading (m.name ++ m.arguments) :: ifAny .brief (proseOf m.brief?) ++
    (m.detail?.map detailBlocks).getD []

theorem memberBlocks_eq (m : Member) :
    memberBlocks m = leadBlocks m ++ (parameterBlocks m ++ templateBlocks m) :=
  List.append_assoc _ _ _

/-! ## the kinds of blocks of a member -/

theorem of_mem_parameterBlocks {m : Member} {b : Block} (h : b ∈ parameterBlocks m) :
    b = .parametersLabel ∨ b = .tableHeader ∨ b = .tableRule ∨
      ∃ p, b = parameterRow (anchor m) p := by
  unfold parameterBlocks at h
  split at h
  · cases h
  · rw [List.mem_append, List.mem_cons, List.mem_cons, List.mem_singleton, List.mem_map] at h
    obtain (h | h | h) | ⟨p, -, rfl⟩ := h
    · exact .inl h
    · exact .inr (.inl h)
    · exact .inr (.inr (.inl h))
    · exact .inr (.inr (.inr ⟨p, rfl⟩))

theorem of_mem_templateBlocks {m : Member} {b : Block} (h : b ∈ templateBlocks m) :
    b = .templateLabel ∨ ∃ text, b = .templateParameter text := by
  unfold templateBlocks at h
  split at h
  · cases h
  · cases h
  · rw [List.mem_cons, List.mem_map] at h
    exact h.imp_right fun ⟨text, _, hb⟩ => ⟨text, hb.symm⟩

/-- Whether a block is of a kind that members have.  The others are those of compounds and
enumerations; prose is of both. -/
def Block.isOfMember : Block → Bool
  | .compoundHeading _ | .enumHeading _ | .enumValue _ _ => false
  | _ => true

theorem isOfMember_of_mem_detailBlocks {d : Detail} {b : Block} (h : b ∈ detailBlocks d) :
    b.isOfMember = true := by
  simp only [detailBlocks, List.mem_append, List.mem_flatMap, mem_ifAny] at h
  obtain (⟨-, rfl⟩ | ⟨_, -, -, rfl⟩) | ⟨_, -, -, rfl⟩ := h <;> rfl

theorem isOfMember_of_mem_parameterBlocks {m : Member} {b : Block} (h : b ∈ parameterBlocks m) :
    b.isOfMember = true := by
  obtain rfl | rfl | rfl | ⟨_, rfl⟩ := of_mem_parameterBlocks h <;> rfl

theorem isOfMember_of_mem_templateBlocks {m : Member} {b : Block} (h : b ∈ templateBlocks m) :
    b.isOfMember = true := by
  obtain rfl | ⟨_, rfl⟩ := of_mem_templateBlocks h <;> rfl

theorem isOfMember_of_mem_memberBlocks {m : Member} {b : Block} (h : b ∈ memberBlocks m) :
    b.isOfMember = true := by
  rw [memberBlocks, List.cons_append, List.cons_append, List.cons_append, List.mem_cons] at h
  simp only [List.mem_append, mem_ifAny] at h
  obtain rfl | ((⟨-, rfl⟩ | hdetail) | hparameters) | htemplates := h
  · rfl
  · rfl
  · cases hd : m.detail? with
    | none =>
      rw [hd] at hdetail
      cases hdetail
    | some d =>
      rw [hd] at hdetail
      exact isOfMember_of_mem_detailBlocks hdetail
  · exact isOfMember_of_mem_parameterBlocks hparameters
  · exact isOfMember_of_mem_templateBlocks htemplates

theorem isOfMember_of_mem_addedBlocks {page : List Block} {m : Member} {b : Block}
    (h : b ∈ addedBlocks page m) : b.isOfMember = true := by
  unfold addedBlocks typeBlocks at h
  rw [List.mem_append, List.mem_append, List.mem_singleton] at h
  obtain (hmember | htype) | rfl := h
  · exact isOfMember_of_mem_memberBlocks hmember
  · split at htype
    · cases htype
    · obtain ⟨-, rfl⟩ := mem_ifAny.1 htype
      rfl
  · rfl

end Docdown.Markdown
