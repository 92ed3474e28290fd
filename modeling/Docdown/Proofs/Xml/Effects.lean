import Docdown.Proofs.Xml.Reading.Attributes

/-!
# Docdown.Proofs.Xml.Effects

What one character can do to a scanner, whatever it is in the middle of.
`Scanner.Follows` states it, `Scanner.follows_of_read` proves it once for all
modes, and everything that holds along a whole text is derived from it:

* the tree only grows by events (`Builder.Grows`); the root element stays once it
  is there, and a tree that is complete stays as it is;
* the scanner does not come back to the beginning of the text;
* no more is counted of the document type than was read.
-/

namespace Docdown.Xml

/-! ## what happens to the tree -/

namespace Builder

/-- How a tree changes: runs are stored, and events happen that can happen. -/
inductive Grows : Builder → Builder → Prop
  | refl (b : Builder) : Grows b b
  | text {b b' : Builder} (v : String) (h : Grows b b') : Grows b (b'.apply (.text v))
  | event {b b' b'' : Builder} {e : Event} (h : Grows b b') (he : b'.accept e = .ok b'') :
    Grows b b''

theorem Grows.trans {b b' b'' : Builder} (h : Grows b b') (h' : Grows b' b'') : Grows b b'' := by
  induction h' with
  | refl => exact h
  | text v _ ih => exact .text v ih
  | event _ he ih => exact .event ih he

theorem apply_of_accept {b b' : Builder} {e : Event} (h : b.accept e = .ok b') :
    b.fault? e = none ∧ b' = b.apply e := by
  unfold accept at h
  cases hf : b.fault? e with
  | some f => rw [hf] at h; contradiction
  | none => rw [hf] at h; exact ⟨rfl, (Except.ok.inj h).symm⟩

theorem root?_add {b : Builder} {e : Element} (h : b.root? = some e) (n : Node) :
    (b.add n).root? = some e := by
  unfold add
  split
  · exact h
  · rw [h]; rfl
  · exact h

theorem root?_apply_text (b : Builder) (v : String) : (b.apply (.text v)).root? = b.root? := by
  show (b.add (.text v)).root? = _
  unfold add
  split <;> first | rfl | contradiction

/-- An event leaves the root element that is there. -/
theorem root?_apply {b : Builder} {e : Element} (h : b.root? = some e) (x : Event) :
    (b.apply x).root? = some e := by
  cases x with
  | startTag name attributes => exact h
  | text v => rw [root?_apply_text, h]
  | endTag =>
    unfold apply
    cases hf : b.frames with
    | nil => exact h
    | cons f fs => exact root?_add (b := { b with frames := fs }) h _

/-- The root element stays once it is there. -/
theorem Grows.root? {b b' : Builder} (h : Grows b b') {e : Element} (hb : b.root? = some e) :
    b'.root? = some e := by
  induction h with
  | refl => exact hb
  | text v _ ih => exact root?_apply ih _
  | event _ he ih =>
    obtain ⟨-, rfl⟩ := apply_of_accept he
    exact root?_apply ih _

/-- Whether the tree is complete: its root element was closed. -/
def isComplete (b : Builder) : Bool := b.frames.isEmpty && b.root?.isSome

theorem isComplete_iff {b : Builder} :
    b.isComplete = true ↔ b.frames = [] ∧ ∃ e, b.root? = some e := by
  rw [isComplete, Bool.and_eq_true, List.isEmpty_iff, Option.isSome_iff_exists]

/-- Nothing that can happen changes a complete tree. -/
theorem apply_of_isComplete {b : Builder} (hb : b.isComplete = true) {x : Event}
    (hx : b.fault? x = none) : b.apply x = b := by
  obtain ⟨hframes, e, hroot⟩ := isComplete_iff.1 hb
  cases x with
  | startTag name attributes => simp [fault?, isInside, hframes, hroot] at hx
  | endTag => simp [apply, hframes]
  | text v => simp [apply, add, hframes]

/-- A complete tree stays as it is. -/
theorem Grows.eq_of_isComplete {b b' : Builder} (h : Grows b b') (hb : b.isComplete = true) :
    b' = b := by
  induction h with
  | refl => rfl
  | text v _ ih =>
    rw [ih]
    obtain ⟨hframes, -, -⟩ := isComplete_iff.1 hb
    simp [apply, add, hframes]
  | event _ he ih =>
    obtain ⟨hx, rfl⟩ := apply_of_accept he
    rw [ih] at hx ⊢
    exact apply_of_isComplete hb hx

end Builder

/-! ## what one character does -/

/-- The number of units of an unfinished document type. -/
def Doctype.length : Doctype → Nat
  | .unfinished n => n
  | _ => 0

theorem Doctype.length_extend_le (d : Doctype) (n : Nat) :
    (d.extend n).length ≤ d.length + n := by
  cases d with
  | absent => exact Nat.zero_le _
  | unfinished m => exact Nat.le_refl _
  | finished => exact Nat.zero_le _

/-- The number of units read in a mode that the document type may still be given. -/
def Mode.pending : Mode → Nat
  | .markup => 1
  | .declaration text => 2 + Text.unitLength text
  | _ => 0

/-- Whether nothing but blanks was read. -/
def Mode.isEarly : Mode → Bool
  | .start | .prolog => true
  | _ => false

namespace Scanner

/-- The number of units read that count, or may come to count, for the length of an
unfinished document type. -/
def counted (s : Scanner) : Nat := s.doctype.length + s.mode.pending

/-- What a character does to a scanner, whatever the scanner is in the middle of. -/
structure Follows (s : Scanner) (c : Char) (s' : Scanner) : Prop where
  grows : s.tree.Grows s'.tree
  counted_le : s'.counted ≤ s.counted + Text.width c
  isEarly : s'.mode.isEarly = true → s.mode.isEarly = true ∧ s'.tree.root? = s.tree.root?

variable {s s' : Scanner} {c : Char}

theorem grows_flush (s : Scanner) : s.tree.Grows s.flush.tree := by
  unfold flush
  split
  · exact .refl _
  · exact .text _ (.refl _)

theorem emit_eq_ok {e : Event} (h : s.emit e = .ok s') :
    ∃ b, s.tree.accept e = .ok b ∧ s' = { s with tree := b } := by
  unfold emit at h
  cases hb : s.tree.accept e with
  | error f => rw [hb] at h; contradiction
  | ok b => rw [hb] at h; exact ⟨b, rfl, (Except.ok.inj h).symm⟩

namespace Follows

theorem refl (s : Scanner) (c : Char) : Follows s c s where
  grows := .refl _
  counted_le := Nat.le_add_right _ _
  isEarly h := ⟨h, rfl⟩

/-- A scanner whose mode is not that of a beginning. -/
theorem of_grows (htree : s.tree.Grows s'.tree) (hmode : s'.mode.isEarly = false)
    (hcount : s'.counted ≤ s.counted + Text.width c) : Follows s c s' where
  grows := htree
  counted_le := hcount
  isEarly h := by rw [hmode] at h; contradiction

/-- The tree and the document type are left alone. -/
theorem inMode {m : Mode} (hm : m.isEarly = false)
    (hp : m.pending ≤ s.mode.pending + Text.width c) : Follows s c (s.inMode m) := by
  refine of_grows (.refl _) hm ?_
  rw [counted, doctype_inMode, mode_inMode, counted, Nat.add_assoc]
  exact Nat.add_le_add_left hp _

/-- The same for the modes in which nothing is counted. -/
theorem inMode_of_pending {m : Mode} (hm : m.isEarly = false) (hp : m.pending = 0) :
    Follows s c (s.inMode m) :=
  inMode hm (by rw [hp]; exact Nat.zero_le _)

/-- The text run ends. -/
theorem flush_inMode {m : Mode} (hm : m.isEarly = false) (hp : m.pending = 0) :
    Follows s c (s.flush.inMode m) := by
  refine of_grows s.grows_flush hm ?_
  rw [counted, doctype_inMode, doctype_flush, mode_inMode, hp, counted]
  omega

/-- Something more is read of a document type. -/
theorem extend {n : Nat} {m : Mode} (hm : m.isEarly = false)
    (hn : n + m.pending ≤ s.mode.pending + Text.width c) :
    Follows s c { s with mode := m, doctype := s.doctype.extend n } := by
  have hlength := s.doctype.length_extend_le n
  refine of_grows (.refl _) hm ?_
  show (s.doctype.extend n).length + m.pending ≤ s.doctype.length + s.mode.pending + _
  omega

/-- An event happens on the way. -/
theorem emit {s₁ : Scanner} (hs : Follows s c s₁) (hm : s₁.mode.isEarly = false) {e : Event}
    (h : s₁.emit e = .ok s') : Follows s c s' := by
  obtain ⟨b, hb, rfl⟩ := emit_eq_ok h
  exact of_grows (.event hs.grows hb) hm hs.counted_le

end Follows

/-- Whether the mode is changed before or after an event makes no difference. -/
theorem map_inMode_emit (s : Scanner) (m : Mode) (e : Event) :
    (s.emit e).map (·.inMode m) = (s.inMode m).emit e := by
  unfold Scanner.emit
  rw [tree_inMode]
  cases s.tree.accept e <;> rfl

theorem follows_openTag {t : Tag} (h : s.openTag t = .ok s') : Follows s c s' := by
  rw [openTag, map_inMode_emit] at h
  exact (Follows.inMode_of_pending rfl rfl).emit rfl h

theorem follows_flush_openTag {t : Tag} (h : s.flush.openTag t = .ok s') : Follows s c s' := by
  rw [openTag, map_inMode_emit] at h
  exact (Follows.flush_inMode rfl rfl).emit rfl h

theorem follows_closeTag {name : String} (h : s.closeTag name = .ok s') : Follows s c s' := by
  unfold closeTag at h
  split at h
  · contradiction
  · split at h
    · rw [map_inMode_emit] at h
      exact (Follows.flush_inMode rfl rfl).emit rfl h
    · contradiction

/-! ### text and tags -/

theorem follows_readProlog (hs : s.mode.isEarly = true) (h : s.readProlog c = .ok s') :
    Follows s c s' := by
  unfold readProlog at h
  split at h
  · next hlt =>
    subst hlt
    cases h
    exact .inMode rfl (Nat.le_add_left 1 _)
  · split at h
    · cases h
      have hpending : Mode.prolog.pending = 0 := rfl
      refine ⟨.refl _, ?_, fun _ => ⟨hs, rfl⟩⟩
      rw [counted, counted, doctype_inMode, mode_inMode, hpending]
      omega
    · contradiction

theorem follows_readContent (hs : s.mode = .content) (h : s.readContent c = .ok s') :
    Follows s c s' := by
  unfold readContent at h
  split at h
  · next hlt =>
    subst hlt
    cases h
    exact .inMode rfl (Nat.le_add_left 1 _)
  · split at h
    · split at h
      · cases h
        exact .inMode_of_pending rfl rfl
      · cases h
        exact .of_grows (.refl _) (by rw [hs]; rfl) (Nat.le_add_right _ _)
    · split at h
      · cases h
        exact .refl s c
      · contradiction

theorem follows_readMarkup (hs : s.mode = .markup) (h : s.readMarkup c = .ok s') :
    Follows s c s' := by
  unfold readMarkup at h
  split at h
  · cases h
    exact .refl s c
  · split at h
    · next hmark =>
      subst hmark
      cases h
      refine .inMode rfl ?_
      rw [hs]
      exact Nat.le_refl 2
    · split at h
      · cases h
        exact .inMode_of_pending rfl rfl
      · split at h
        · cases h
          exact .inMode_of_pending rfl rfl
        · split at h
          · cases h
            exact .inMode_of_pending rfl rfl
          · contradiction

theorem follows_readTagName {name : List Char} (h : s.readTagName name c = .ok s') :
    Follows s c s' := by
  unfold readTagName at h
  split at h
  · cases h
    exact .inMode_of_pending rfl rfl
  · split at h
    · exact follows_flush_openTag h
    · split at h
      · cases h
        exact .flush_inMode rfl rfl
      · split at h
        · cases h
          exact .flush_inMode rfl rfl
        · contradiction

theorem follows_readTag {t : Tag} (h : s.readTag t c = .ok s') : Follows s c s' := by
  unfold readTag at h
  split at h
  · cases h
    exact .refl s c
  · split at h
    · exact follows_openTag h
    · split at h
      · cases h
        exact .inMode_of_pending rfl rfl
      · split at h
        · cases h
          exact .inMode_of_pending rfl rfl
        · contradiction

theorem follows_readEmptyTag {t : Tag} (h : s.readEmptyTag t c = .ok s') : Follows s c s' := by
  unfold readEmptyTag at h
  split at h
  · split at h
    · next s₁ hs₁ =>
      have hopen : Follows s c s₁ := follows_openTag hs₁
      rw [openTag, map_inMode_emit] at hs₁
      obtain ⟨b, -, rfl⟩ := emit_eq_ok hs₁
      exact hopen.emit rfl h
    · contradiction
  · contradiction

theorem follows_readAttributeName {t : Tag} {name : List Char}
    (h : s.readAttributeName t name c = .ok s') : Follows s c s' := by
  unfold readAttributeName at h
  split at h
  · cases h
    exact .inMode_of_pending rfl rfl
  · split at h
    · contradiction
    · split at h
      · cases h
        exact .inMode_of_pending rfl rfl
      · split at h
        · cases h
          exact .inMode_of_pending rfl rfl
        · contradiction

theorem follows_readAfterAttributeName {t : Tag} {name : List Char}
    (h : s.readAfterAttributeName t name c = .ok s') : Follows s c s' := by
  unfold readAfterAttributeName at h
  split at h
  · cases h
    exact .inMode_of_pending rfl rfl
  · split at h
    · cases h
      exact .refl s c
    · contradiction

theorem follows_readBeforeValue {t : Tag} {name : List Char}
    (h : s.readBeforeValue t name c = .ok s') : Follows s c s' := by
  unfold readBeforeValue at h
  split at h
  · cases h
    exact .refl s c
  · split at h
    · cases h
      exact .inMode_of_pending rfl rfl
    · contradiction

theorem follows_readValue {t : Tag} {name : List Char} {quote : Char} {value : List Char}
    (h : s.readValue t name quote value c = .ok s') : Follows s c s' := by
  unfold readValue at h
  split at h
  · cases ht : t.add (collected name) (collected value) with
    | error f => rw [ht] at h; contradiction
    | ok t' =>
      rw [ht] at h
      cases h
      exact .inMode_of_pending rfl rfl
  · split at h
    · cases h
      exact .inMode_of_pending rfl rfl
    · cases h
      exact .inMode_of_pending rfl rfl

theorem follows_readValueEntity {t : Tag} {name : List Char} {quote : Char}
    {value entity : List Char} (h : s.readValueEntity t name quote value entity c = .ok s') :
    Follows s c s' := by
  unfold readValueEntity at h
  cases he : readEntity entity c with
  | error f => rw [he] at h; contradiction
  | ok x =>
    rw [he] at h
    cases x with
    | inl entity => cases h; exact .inMode_of_pending rfl rfl
    | inr d => cases h; exact .inMode_of_pending rfl rfl

theorem follows_readAfterValue {t : Tag} (h : s.readAfterValue t c = .ok s') :
    Follows s c s' := by
  unfold readAfterValue at h
  split at h
  · cases h
    exact .inMode_of_pending rfl rfl
  · split at h
    · exact follows_openTag h
    · split at h
      · cases h
        exact .inMode_of_pending rfl rfl
      · split at h <;> contradiction

theorem follows_readTextEntity {entity : List Char} (h : s.readTextEntity entity c = .ok s') :
    Follows s c s' := by
  unfold readTextEntity at h
  cases he : readEntity entity c with
  | error f => rw [he] at h; contradiction
  | ok x =>
    rw [he] at h
    cases x with
    | inl entity =>
      cases h
      exact .inMode_of_pending rfl rfl
    | inr d =>
      cases h
      have hs : Follows s c (s.inMode .content) := .inMode_of_pending rfl rfl
      exact .of_grows hs.grows rfl hs.counted_le

theorem follows_readEndTag {name : List Char} (h : s.readEndTag name c = .ok s') :
    Follows s c s' := by
  unfold readEndTag at h
  split at h
  · split at h
    · cases h
      exact .refl s c
    · split at h
      · cases h
        exact .inMode_of_pending rfl rfl
      · contradiction
  · split at h
    · exact follows_closeTag h
    · split at h
      · cases h
        exact .inMode_of_pending rfl rfl
      · split at h
        · cases h
          exact .inMode_of_pending rfl rfl
        · contradiction

theorem follows_readAfterEndTagName {name : List Char}
    (h : s.readAfterEndTagName name c = .ok s') : Follows s c s' := by
  unfold readAfterEndTagName at h
  split at h
  · cases h
    exact .refl s c
  · split at h
    · exact follows_closeTag h
    · contradiction

/-! ### what says nothing about the tree -/

theorem follows_readInstructionName (s : Scanner) (name : List Char) (c : Char) :
    Follows s c (s.readInstructionName name c) := by
  unfold readInstructionName
  split
  · exact .inMode_of_pending rfl rfl
  · split
    · exact .inMode_of_pending rfl rfl
    · exact .inMode_of_pending rfl rfl

theorem follows_readInstructionBody (s : Scanner) (name body : List Char) (c : Char) :
    Follows s c (s.readInstructionBody name body c) := by
  unfold readInstructionBody
  split
  · exact .refl s c
  · split
    · exact .inMode_of_pending rfl rfl
    · exact .inMode_of_pending rfl rfl

theorem follows_readInstructionEnd (s : Scanner) (name body : List Char) (c : Char) :
    Follows s c (s.readInstructionEnd name body c) := by
  unfold readInstructionEnd
  split
  · exact .flush_inMode rfl rfl
  · exact .inMode_of_pending rfl rfl

theorem follows_readDeclaration {text : List Char} (hs : s.mode = .declaration text)
    (h : s.readDeclaration text c = .ok s') : Follows s c s' := by
  have hcons := Text.unitLength_cons c text
  have hpending : s.mode.pending = 2 + Text.unitLength text := by rw [hs]; rfl
  unfold readDeclaration at h
  split at h
  · cases h
    exact .inMode_of_pending rfl rfl
  · split at h
    · -- Both marks and the text so far go back to the document type.
      cases h
      refine .extend rfl ?_
      show 2 + Text.unitLength (c :: text) + 0 ≤ _
      omega
    · split at h
      · cases h
        exact .flush_inMode rfl rfl
      · split at h
        · split at h
          · cases h
          · cases h
            refine .of_grows (.refl _) rfl ?_
            show 0 + 0 ≤ _
            exact Nat.zero_le _
        · split at h
          · cases h
            exact .flush_inMode rfl rfl
          · split at h
            · cases h
              exact .inMode_of_pending rfl rfl
            · cases h
              refine .inMode rfl ?_
              show 2 + Text.unitLength (c :: text) ≤ _
              omega

/-- A character of the document type itself. -/
theorem follows_extend (s : Scanner) (c : Char) :
    Follows s c { s with doctype := s.doctype.extend (Text.width c) } where
  grows := .refl _
  counted_le := by
    have hlength := s.doctype.length_extend_le (Text.width c)
    show (s.doctype.extend _).length + s.mode.pending ≤ s.doctype.length + s.mode.pending + _
    omega
  isEarly h := ⟨h, rfl⟩

/-- A character of the document type after which another part of it follows. -/
theorem follows_extend_inMode (s : Scanner) (c : Char) {m : Mode} (hm : m.isEarly = false)
    (hp : m.pending = 0) :
    Follows s c ({ s with doctype := s.doctype.extend (Text.width c) }.inMode m) :=
  .extend hm (by rw [hp]; exact Nat.le_add_left _ _)

theorem follows_readDoctype (s : Scanner) (c : Char) : Follows s c (s.readDoctype c) := by
  unfold readDoctype
  split
  · refine .of_grows s.grows_flush rfl ?_
    show 0 + 0 ≤ _
    exact Nat.zero_le _
  · dsimp only
    split
    · exact follows_extend_inMode s c rfl rfl
    · split
      · exact follows_extend_inMode s c rfl rfl
      · exact follows_extend s c

theorem follows_readSubset (s : Scanner) (c : Char) : Follows s c (s.readSubset c) := by
  unfold readSubset
  split
  · next hlt =>
    subst hlt
    exact .inMode rfl (Nat.le_add_left 1 _)
  · dsimp only
    split
    · exact follows_extend_inMode s c rfl rfl
    · split
      · exact follows_extend_inMode s c rfl rfl
      · exact follows_extend s c

theorem follows_readQuoted (s : Scanner) (quote : Char) (c : Char) {outer : Mode}
    (hm : outer.isEarly = false) (hp : outer.pending = 0) :
    Follows s c (s.readQuoted quote outer c) := by
  unfold readQuoted
  dsimp only
  split
  · exact follows_extend_inMode s c hm hp
  · exact follows_extend s c

theorem follows_readComment (s : Scanner) (body : List Char) (c : Char) :
    Follows s c (s.readComment body c) := by
  unfold readComment
  split
  · exact .inMode_of_pending rfl rfl
  · exact .inMode_of_pending rfl rfl

theorem follows_readCommentHyphen (s : Scanner) (body : List Char) (c : Char) :
    Follows s c (s.readCommentHyphen body c) := by
  unfold readCommentHyphen
  split
  · cases body.isEmpty with
    | true => exact .inMode_of_pending rfl rfl
    | false => exact .flush_inMode rfl rfl
  · exact .inMode_of_pending rfl rfl

theorem follows_readCommentEnd (h : s.readCommentEnd c = .ok s') : Follows s c s' := by
  unfold readCommentEnd afterComment at h
  split at h
  · cases h
    cases s.doctype.isOpen with
    | true => exact .inMode_of_pending rfl rfl
    | false => exact .inMode_of_pending rfl rfl
  · contradiction

theorem follows_readCdata (s : Scanner) (body : List Char) (c : Char) :
    Follows s c (s.readCdata body c) := by
  unfold readCdata
  split
  · exact .inMode_of_pending rfl rfl
  · exact .inMode_of_pending rfl rfl

theorem follows_readCdataBracket (s : Scanner) (body : List Char) (c : Char) :
    Follows s c (s.readCdataBracket body c) := by
  unfold readCdataBracket
  split
  · exact .inMode_of_pending rfl rfl
  · exact .inMode_of_pending rfl rfl

theorem follows_readCdataBrackets {body : List Char} (h : s.readCdataBrackets body c = .ok s') :
    Follows s c s' := by
  unfold readCdataBrackets at h
  have hcontent : Follows s c (s.inMode .content) := .inMode_of_pending rfl rfl
  split at h
  · dsimp only at h
    split at h
    · cases h
      exact hcontent
    · exact hcontent.emit rfl h
  · split at h
    · cases h
      exact .inMode_of_pending rfl rfl
    · cases h
      exact .inMode_of_pending rfl rfl

/-! ### all modes -/

/-- What a character does, in every mode. -/
theorem follows_of_read (h : s.read c = .ok s') : Follows s c s' := by
  unfold read at h
  split at h
  · next hmode =>
    split at h
    · cases h
      refine ⟨.refl _, ?_, fun _ => ⟨by rw [hmode]; rfl, rfl⟩⟩
      exact Nat.add_le_add (Nat.le_add_right _ _) (Nat.zero_le _)
    · exact follows_readProlog (by rw [hmode]; rfl) h
  · next hmode => exact follows_readProlog (by rw [hmode]; rfl) h
  · next hmode => exact follows_readContent hmode h
  · next hmode => exact follows_readMarkup hmode h
  · exact follows_readTagName h
  · exact follows_readTag h
  · exact follows_readEmptyTag h
  · exact follows_readAttributeName h
  · exact follows_readAfterAttributeName h
  · exact follows_readBeforeValue h
  · exact follows_readValue h
  · exact follows_readValueEntity h
  · exact follows_readAfterValue h
  · exact follows_readTextEntity h
  · exact follows_readEndTag h
  · exact follows_readAfterEndTagName h
  · cases h; exact follows_readInstructionName s _ c
  · cases h; exact follows_readInstructionBody s _ _ c
  · cases h; exact follows_readInstructionEnd s _ _ c
  · next hmode => exact follows_readDeclaration hmode h
  · cases h; exact .inMode_of_pending rfl rfl
  · cases h; exact follows_readDoctype s c
  · cases h; exact follows_readQuoted s _ c rfl rfl
  · cases h; exact follows_readSubset s c
  · cases h; exact follows_readQuoted s _ c rfl rfl
  · cases h; exact follows_readComment s _ c
  · cases h; exact follows_readCommentHyphen s _ c
  · exact follows_readCommentEnd h
  · cases h; exact follows_readCdata s _ c
  · cases h; exact follows_readCdataBracket s _ c
  · exact follows_readCdataBrackets h

/-! ## whole texts -/

/-- A text makes the tree grow. -/
theorem grows_readAll {cs : List Char} (h : s.readAll cs = .ok s') : s.tree.Grows s'.tree :=
  readAll_induction (P := fun t => s.tree.Grows t.tree)
    (fun ht hread => ht.trans (follows_of_read hread).grows) (.refl _) h

/-- No more is counted than was read. -/
theorem counted_readAll {cs : List Char} (h : s.readAll cs = .ok s') :
    s'.counted ≤ s.counted + Text.unitLength cs := by
  induction cs generalizing s with
  | nil =>
    cases h
    exact Nat.le_add_right _ _
  | cons c cs ih =>
    cases hc : s.read c with
    | error f => rw [readAll_cons_error hc] at h; contradiction
    | ok t =>
      rw [readAll_cons_ok hc] at h
      have hstep := (follows_of_read hc).counted_le
      have hrest := ih h
      rw [Text.unitLength_cons]
      omega

/-- At the beginning of a text there is no root element. -/
theorem root?_of_isEarly {cs : List Char} (h : ({} : Scanner).readAll cs = .ok s)
    (hs : s.mode.isEarly = true) : s.tree.root? = none := by
  have hkept : s.mode.isEarly = true → s.tree.root? = none :=
    readAll_induction (P := fun t => t.mode.isEarly = true → t.tree.root? = none)
      (fun ht hread hearly => by
        obtain ⟨hbefore, hroot⟩ := (follows_of_read hread).isEarly hearly
        rw [hroot]
        exact ht hbefore)
      (fun _ => rfl) h
  exact hkept hs

end Scanner

end Docdown.Xml
