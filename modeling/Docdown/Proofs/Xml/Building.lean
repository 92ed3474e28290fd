import Docdown.Proofs.Text.Stripping
import Docdown.Proofs.Xml.Effects

/-!
# Docdown.Proofs.Xml.Building

What a builder makes of events, told from the events themselves.  Which elements are open
after some events depends on which closing tags are left over (`openTags`), and all events
belong to the tree but the text outside of every element (`inner`).  This is what the
builder holds at any point: its frames are the open elements (`map_tag_frames`), it refuses
an event if and only if there is no place for it (`fault?_build`), and its tree, read from
front to back, tells the events that it was built from (`told_build`).

The builder that parsing uses stops at the first fault.  A `Building` keeps the fault and
goes on.
-/

namespace Docdown.Xml

/-! ## events in order -/

namespace Event

def isStart : Event → Bool
  | .startTag _ _ => true
  | .endTag | .text _ => false

def isEnd : Event → Bool
  | .endTag => true
  | .startTag _ _ | .text _ => false

def isText : Event → Bool
  | .text _ => true
  | .startTag _ _ | .endTag => false

end Event

/-- Whether no closing tag comes too early: no beginning of the events has more closing tags
than opening tags. -/
def Nests (es : List Event) : Prop :=
  ∀ p, p <+: es → p.countP Event.isEnd ≤ p.countP Event.isStart

/-- How many closing tags are left over for elements opened before. -/
def excess : List Event → Nat
  | [] => 0
  | .startTag _ _ :: es => excess es - 1
  | .endTag :: es => excess es + 1
  | .text _ :: es => excess es

/-- The opening tags of the elements that are open after some events, outermost first.  These
are the opening tags after which no closing tag is left over. -/
def openTags : List Event → List Tag
  | [] => []
  | .startTag name attributes :: es =>
    if excess es = 0 then ⟨name, attributes⟩ :: openTags es else openTags es
  | .endTag :: es => openTags es
  | .text _ :: es => openTags es

/-- Events without the text that stands outside of every element, where others came before. -/
def innerAfter (before : List Event) : List Event → List Event
  | [] => []
  | e :: es =>
    (if e.isText ∧ openTags before = [] then [] else [e]) ++ innerAfter (before ++ [e]) es

/-- Events without the text that stands outside of every element. -/
def inner (es : List Event) : List Event := innerAfter [] es

/-- Why there is no place for an event after others. -/
def misplaced? (before : List Event) : Event → Option Fault
  | .startTag name _ =>
    if openTags before = [] ∧ before.any Event.isStart then some (.secondRoot name) else none
  | .endTag => none
  | .text v => if openTags before = [] ∧ ¬Text.AllBlank v then some .sectionOutsideRoot else none

section

variable {es : List Event}

/-- A bound for the closing tags left over, over all beginnings. -/
theorem excess_le_iff {n : Nat} :
    excess es ≤ n ↔ ∀ p, p <+: es → p.countP Event.isEnd ≤ n + p.countP Event.isStart := by
  induction es generalizing n with
  | nil => simp [excess]
  | cons e es ih =>
    have hcons : (∀ p, p <+: e :: es → p.countP Event.isEnd ≤ n + p.countP Event.isStart) ↔
        ∀ p, p <+: es → (e :: p).countP Event.isEnd ≤ n + (e :: p).countP Event.isStart := by
      constructor
      · exact fun h p hp => h _ ((List.prefix_cons_inj e).2 hp)
      · intro h p hp
        rcases List.prefix_cons_iff.1 hp with rfl | ⟨q, rfl, hq⟩
        · exact Nat.zero_le _
        · exact h q hq
    rw [hcons]
    cases e with
    | startTag name attributes =>
      have hopen : excess (.startTag name attributes :: es) ≤ n ↔ excess es ≤ n + 1 := by
        rw [excess]
        omega
      simp only [hopen, ih, Event.isStart, Event.isEnd, List.countP_cons]
      grind
    | endTag =>
      cases n with
      | zero =>
        refine iff_of_false (by simp [excess]) fun h => ?_
        simpa [Event.isStart, Event.isEnd] using h [] (List.nil_prefix)
      | succ n =>
        have hclose : excess (.endTag :: es) ≤ n + 1 ↔ excess es ≤ n := by
          rw [excess]
          omega
        simp only [hclose, ih, Event.isStart, Event.isEnd, List.countP_cons]
        grind
    | text v =>
      have htext : excess (.text v :: es) ≤ n ↔ excess es ≤ n := by rw [excess]
      simp only [htext, ih, Event.isStart, Event.isEnd, List.countP_cons]
      grind

/-- No closing tag comes too early if and only if none is left over. -/
theorem nests_iff : Nests es ↔ excess es = 0 := by
  have h : excess es ≤ 0 ↔ _ := excess_le_iff
  simp only [Nat.le_zero, Nat.zero_add] at h
  exact h.symm

instance (es : List Event) : Decidable (Nests es) := decidable_of_iff _ nests_iff.symm

theorem Nests.of_prefix {p : List Event} (h : Nests es) (hp : p <+: es) : Nests p :=
  fun q hq => h q (hq.trans hp)

/-- Each opening tag is open or has a closing tag, and each closing tag closes something or is
left over. -/
theorem length_openTags (es : List Event) :
    (openTags es).length + es.countP Event.isEnd = es.countP Event.isStart + excess es := by
  induction es with
  | nil => rfl
  | cons e es ih =>
    cases e with
    | startTag name attributes =>
      simp only [openTags, excess, List.countP_cons, Event.isStart, Event.isEnd]
      grind
    | endTag =>
      simp only [openTags, excess, List.countP_cons, Event.isStart, Event.isEnd]
      grind
    | text v => simpa [openTags, excess, List.countP_cons, Event.isStart, Event.isEnd] using ih

/-! ### one more event -/

theorem openTags_concat_startTag (es : List Event) (name : String) (as : List Attribute) :
    openTags (es ++ [.startTag name as]) = openTags es ++ [⟨name, as⟩] ∧
      excess (es ++ [.startTag name as]) = excess es := by
  induction es with
  | nil => exact ⟨rfl, rfl⟩
  | cons e es ih =>
    cases e with
    | startTag n bs =>
      simp only [List.cons_append, openTags, excess, ih]
      split <;> simp
    | endTag => exact ⟨ih.1, congrArg (· + 1) ih.2⟩
    | text v => exact ih

theorem openTags_concat_text (es : List Event) (v : String) :
    openTags (es ++ [.text v]) = openTags es ∧ excess (es ++ [.text v]) = excess es := by
  induction es with
  | nil => exact ⟨rfl, rfl⟩
  | cons e es ih => cases e <;> simp [openTags, excess, ih]

/-- A closing tag closes the innermost open element; it is left over if there is none. -/
theorem openTags_concat_endTag (es : List Event) :
    openTags (es ++ [.endTag]) = (openTags es).dropLast ∧
      excess (es ++ [.endTag]) = excess es + if openTags es = [] then 1 else 0 := by
  induction es with
  | nil => exact ⟨rfl, rfl⟩
  | cons e es ih =>
    obtain ⟨hopen, hexcess⟩ := ih
    cases e with
    | endTag =>
      refine ⟨hopen, ?_⟩
      rw [List.cons_append, excess, hexcess, excess, openTags]
      omega
    | text v => exact ⟨hopen, hexcess⟩
    | startTag name as =>
      by_cases hes : excess es = 0
      · by_cases hnil : openTags es = []
        · simp [openTags, excess, hopen, hexcess, hes, hnil]
        · simp [openTags, excess, hopen, hexcess, hes, hnil, List.dropLast_cons_of_ne_nil]
      · simp [openTags, excess, hopen, hexcess, hes]
        omega

theorem innerAfter_append (before es fs : List Event) :
    innerAfter before (es ++ fs) = innerAfter before es ++ innerAfter (before ++ es) fs := by
  induction es generalizing before with
  | nil => simp [innerAfter]
  | cons e es ih => simp [innerAfter, ih]

theorem inner_concat (es : List Event) (e : Event) :
    inner (es ++ [e]) = inner es ++ if e.isText ∧ openTags es = [] then [] else [e] := by
  rw [inner, innerAfter_append, List.nil_append, innerAfter, innerAfter, List.append_nil, inner]

end

/-! ## what a tree tells -/

/-- The events that build a content, one piece after the other. -/
def Content.events : Content → List Event
  | .nil => []
  | .text v r => .text v :: r.events
  | .element n as c r => .startTag n as :: (c.events ++ .endTag :: r.events)

/-- The events that build an element: its opening tag, its pieces, its closing tag. -/
def Element.events (e : Element) : List Event :=
  .startTag e.name e.attributes :: (e.content.events ++ [.endTag])

def Node.events : Node → List Event
  | .text v => [.text v]
  | .element e => e.events

theorem Content.events_ofNodes (ns : List Node) : (ofNodes ns).events = ns.flatMap Node.events := by
  induction ns with
  | nil => rfl
  | cons n ns ih => cases n <;> simp [ofNodes, events, ih, Node.events, Element.events]

/-- The last element of a content whose last piece is an element. -/
theorem Content.getLast?_elements_ofNodes (ns : List Node) (e : Element) :
    (ofNodes (ns ++ [.element e])).elements.getLast? = some e := by
  induction ns with
  | nil => rfl
  | cons n ns ih => cases n <;> simp [ofNodes, elements, ih, List.getLast?_cons]

/-! ## open elements -/

def Element.tag (e : Element) : Tag := ⟨e.name, e.attributes⟩

def Frame.tag (f : Frame) : Tag := ⟨f.name, f.attributes⟩

/-- What frames have taken up so far, from the outermost in. -/
def told : List Frame → List Event
  | [] => []
  | f :: fs => told fs ++ .startTag f.name f.attributes :: f.nodes.reverse.flatMap Node.events

/-- The elements of frames as they stand, innermost first, where some pieces stand last in the
innermost one.  Each is the last piece of the one around it. -/
def standing (last : List Node) : List Frame → List Element
  | [] => []
  | f :: fs =>
    ⟨f.name, f.attributes, .ofNodes (f.nodes.reverse ++ last)⟩ ::
      standing [.element ⟨f.name, f.attributes, .ofNodes (f.nodes.reverse ++ last)⟩] fs

theorem map_tag_standing (last : List Node) (fs : List Frame) :
    (standing last fs).map Element.tag = fs.map Frame.tag := by
  induction fs generalizing last with
  | nil => rfl
  | cons f fs ih => simp [standing, ih, Element.tag, Frame.tag]

theorem isChain_standing (last : List Node) (fs : List Frame) :
    (standing last fs).IsChain fun e around => around.elements.getLast? = some e := by
  induction fs generalizing last with
  | nil => exact .nil
  | cons f fs ih =>
    cases fs with
    | nil => exact .singleton _
    | cons g gs =>
      exact .cons_cons (Content.getLast?_elements_ofNodes _ _) (ih _)

/-- The outermost element tells what all frames have taken up, and ends with the closing tags
that are still to come. -/
theorem events_getLast?_standing (last : List Node) (f : Frame) (fs : List Frame) :
    (standing last (f :: fs)).getLast?.map Element.events =
      some (told (f :: fs) ++ last.flatMap Node.events ++
        List.replicate (fs.length + 1) .endTag) := by
  induction fs generalizing last f with
  | nil => simp [standing, told, Element.events, Content.events_ofNodes]
  | cons g gs ih =>
    rw [standing, standing, List.getLast?_cons_cons, ← standing, ih]
    simp [told, Node.events, Element.events, Content.events_ofNodes, List.replicate_succ]

namespace Builder

/-- The open elements as they stand, innermost first. -/
def openElements (b : Builder) : List Element := standing [] b.frames

/-- The root element as it stands, from its opening tag on. -/
def document? (b : Builder) : Option Element := b.root? <|> b.openElements.getLast?

/-- What the tree has taken up so far. -/
def told (b : Builder) : List Event := (b.root?.map Element.events).getD [] ++ Xml.told b.frames

variable {b : Builder}

theorem map_tag_openElements (b : Builder) :
    b.openElements.map Element.tag = b.frames.map Frame.tag := map_tag_standing [] b.frames

theorem map_tag_frames_add (b : Builder) (n : Node) :
    (b.add n).frames.map Frame.tag = b.frames.map Frame.tag := by
  cases b with
  | mk root? frames => cases frames <;> cases n <;> rfl

theorem map_tag_frames_apply_endTag (b : Builder) :
    (b.apply .endTag).frames.map Frame.tag = (b.frames.map Frame.tag).tail := by
  cases b with
  | mk root? frames =>
    cases frames with
    | nil => rfl
    | cons f fs => exact map_tag_frames_add ⟨root?, fs⟩ _

/-- An opening tag is the first thing that is seen of a tree, and never forgotten. -/
theorem isStarted_apply (b : Builder) (e : Event) :
    (b.apply e).isStarted = (b.isStarted || e.isStart) := by
  cases b with
  | mk root? frames =>
    cases e with
    | startTag name attributes => simp [apply, isStarted, isInside, Event.isStart]
    | text v => cases frames <;> simp [apply, add, isStarted, isInside, Event.isStart]
    | endTag =>
      cases frames with
      | nil => simp [apply, isStarted, isInside, Event.isStart]
      | cons f fs => cases fs <;> simp [apply, add, isStarted, isInside, Event.isStart]

/-- What the tree tells of the document as it stands, with the closing tags to come. -/
theorem events_document? (h : b.root? = none ∨ b.frames = []) :
    (b.document?.map Element.events).getD [] =
      b.told ++ List.replicate b.frames.length .endTag := by
  unfold document? told openElements
  cases hf : b.frames with
  | nil => simp [standing, Xml.told]
  | cons f fs =>
    have hroot : b.root? = none := h.resolve_right (by simp [hf])
    rw [hroot]
    simp [events_getLast?_standing]

/-- Closing tags for all frames join the pieces to just the elements as they stand. -/
theorem root?_foldl_apply_endTag (last : List Node) (f : Frame) (fs : List Frame) :
    ((List.replicate (fs.length + 1) .endTag).foldl apply
      ⟨none, { f with nodes := last.reverse ++ f.nodes } :: fs⟩).root? =
      (standing last (f :: fs)).getLast? := by
  induction fs generalizing last f with
  | nil => simp [apply, add, standing, Frame.element]
  | cons g gs ih =>
    rw [List.length_cons, List.replicate_succ, List.foldl_cons, standing, standing,
      List.getLast?_cons_cons, ← standing, ← ih]
    simp [apply, add, Frame.element]

/-- The document as it stands is what comes of closing all elements. -/
theorem root?_closed (h : b.root? = none ∨ b.frames = []) :
    ((List.replicate b.frames.length .endTag).foldl apply b).root? = b.document? := by
  unfold document? openElements
  cases b with
  | mk root? frames =>
    cases frames with
    | nil => simp [standing]
    | cons f fs =>
      have hroot : root? = none := h.resolve_right (List.cons_ne_nil _ _)
      subst hroot
      simpa using root?_foldl_apply_endTag [] f fs

/-- A tree tells each event that there is a place for, unless it is text outside of every
element. -/
theorem told_apply (h : b.root? = none ∨ b.frames = []) {e : Event} (hfault : b.fault? e = none)
    (hend : e.isEnd = true → b.frames ≠ []) :
    (b.apply e).told = b.told ++ if e.isText ∧ b.frames = [] then [] else [e] := by
  cases b with
  | mk root? frames =>
    cases e with
    | startTag name attributes => simp [apply, told, Xml.told, Event.isText]
    | text v => cases frames <;> simp [apply, add, told, Xml.told, Event.isText, Node.events]
    | endTag =>
      cases frames with
      | nil => exact absurd rfl (hend rfl)
      | cons f fs =>
        have hroot : root? = none := h.resolve_right (List.cons_ne_nil _ _)
        subst hroot
        cases fs <;> simp [apply, add, told, Xml.told, Event.isText, Node.events, Frame.element,
          Element.events, Content.events_ofNodes]

/-- Without faults there is one root element. -/
theorem root?_apply_or_frames_apply (h : b.root? = none ∨ b.frames = []) {e : Event}
    (hfault : b.fault? e = none) : (b.apply e).root? = none ∨ (b.apply e).frames = [] := by
  cases b with
  | mk root? frames =>
    cases e with
    | startTag name attributes =>
      cases frames <;> cases root? <;> simp_all [apply, fault?, isInside]
    | text v => cases frames <;> simp_all [apply, add]
    | endTag =>
      cases frames with
      | nil => exact h
      | cons f fs => cases fs <;> simp_all [apply, add]

end Builder

/-! ## building on -/

/-- A tree built without stopping, and all that was wrong with the events so far. -/
structure Building where
  tree : Builder := {}
  faults : List Fault := []

/-- One more event. -/
def Building.take (b : Building) (e : Event) : Building :=
  ⟨b.tree.apply e, b.faults ++ (b.tree.fault? e).toList⟩

/-- What comes of events. -/
def build (es : List Event) : Building := es.foldl Building.take {}

theorem build_concat (es : List Event) (e : Event) : build (es ++ [e]) = (build es).take e := by
  rw [build, List.foldl_append]
  rfl

/-- The frames are the elements that are open, innermost first. -/
theorem map_tag_frames (es : List Event) :
    (build es).tree.frames.map Frame.tag = (openTags es).reverse := by
  induction es using List.reverseRecOn with
  | nil => rfl
  | append_singleton es e ih =>
    rw [build_concat]
    cases e with
    | startTag name as =>
      rw [(openTags_concat_startTag es name as).1, List.reverse_concat, ← ih]
      rfl
    | endTag =>
      rw [(openTags_concat_endTag es).1, ← List.tail_reverse, ← ih]
      exact Builder.map_tag_frames_apply_endTag _
    | text v =>
      rw [(openTags_concat_text es v).1, ← ih]
      exact Builder.map_tag_frames_add _ _

theorem frames_build_eq_nil_iff {es : List Event} :
    (build es).tree.frames = [] ↔ openTags es = [] := by
  rw [← List.map_eq_nil_iff (f := Frame.tag), map_tag_frames, List.reverse_eq_nil_iff]

theorem isStarted_build (es : List Event) :
    (build es).tree.isStarted = es.any Event.isStart := by
  induction es using List.reverseRecOn with
  | nil => rfl
  | append_singleton es e ih =>
    rw [build_concat, List.any_append, List.any_cons, List.any_nil, Bool.or_false, ← ih]
    exact Builder.isStarted_apply _ e

/-- A builder refuses an event if and only if there is no place for it. -/
theorem fault?_build (es : List Event) (e : Event) :
    (build es).tree.fault? e = misplaced? es e := by
  by_cases hopen : openTags es = []
  · have hframes : (build es).tree.frames = [] := frames_build_eq_nil_iff.2 hopen
    have hroot : (build es).tree.root?.isSome = es.any Event.isStart := by
      rw [← isStarted_build, Builder.isStarted, Builder.isInside, hframes]
      rfl
    cases e with
    | startTag name as =>
      simp only [Builder.fault?, Builder.isInside, hframes, hroot, misplaced?, hopen, true_and]
      rfl
    | endTag => rfl
    | text v => simp [Builder.fault?, Builder.isInside, hframes, misplaced?, hopen, Text.AllBlank]
  · have hinside : (build es).tree.isInside = true := by
      simpa [Builder.isInside] using mt frames_build_eq_nil_iff.1 hopen
    cases e <;> simp [Builder.fault?, hinside, misplaced?, hopen]

theorem faults_build_concat (es : List Event) (e : Event) :
    (build (es ++ [e])).faults = (build es).faults ++ (misplaced? es e).toList := by
  rw [build_concat, ← fault?_build]
  rfl

/-- What stops at the first fault ends with it, or with the whole tree if there is none. -/
theorem foldlM_accept (es : List Event) :
    es.foldlM Builder.accept {} =
      match (build es).faults with
      | [] => .ok (build es).tree
      | f :: _ => .error f := by
  induction es using List.reverseRecOn with
  | nil => rfl
  | append_singleton es e ih =>
    rw [List.foldlM_append, ih, build_concat, Building.take]
    cases hfaults : (build es).faults with
    | cons f fs => rfl
    | nil =>
      cases hfault : (build es).tree.fault? e <;>
        simp [Builder.accept, hfault, bind, Except.bind, pure, Except.pure]

section

variable {es : List Event}

/-- Without faults there is one root element at most. -/
theorem root?_build_or_frames_build (h : (build es).faults = []) :
    (build es).tree.root? = none ∨ (build es).tree.frames = [] := by
  induction es using List.reverseRecOn with
  | nil => exact .inl rfl
  | append_singleton es e ih =>
    rw [faults_build_concat, List.append_eq_nil_iff, ← fault?_build,
      Option.toList_eq_nil_iff] at h
    rw [build_concat]
    exact Builder.root?_apply_or_frames_apply (ih h.1) h.2

/-- The tree tells the events that it was built from. -/
theorem told_build (hnests : Nests es) (h : (build es).faults = []) :
    (build es).tree.told = inner es := by
  induction es using List.reverseRecOn with
  | nil => rfl
  | append_singleton es e ih =>
    rw [faults_build_concat, List.append_eq_nil_iff, ← fault?_build,
      Option.toList_eq_nil_iff] at h
    have hend : e.isEnd = true → (build es).tree.frames ≠ [] := by
      intro he
      cases e with
      | endTag =>
        have hexcess := nests_iff.1 hnests
        rw [(openTags_concat_endTag es).2] at hexcess
        rw [ne_eq, frames_build_eq_nil_iff]
        intro hopen
        simp [hopen] at hexcess
      | startTag _ _ | text _ => contradiction
    have hsame : (build es).tree.told = inner es := ih (hnests.of_prefix (List.prefix_append _ _)) h.1
    have hone := root?_build_or_frames_build h.1
    rw [build_concat, inner_concat, ← hsame]
    simp only [← frames_build_eq_nil_iff]
    exact Builder.told_apply hone h.2 hend

end

/-- What a tree holds after events. -/
structure Building.Tells (b : Building) (es : List Event) : Prop where
  /-- Its stack is the chain of the open elements. -/
  openElements : b.tree.openElements.map Element.tag = (openTags es).reverse
  /-- Each of them is the last element directly in the one around it. -/
  isChain : b.tree.openElements.IsChain fun e around => around.elements.getLast? = some e
  /-- The outermost of them is the root element of the document. -/
  root : b.faults = [] → openTags es ≠ [] →
    b.tree.openElements.getLast? = b.tree.document?
  /-- The document tells the events, and then the closing tags that are to come. -/
  events : b.faults = [] →
    (b.tree.document?.map Element.events).getD [] =
      inner es ++ List.replicate (openTags es).length .endTag
  /-- With these closing tags it is complete. -/
  closed : b.faults = [] →
    ((List.replicate (openTags es).length .endTag).foldl Builder.apply b.tree).root? =
      b.tree.document?

theorem length_frames_build (es : List Event) :
    (build es).tree.frames.length = (openTags es).length := by
  rw [← List.length_map (f := Frame.tag), map_tag_frames, List.length_reverse]

theorem tells_build {es : List Event} (h : Nests es) : (build es).Tells es where
  openElements := by rw [Builder.map_tag_openElements, map_tag_frames]
  isChain := isChain_standing _ _
  root hfaults hopen := by
    have hone := root?_build_or_frames_build hfaults
    rw [Builder.document?, hone.resolve_right (mt frames_build_eq_nil_iff.1 hopen)]
    rfl
  events hfaults := by
    rw [Builder.events_document? (root?_build_or_frames_build hfaults), told_build h hfaults,
      length_frames_build]
  closed hfaults := by
    rw [← length_frames_build, Builder.root?_closed (root?_build_or_frames_build hfaults)]

/-- **A builder loses, repeats and moves no event.**  At any point of events in which no closing
tag comes too early the stack holds the elements that are open, each the last element
directly in the one around it, and the tree so far is what the events say.  A fault is
found just at an element that opens after the root element and at text that is not blank
outside of every element.  If all elements are closed, some were opened, and nothing was wrong,
the root element read from front to back is the events without the text outside of it.  The
builder that stops at the first fault comes to the same tree. -/
theorem build_tells {es : List Event} (h : Nests es) :
    (∀ p, p <+: es → (build p).Tells p) ∧
      (∀ p e, p ++ [e] <+: es →
        (build (p ++ [e])).faults = (build p).faults ++ (misplaced? p e).toList) ∧
      (es.countP Event.isEnd = es.countP Event.isStart → es.any Event.isStart = true →
        (build es).faults = [] →
        ∃ root, (build es).tree = ⟨some root, []⟩ ∧ root.events = inner es) ∧
      es.foldlM Builder.accept {} =
        match (build es).faults with
        | [] => .ok (build es).tree
        | f :: _ => .error f := by
  refine ⟨fun p hp => tells_build (h.of_prefix hp), fun p e _ => faults_build_concat p e,
    fun hbalanced hstart hfaults => ?_, foldlM_accept es⟩
  have hopen : openTags es = [] := by
    have hlength := length_openTags es
    rw [nests_iff.1 h] at hlength
    exact List.length_eq_zero_iff.1 (by omega)
  have hframes : (build es).tree.frames = [] := frames_build_eq_nil_iff.2 hopen
  have hevents := (tells_build h).events hfaults
  have hroot : (build es).tree.root?.isSome = true := by
    rw [← hstart, ← isStarted_build, Builder.isStarted, Builder.isInside, hframes]
    rfl
  obtain ⟨root, hroot⟩ := Option.isSome_iff_exists.1 hroot
  refine ⟨root, ?_, ?_⟩
  · rw [← hroot, ← hframes]
  · rw [hopen, Builder.document?, hroot] at hevents
    simpa using hevents

/-- The events of a document with blanks around the root element. -/
def mixedEvents : List Event :=
  [.text "\n", .startTag "a" [("k", "v")], .text "x", .startTag "b" [], .endTag, .text "y",
    .endTag, .text " "]

/-- Only the blanks are left out. -/
theorem build_tells_mixed :
    Nests mixedEvents ∧
      ∃ root, (build mixedEvents).tree = ⟨some root, []⟩ ∧
        root.events = [.startTag "a" [("k", "v")], .text "x", .startTag "b" [], .endTag,
          .text "y", .endTag] := by
  have hnests : Nests mixedEvents := by decide
  obtain ⟨-, -, hroot, -⟩ := build_tells hnests
  exact ⟨hnests, hroot (by decide) (by decide) (by decide)⟩

example :
    (build [.startTag "a" [], .endTag, .startTag "b" [], .text "x", .endTag, .text "y"]).faults =
      [.secondRoot "b", .sectionOutsideRoot] := by decide

end Docdown.Xml
