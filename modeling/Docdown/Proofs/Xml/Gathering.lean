import Docdown.Proofs.Xml.Spelling
import Docdown.Xml.Scanner

/-!
# Docdown.Proofs.Xml.Gathering

The pieces that reading collects from the content of an element.  `Gathered` is
what a scanner holds of an open element, the last run and the finished pieces
before it, and `Markup.gather` says what some markup adds to that, with the very
cuts that comments, instructions and sections make.

Two laws connect what is gathered with what is written:

* `merge_content_gather` -- they differ at most in the cuts between runs;
* `content_gather_of_isPlain` -- without comments, instructions and sections the
  runs gathered are as long as can be.
-/

namespace Docdown.Xml

open Scanner

/-! ## what an open element holds -/

/-- What was collected of an element's content: the run being collected and the
pieces before it, both newest first. -/
structure Gathered where
  run : List Char := []
  nodes : List Node := []
deriving DecidableEq, Repr

namespace Gathered

/-- Stores the run, unless it is empty. -/
def flush (g : Gathered) : Gathered :=
  if g.run.isEmpty then g else ⟨[], .text (collected g.run) :: g.nodes⟩

/-- One more character of the run. -/
def push (g : Gathered) (c : Char) : Gathered := { g with run := c :: g.run }

/-- One more piece after the run. -/
def put (g : Gathered) (n : Node) : Gathered := ⟨[], n :: g.flush.nodes⟩

/-- The content with the pieces collected. -/
def content (g : Gathered) : Content := .ofNodes g.flush.nodes.reverse

@[simp] theorem flush_of_run_nil (ns : List Node) : flush ⟨[], ns⟩ = ⟨[], ns⟩ := rfl

@[simp] theorem run_flush (g : Gathered) : g.flush.run = [] := by
  unfold flush
  split
  · next h => exact List.isEmpty_iff.1 h
  · rfl

@[simp] theorem run_put (g : Gathered) (n : Node) : (g.put n).run = [] := rfl

@[simp] theorem flush_flush (g : Gathered) : g.flush.flush = g.flush := by
  rw [flush, run_flush, List.isEmpty_nil, if_pos rfl]

end Gathered

theorem Scanner.collected_cons (c : Char) (cs : List Char) :
    collected (c :: cs) = collected cs ++ String.ofList [c] := by
  rw [collected, collected, List.reverse_cons, String.ofList_append]

theorem Scanner.collected_eq_empty_iff {cs : List Char} : collected cs = "" ↔ cs = [] := by
  rw [collected, String.ofList_eq_empty_iff, List.reverse_eq_nil_iff]

/-! ## pieces in front of a content -/

namespace Content

theorem ofNodes_append_mergeOnto (ns ms : List Node) (k : Content) :
    (ofNodes (ns ++ ms)).mergeOnto k = (ofNodes ns).mergeOnto ((ofNodes ms).mergeOnto k) := by
  induction ns with
  | nil => rfl
  | cons n ns ih =>
    cases n with
    | text v => rw [List.cons_append, ofNodes, mergeOnto, ih, ofNodes, mergeOnto]
    | element e => rw [List.cons_append, ofNodes, mergeOnto, ih, ofNodes, mergeOnto]

end Content

namespace Gathered

open Content

/-- The run counts as text in front of what follows. -/
theorem content_mergeOnto (g : Gathered) (k : Content) :
    g.content.mergeOnto k =
      (ofNodes g.nodes.reverse).mergeOnto (k.prepend (collected g.run)) := by
  obtain ⟨run, ns⟩ := g
  by_cases hrun : run = []
  · subst hrun
    rw [content, flush_of_run_nil, collected_eq_empty_iff.2 rfl, prepend_empty]
  · have hflush : flush ⟨run, ns⟩ = ⟨[], .text (collected run) :: ns⟩ := by simp [flush, hrun]
    rw [content, hflush, List.reverse_cons, ofNodes_append_mergeOnto]
    rfl

theorem content_flush (g : Gathered) : g.flush.content = g.content := by
  rw [content, flush_flush, content]

theorem content_push_mergeOnto (g : Gathered) (c : Char) (k : Content) :
    (g.push c).content.mergeOnto k = g.content.mergeOnto (k.prepend (String.ofList [c])) := by
  rw [content_mergeOnto, content_mergeOnto, prepend_prepend, ← collected_cons]
  rfl

theorem content_put_mergeOnto (g : Gathered) (n : Node) (k : Content) :
    (g.put n).content.mergeOnto k = g.content.mergeOnto ((ofNodes [n]).mergeOnto k) := by
  rw [content, put, flush_of_run_nil, List.reverse_cons, ofNodes_append_mergeOnto, content]

/-- The run is stored before an element, and what follows the element begins a new
one. -/
theorem ofNodes_put (g : Gathered) (e : Element) (r : Content) :
    ofNodes ((g.put (.element e)).nodes.reverse ++ (r.prepend (collected [])).nodes) =
      ofNodes (g.nodes.reverse ++
        ((Content.element e.name e.attributes e.content r).prepend (collected g.run)).nodes) := by
  have hempty : r.prepend (collected []) = r := prepend_empty r
  obtain ⟨run, ns⟩ := g
  by_cases hrun : run = []
  · subst hrun
    simp [put, collected, Content.nodes]
  · have hne : collected run ≠ "" := fun h => hrun (collected_eq_empty_iff.1 h)
    rw [hempty, prepend_element hne]
    simp [put, flush, hrun, Content.nodes]

end Gathered

/-! ## what markup adds -/

namespace Spelling

/-- Whether the text before an aside and the text after it are kept apart. -/
def Aside.separates : Aside → Bool
  | .comment _ body _ _ => !body.isEmpty
  | .instruction _ _ _ => true

namespace Markup

/-- What is collected once some markup was read after what was collected before. -/
def gather : Markup → Gathered → Gathered
  | .nil, g => g
  | .char w r, g => r.gather (g.push w.char)
  | .cdata _ body _ r, g =>
    r.gather (if body.isEmpty then g.flush else g.put (.text (String.ofList body)))
  | .aside a r, g => r.gather (if a.separates then g.flush else g)
  | .empty tag r, g => r.gather (g.put (.element ⟨tag.name.text, tag.attributes, .nil⟩))
  | .element tag inner _ r, g =>
    r.gather (g.put (.element ⟨tag.name.text, tag.attributes, (inner.gather {}).content⟩))

theorem gather_append (m k : Markup) (g : Gathered) :
    (m.append k).gather g = k.gather (m.gather g) := by
  induction m generalizing g with
  | nil => rfl
  | char w r ih => exact ih _
  | cdata lead body h r ih => exact ih _
  | aside a r ih => exact ih _
  | empty tag r ih => exact ih _
  | element tag inner close r _ ih => exact ih _

/-- What is gathered is what was gathered before and what is written, but for the
cuts. -/
theorem content_gather_mergeOnto (m : Markup) (g : Gathered) (k : Content) :
    (m.gather g).content.mergeOnto k = g.content.mergeOnto (m.content.mergeOnto k) := by
  induction m generalizing g k with
  | nil => rfl
  | char w r ih =>
    rw [gather, ih, Gathered.content_push_mergeOnto]
    rfl
  | cdata lead body h r ih =>
    rw [gather, ih]
    by_cases hbody : body.isEmpty = true
    · have hempty : String.ofList body = "" := by
        rw [String.ofList_eq_empty_iff, List.isEmpty_iff.1 hbody]
      rw [if_pos hbody, Gathered.content_flush, content, Content.mergeOnto, hempty,
        Content.prepend_empty]
    · rw [if_neg hbody, Gathered.content_put_mergeOnto]
      rfl
  | aside a r ih =>
    rw [gather, ih]
    by_cases ha : a.separates = true
    · rw [if_pos ha, Gathered.content_flush]
      rfl
    · rw [if_neg ha]
      rfl
  | empty tag r ih =>
    rw [gather, ih, Gathered.content_put_mergeOnto]
    rfl
  | element tag inner close r ihinner ih =>
    have hinner : (inner.gather {}).content.mergeOnto .nil = inner.content.mergeOnto .nil :=
      ihinner {} .nil
    rw [gather, ih, Gathered.content_put_mergeOnto, content, Content.mergeOnto, ← hinner]
    rfl

/-- What is gathered is what is written, but for the cuts. -/
theorem merge_content_gather (m : Markup) : (m.gather {}).content.merge = m.content.merge :=
  content_gather_mergeOnto m {} .nil

/-- Of plain markup the longest runs are gathered; the first of them goes on from
the run before. -/
theorem content_gather_eq_ofNodes {m : Markup} (hm : m.isPlain = true) (g : Gathered) :
    (m.gather g).content = .ofNodes (g.nodes.reverse ++
      (m.content.merge.prepend (collected g.run)).nodes) := by
  induction m generalizing g with
  | nil =>
    obtain ⟨run, ns⟩ := g
    by_cases hrun : run = []
    · subst hrun
      simp [gather, Gathered.content, content, collected, Content.nodes]
    · have hne : collected run ≠ "" := fun h => hrun (collected_eq_empty_iff.1 h)
      simp [gather, Gathered.content, Gathered.flush, hrun, content, Content.prepend_nil hne,
        Content.nodes]
  | char w r ih =>
    rw [gather, ih hm, content, Content.merge_text, Content.prepend_prepend, ← collected_cons]
    rfl
  | cdata lead body h r ih => contradiction
  | aside a r ih => contradiction
  | empty tag r ih =>
    rw [gather, ih hm, Gathered.run_put, Gathered.ofNodes_put]
    rfl
  | element tag inner close r ihinner ih =>
    rw [isPlain, Bool.and_eq_true] at hm
    have hinner : (inner.gather {}).content = inner.content.merge := by
      rw [ihinner hm.1 {}]
      simp [collected]
    rw [gather, ih hm.2, Gathered.run_put, Gathered.ofNodes_put, hinner]
    rfl

/-- Of plain markup exactly the merged content is gathered. -/
theorem content_gather_of_isPlain {m : Markup} (hm : m.isPlain = true) :
    (m.gather {}).content = m.content.merge := by
  rw [content_gather_eq_ofNodes hm {}]
  simp [collected]

end Markup

end Spelling

end Docdown.Xml
