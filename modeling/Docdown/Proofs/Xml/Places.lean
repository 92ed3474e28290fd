import Docdown.Xml.Tree
import Mathlib.Data.List.Nodup
import Mathlib.Data.List.Perm.Basic

/-!
# Docdown.Proofs.Xml.Places

Where the elements of a content stand.  A place says which piece to go to, level by level,
and document order is the order of places: an element comes before those inside it, and
before what follows it.  The elements of a name are listed by `Content.descendants` with
each of them once, in document order: there is a list of their places (`Content.Lists`,
`Content.lists_places`), and the elements listed are those at these places
(`Content.map_at?_places`).  In a list made of one list for each element of a name, of the
places inside it, a place is as often as there are elements of that name around it
(`Content.count_flatMap_placesIn`).
-/

namespace Docdown.Xml

/-! ## the element at a place -/

/-- The element that a piece is, if it is one. -/
def Node.element? : Node → Option Element
  | .text _ => none
  | .element e => some e

namespace Content

/-- The number of a piece in a content, of a piece in the content of that one, and so on.
Pieces are counted from zero. -/
abbrev Place := List Nat

/-- The element that a place leads to in a content, if it leads to one. -/
def at? : Content → Place → Option Element
  | _, [] => none
  | c, [i] => c.nodes[i]?.bind Node.element?
  | c, i :: j :: p => (c.nodes[i]?.bind Node.element?).bind fun e => e.content.at? (j :: p)

@[simp] theorem at?_empty (c : Content) : c.at? [] = none := rfl

@[simp] theorem at?_nil (p : Place) : at? .nil p = none := by
  match p with
  | [] => rfl
  | [_] => rfl
  | _ :: _ :: _ => rfl

@[simp] theorem at?_text_zero (v : String) (r : Content) (p : Place) :
    (Content.text v r).at? (0 :: p) = none := by
  cases p <;> rfl

@[simp] theorem at?_text_succ (v : String) (r : Content) (i : Nat) (p : Place) :
    (Content.text v r).at? ((i + 1) :: p) = r.at? (i :: p) := by
  cases p <;> rfl

@[simp] theorem at?_element_zero (n : String) (as : List Attribute) (c r : Content) :
    (Content.element n as c r).at? [0] = some ⟨n, as, c⟩ := rfl

@[simp] theorem at?_element_inside (n : String) (as : List Attribute) (c r : Content) (j : Nat)
    (p : Place) : (Content.element n as c r).at? (0 :: j :: p) = c.at? (j :: p) := rfl

@[simp] theorem at?_element_succ (n : String) (as : List Attribute) (c r : Content) (i : Nat)
    (p : Place) : (Content.element n as c r).at? ((i + 1) :: p) = r.at? (i :: p) := by
  cases p <;> rfl

/-- A place inside an element leads on from it. -/
theorem at?_append {c : Content} {p : Place} {e : Element} (h : c.at? p = some e) {q : Place}
    (hq : q ≠ []) : c.at? (p ++ q) = e.content.at? q := by
  obtain ⟨j, q, rfl⟩ := List.exists_cons_of_ne_nil hq
  induction p generalizing c with
  | nil => cases h
  | cons i p ih =>
    cases p with
    | nil =>
      change c.nodes[i]?.bind Node.element? = some e at h
      change (c.nodes[i]?.bind Node.element?).bind _ = _
      rw [h]
      rfl
    | cons k p =>
      obtain ⟨d, hd, hrest⟩ := Option.bind_eq_some_iff.1 h
      change (c.nodes[i]?.bind Node.element?).bind _ = _
      rw [hd]
      exact ih hrest

/-! ## lists of places -/

/-- A list holds the places of the elements for which something holds, each once and in
document order. -/
structure Lists (c : Content) (holds : Place → Element → Prop) (ps : List Place) : Prop where
  pairwise : ps.Pairwise (· < ·)
  mem_iff : ∀ p, p ∈ ps ↔ ∃ e, c.at? p = some e ∧ holds p e

/-- A list that is in document order holds no place twice. -/
theorem Lists.nodup {c : Content} {holds : Place → Element → Prop} {ps : List Place}
    (h : c.Lists holds ps) : ps.Nodup :=
  h.pairwise.imp fun {p q} (hlt : p < q) (heq : p = q) => List.lt_irrefl q (heq ▸ hlt)

/-! ## the places of the elements of a name -/

/-- The place in a content with one more piece in front. -/
def next : Place → Place
  | [] => []
  | i :: p => (i + 1) :: p

theorem zero_cons_notMem_map_next (p : Place) (ps : List Place) : 0 :: p ∉ ps.map next := by
  rw [List.mem_map]
  rintro ⟨q, -, hq⟩
  cases q <;> cases hq

theorem succ_cons_mem_map_next {i : Nat} {p : Place} {ps : List Place} :
    (i + 1) :: p ∈ ps.map next ↔ i :: p ∈ ps := by
  rw [List.mem_map]
  constructor
  · rintro ⟨q, hmem, hq⟩
    cases q with
    | nil => cases hq
    | cons j q =>
      cases hq
      exact hmem
  · exact fun hmem => ⟨_, hmem, rfl⟩

theorem next_lt_next {p q : Place} (h : p < q) : next p < next q := by
  cases p with
  | nil =>
    cases q with
    | nil => exact absurd h (List.lt_irrefl _)
    | cons j q => exact List.nil_lt_cons ..
  | cons i p =>
    cases q with
    | nil => cases h
    | cons j q =>
      rw [List.cons_lt_cons_iff] at h
      exact List.cons_lt_cons_iff.2 (h.imp Nat.succ_lt_succ fun h => ⟨congrArg _ h.1, h.2⟩)

/-- The places of the elements of a name. -/
def places (name : String) : Content → List Place
  | .nil => []
  | .text _ r => (r.places name).map next
  | .element n _ c r =>
    (if n = name then [[0]] else []) ++ (c.places name).map (0 :: ·) ++ (r.places name).map next

theorem nil_notMem_places (name : String) (c : Content) : [] ∉ c.places name := by
  have hnext : ∀ ps : List Place, [] ∉ ps → [] ∉ ps.map next := by
    intro ps hps hmem
    obtain ⟨q, hq, hnil⟩ := List.mem_map.1 hmem
    cases q with
    | nil => exact hps hq
    | cons i q => cases hnil
  induction c with
  | nil => exact List.not_mem_nil
  | text v r ih => exact hnext _ ih
  | element n as c r _ ihr =>
    rw [places, List.mem_append, List.mem_append]
    rintro ((hself | hinside) | hafter)
    · split at hself <;> simp at hself
    · simp at hinside
    · exact hnext _ ihr hafter

theorem mem_places {name : String} {c : Content} {p : Place} :
    p ∈ c.places name ↔ ∃ e, c.at? p = some e ∧ e.name = name := by
  induction c generalizing p with
  | nil => simp [places]
  | text v r ih =>
    match p with
    | [] => simp [nil_notMem_places]
    | 0 :: p => simp [places, zero_cons_notMem_map_next]
    | (i + 1) :: p => rw [places, succ_cons_mem_map_next, ih, at?_text_succ]
  | element n as c r ihc ihr =>
    match p with
    | [] => simp [nil_notMem_places]
    | [0] =>
      by_cases hn : n = name <;>
        simp [places, zero_cons_notMem_map_next, nil_notMem_places, hn]
    | 0 :: j :: p =>
      have hself : (0 :: j :: p) ∉ (if n = name then [[0]] else []) := by
        split <;> simp
      rw [places, at?_element_inside, ← ihc]
      simp [zero_cons_notMem_map_next, hself]
    | (i + 1) :: p =>
      have hself : ((i + 1) :: p) ∉ (if n = name then [[0]] else []) := by
        split <;> simp
      rw [places, at?_element_succ, ← ihr, List.mem_append, succ_cons_mem_map_next]
      simp [hself]

theorem pairwise_places (name : String) (c : Content) : (c.places name).Pairwise (· < ·) := by
  induction c with
  | nil => exact .nil
  | text v r ih => exact ih.map next fun _ _ => next_lt_next
  | element n as c r ihc ihr =>
    have hself : (if n = name then [[0]] else ([] : List Place)).Pairwise (· < ·) := by
      split
      · exact List.pairwise_singleton ..
      · exact .nil
    -- The element itself stands before those inside it, and these before what follows.
    have hinside : ∀ p ∈ (if n = name then [[0]] else ([] : List Place)),
        ∀ q ∈ (c.places name).map (0 :: ·), p < q := by
      intro p hp q hq
      obtain ⟨q, hmem, rfl⟩ := List.mem_map.1 hq
      have hp : p = [0] := by
        split at hp
        · exact List.mem_singleton.1 hp
        · exact absurd hp List.not_mem_nil
      obtain ⟨j, q, rfl⟩ : ∃ j r, q = j :: r :=
        List.exists_cons_of_ne_nil fun h => nil_notMem_places name c (h ▸ hmem)
      rw [hp, List.cons_lt_cons_iff]
      exact .inr ⟨rfl, List.nil_lt_cons ..⟩
    have hafter : ∀ p ∈ (if n = name then [[0]] else ([] : List Place)) ++
        (c.places name).map (0 :: ·), ∀ q ∈ (r.places name).map next, p < q := by
      intro p hp q hq
      obtain ⟨q, hmem, rfl⟩ := List.mem_map.1 hq
      obtain ⟨j, q, rfl⟩ : ∃ j r, q = j :: r :=
        List.exists_cons_of_ne_nil fun h => nil_notMem_places name r (h ▸ hmem)
      obtain ⟨p, rfl⟩ : ∃ r, p = 0 :: r := by
        rcases List.mem_append.1 hp with hp | hp
        · split at hp
          · exact ⟨[], List.mem_singleton.1 hp⟩
          · exact absurd hp List.not_mem_nil
        · obtain ⟨r, -, rfl⟩ := List.mem_map.1 hp
          exact ⟨r, rfl⟩
      exact List.cons_lt_cons_iff.2 (.inl (Nat.succ_pos j))
    have hbelow : ((c.places name).map (0 :: ·)).Pairwise (· < ·) :=
      ihc.map _ fun _ _ h => List.cons_lt_cons_iff.2 (.inr ⟨rfl, h⟩)
    exact List.pairwise_append.2 ⟨List.pairwise_append.2 ⟨hself, hbelow, hinside⟩,
      ihr.map next fun _ _ => next_lt_next, hafter⟩

/-- The places of the elements of a name are listed in document order. -/
theorem lists_places (name : String) (c : Content) :
    c.Lists (fun _ e => e.name = name) (c.places name) :=
  ⟨pairwise_places name c, fun _ => mem_places⟩

/-- What is at the places of a content is found again behind one more piece. -/
theorem map_at?_next {c r : Content} (h : ∀ i p, c.at? ((i + 1) :: p) = r.at? (i :: p))
    (name : String) : ((r.places name).map next).map c.at? = (r.places name).map r.at? := by
  rw [List.map_map]
  refine List.map_congr_left fun p hp => ?_
  cases p with
  | nil => exact absurd hp (nil_notMem_places name r)
  | cons i p => exact h i p

/-- The elements of a name are those at their places. -/
theorem map_at?_places (name : String) (c : Content) :
    (c.places name).map c.at? = (c.descendants name).map some := by
  induction c with
  | nil => rfl
  | text v r ih => rw [places, map_at?_next (at?_text_succ v r), ih, descendants]
  | element n as c r ihc ihr =>
    have hinside : ((c.places name).map (0 :: ·)).map (Content.element n as c r).at? =
        (c.places name).map c.at? := by
      rw [List.map_map]
      refine List.map_congr_left fun p hp => ?_
      cases p with
      | nil => exact absurd hp (nil_notMem_places name c)
      | cons i p => exact at?_element_inside n as c r i p
    rw [places, List.map_append, List.map_append, hinside, map_at?_next (at?_element_succ n as c r),
      ihc, ihr, descendants]
    split <;> simp

/-- The elements of a name at any depth are those of the name that places lead to. -/
theorem mem_descendants {name : String} {c : Content} {e : Element} :
    e ∈ c.descendants name ↔ ∃ p, c.at? p = some e ∧ e.name = name := by
  have hmem : some e ∈ (c.places name).map c.at? ↔ e ∈ c.descendants name := by
    simp [map_at?_places]
  rw [← hmem, List.mem_map]
  constructor
  · rintro ⟨p, hp, he⟩
    obtain ⟨d, hd, hname⟩ := mem_places.1 hp
    rw [he, Option.some_inj] at hd
    exact ⟨p, he, hd ▸ hname⟩
  · rintro ⟨p, he, hname⟩
    exact ⟨p, mem_places.2 ⟨e, he, hname⟩, he⟩

/-! ## places inside an element -/

/-- The places of the elements of a name inside the element at a place. -/
def placesIn (name : String) (c : Content) (q : Place) : List Place :=
  match c.at? q with
  | none => []
  | some e => (e.content.places name).map (q ++ ·)

theorem mem_placesIn {name : String} {c : Content} {q : Place} {e : Element} (h : c.at? q = some e)
    {p : Place} :
    p ∈ c.placesIn name q ↔ ∃ d, c.at? p = some d ∧ d.name = name ∧ q <+: p ∧ q ≠ p := by
  rw [placesIn, h]
  constructor
  · intro hp
    obtain ⟨r, hr, rfl⟩ := List.mem_map.1 hp
    have hne : r ≠ [] := fun hnil => nil_notMem_places name e.content (hnil ▸ hr)
    obtain ⟨d, hd, hname⟩ := mem_places.1 hr
    exact ⟨d, (at?_append h hne).trans hd, hname, List.prefix_append q r,
      fun heq => hne (List.self_eq_append_right.1 heq)⟩
  · rintro ⟨d, hd, hname, ⟨r, rfl⟩, hne⟩
    have hr : r ≠ [] := fun hnil => hne (by rw [hnil, List.append_nil])
    rw [at?_append h hr] at hd
    exact List.mem_map_of_mem (mem_places.2 ⟨d, hd, hname⟩)

/-- The places inside an element are listed in document order. -/
theorem lists_placesIn (name : String) {c : Content} {q : Place} {e : Element}
    (h : c.at? q = some e) :
    c.Lists (fun p d => d.name = name ∧ q <+: p ∧ q ≠ p) (c.placesIn name q) where
  pairwise := by
    rw [placesIn, h]
    exact (pairwise_places name e.content).map _ fun _ _ => List.append_left_lt
  mem_iff _ := mem_placesIn h

/-- The elements of a name inside an element are those at their places. -/
theorem map_at?_placesIn (name : String) {c : Content} {q : Place} {e : Element}
    (h : c.at? q = some e) :
    (c.placesIn name q).map c.at? = (e.descendants name).map some := by
  rw [placesIn, h, Element.descendants, ← map_at?_places]
  dsimp only
  rw [List.map_map]
  refine List.map_congr_left fun r hr => at?_append h ?_
  exact fun hnil => nil_notMem_places name e.content (hnil ▸ hr)

/-! ## elements around a place -/

/-- The elements that a place leads through, outermost first.  What it leads to is not among
them, nor is all of the content. -/
def around (c : Content) (p : Place) : List Element :=
  (List.range p.length).filterMap fun n => c.at? (p.take n)

/-- The places that a place leads through. -/
theorem mem_map_take_range {p q : Place} :
    q ∈ (List.range p.length).map p.take ↔ q <+: p ∧ q ≠ p := by
  rw [List.mem_map]
  constructor
  · rintro ⟨n, hn, rfl⟩
    rw [List.mem_range] at hn
    refine ⟨List.take_prefix n p, fun heq => ?_⟩
    have hlength := congrArg List.length heq
    rw [List.length_take] at hlength
    omega
  · rintro ⟨hfront, hne⟩
    refine ⟨q.length, List.mem_range.2 ?_, List.prefix_iff_eq_take.1 hfront |>.symm⟩
    exact Nat.lt_of_le_of_ne hfront.length_le fun heq => hne (hfront.eq_of_length heq)

theorem nodup_map_take_range (p : Place) : ((List.range p.length).map p.take).Nodup := by
  refine List.Nodup.map_on (fun m hm n hn heq => ?_) List.nodup_range
  have hlength := congrArg List.length heq
  rw [List.mem_range] at hm hn
  rw [List.length_take, List.length_take] at hlength
  omega

/-- As many elements of a name are around a place as have a place that leads on to it. -/
theorem countP_around (name : String) (c : Content) (p : Place) :
    (c.around p).countP (·.name = name) =
      (c.places name).countP fun q => q <+: p ∧ q ≠ p := by
  have hperm : (((List.range p.length).map p.take).filter (· ∈ c.places name)).Perm
      ((c.places name).filter fun q => q <+: p ∧ q ≠ p) := by
    refine (List.perm_ext_iff_of_nodup ((nodup_map_take_range p).filter _)
      ((lists_places name c).nodup.filter _)).2 fun q => ?_
    simp only [List.mem_filter, mem_map_take_range, decide_eq_true_eq, and_comm]
  rw [List.countP_eq_length_filter (l := c.places name), ← hperm.length_eq,
    ← List.countP_eq_length_filter, List.countP_map, around, List.countP_filterMap]
  refine List.countP_congr fun n _ => ?_
  cases hat : c.at? (p.take n) with
  | none => simp [mem_places, hat]
  | some e => simp [mem_places, hat]

/-- In the lists of the places inside each element of a name, taken together, a place is as
often as there are elements of that name around it. -/
theorem count_flatMap_placesIn (outer : String) {name : String} {c : Content} {p : Place}
    {e : Element} (h : c.at? p = some e) (hname : e.name = name) :
    ((c.places outer).flatMap (c.placesIn name)).count p =
      (c.around p).countP (·.name = outer) := by
  rw [countP_around]
  have hat : ∀ q ∈ c.places outer, ∃ d, c.at? q = some d := by
    intro q hq
    obtain ⟨d, hd, -⟩ := mem_places.1 hq
    exact ⟨d, hd⟩
  generalize c.places outer = qs at hat ⊢
  induction qs with
  | nil => rfl
  | cons q qs ih =>
    obtain ⟨d, hd⟩ := hat q List.mem_cons_self
    have hself : (c.placesIn name q).count p = if q <+: p ∧ q ≠ p then 1 else 0 := by
      rw [(lists_placesIn name hd).nodup.count]
      refine if_congr ((mem_placesIn hd).trans ?_) rfl rfl
      exact ⟨fun ⟨_, _, _, hq⟩ => hq, fun hq => ⟨e, h, hname, hq⟩⟩
    rw [List.flatMap_cons, List.count_append, hself,
      ih fun q hq => hat q (List.mem_cons_of_mem _ hq), List.countP_cons, Nat.add_comm]
    simp only [decide_eq_true_eq]

end Content

end Docdown.Xml
