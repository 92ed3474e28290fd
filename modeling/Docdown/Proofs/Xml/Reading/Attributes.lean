import Docdown.Proofs.Xml.Scanning
import Docdown.Proofs.Xml.Spelling

/-!
# Docdown.Proofs.Xml.Reading.Attributes

What a scanner makes of the pieces inside a tag, in prefix form: a piece followed
by any rest leads to the rest, read in the state after the piece.  Blanks are
skipped, names collected, references resolved; `readAll_assignments` takes all
attributes of a tag.

Which of them count is said apart from reading: `Tag.addAll_eq_ok`.
-/

namespace Docdown.Xml

/-! ## characters -/

theorem isNameChar_ne {c d : Char} (hc : isNameChar c = true) (hd : isNameChar d = false) :
    c ≠ d := by
  rintro rfl
  rw [hc] at hd
  contradiction

theorem isNameStart_ne {c d : Char} (hc : isNameStart c = true) (hd : isNameStart d = false) :
    c ≠ d := by
  rintro rfl
  rw [hc] at hd
  contradiction

theorem isSpace_of_isNameChar {c : Char} (h : isNameChar c = true) : isSpace c = false := by
  cases hs : isSpace c with
  | false => rfl
  | true => rw [isNameChar_of_isSpace hs] at h; contradiction

theorem isSpace_of_isNameStart {c : Char} (h : isNameStart c = true) : isSpace c = false :=
  isSpace_of_isNameChar (isNameChar_of_isNameStart h)

theorem isSpace_ne {c d : Char} (hc : isSpace c = true) (hd : isSpace d = false) : c ≠ d := by
  rintro rfl
  rw [hc] at hd
  contradiction

theorem Spelling.Quote.isQuote_char (q : Spelling.Quote) : Scanner.isQuote q.char = true := by
  cases q <;> decide

theorem Spelling.Quote.isSpace_char (q : Spelling.Quote) : isSpace q.char = false := by
  cases q <;> decide

/-! ## words -/

namespace Spelling

/-- A name is a character that starts one and characters that go on. -/
theorem exists_of_isName {cs : List Char} (h : isName cs = true) :
    ∃ d ds, cs = d :: ds ∧ isNameStart d = true ∧ ∀ c ∈ ds, isNameChar c = true := by
  cases cs with
  | nil => simp [isName] at h
  | cons d ds =>
    rw [isName, Bool.and_eq_true, List.all_eq_true] at h
    exact ⟨d, ds, rfl, h.1, h.2⟩

theorem exists_of_isEntityName {cs : List Char} (h : isEntityName cs = true) :
    ∃ d ds, cs = d :: ds ∧ isEntityStart d = true ∧ ∀ c ∈ ds, isEntityChar c = true := by
  cases cs with
  | nil => simp [isEntityName] at h
  | cons d ds =>
    rw [isEntityName, Bool.and_eq_true, List.all_eq_true] at h
    exact ⟨d, ds, rfl, h.1, h.2⟩

end Spelling

namespace Scanner

open Spelling

@[simp] theorem inMode_inMode (s : Scanner) (m m' : Mode) :
    (s.inMode m).inMode m' = s.inMode m' := rfl

@[simp] theorem tree_inMode (s : Scanner) (m : Mode) : (s.inMode m).tree = s.tree := rfl

@[simp] theorem doctype_inMode (s : Scanner) (m : Mode) : (s.inMode m).doctype = s.doctype := rfl

@[simp] theorem mode_inMode (s : Scanner) (m : Mode) : (s.inMode m).mode = m := rfl

@[simp] theorem doctype_flush (s : Scanner) : s.flush.doctype = s.doctype := by
  unfold flush
  split <;> rfl

theorem flush_inMode (s : Scanner) (m : Mode) : (s.inMode m).flush = s.flush.inMode m := by
  unfold flush
  split <;> simp_all [inMode]

theorem openTag_inMode (s : Scanner) (m : Mode) (t : Tag) :
    (s.inMode m).openTag t = s.openTag t := by
  unfold openTag emit
  rw [tree_inMode]
  cases s.tree.accept (.startTag t.name t.attributes) <;> rfl

theorem closeTag_inMode (s : Scanner) (m : Mode) (name : String) :
    (s.inMode m).closeTag name = s.closeTag name := by
  unfold closeTag emit
  rw [tree_inMode]
  cases hf : s.tree.frames with
  | nil => rfl
  | cons f fs =>
    simp only [flush_inMode, tree_inMode]
    cases s.flush.tree.accept .endTag <;> rfl

@[simp] theorem collected_reverse (cs : List Char) : collected cs.reverse = String.ofList cs := by
  rw [collected, List.reverse_reverse]

/-- Blanks that change nothing one by one change nothing together. -/
theorem readAll_blanks {s : Scanner} (hs : ∀ c, isSpace c = true → s.read c = .ok s)
    (b : Blanks) (rest : List Char) : s.readAll (b.chars ++ rest) = s.readAll rest := by
  obtain ⟨cs, hcs⟩ := b
  induction cs with
  | nil => rfl
  | cons c cs ih =>
    have hc : s.read c = .ok s := hs c (hcs c List.mem_cons_self)
    rw [List.cons_append, readAll_cons_ok hc]
    exact ih fun d hd => hcs d (List.mem_cons_of_mem c hd)

/-- Characters that a family of modes collects one by one it collects together. -/
theorem readAll_collect {s : Scanner} {k : List Char → Mode} {p : Char → Prop}
    (hk : ∀ c cs, p c → (s.inMode (k cs)).read c = .ok (s.inMode (k (c :: cs))))
    (ds : List Char) (hds : ∀ c ∈ ds, p c) (cs rest : List Char) :
    (s.inMode (k cs)).readAll (ds ++ rest) = (s.inMode (k (ds.reverse ++ cs))).readAll rest := by
  induction ds generalizing cs with
  | nil => rfl
  | cons d ds ih =>
    have hd : (s.inMode (k cs)).read d = .ok (s.inMode (k (d :: cs))) :=
      hk d cs (hds d List.mem_cons_self)
    rw [List.cons_append, readAll_cons_ok hd, ih fun c hc => hds c (List.mem_cons_of_mem d hc),
      List.reverse_cons, List.append_assoc, List.singleton_append]

/-! ## references -/

theorem readEntity_of_isEntityStart {c : Char} (h : isEntityStart c = true) :
    readEntity [] c = .ok (.inl [c]) := by
  have hc : c ≠ ';' := by rintro rfl; exact absurd h (by decide)
  simp [readEntity, hc, h]

theorem readEntity_of_isEntityChar {c : Char} (h : isEntityChar c = true) (d : Char)
    (ds : List Char) : readEntity (d :: ds) c = .ok (.inl (c :: d :: ds)) := by
  have hc : c ≠ ';' := by rintro rfl; exact absurd h (by decide)
  simp [readEntity, hc, h]

theorem readEntity_semicolon (r : Reference) :
    readEntity r.name.reverse ';' = .ok (.inr r.char) := by
  have hr : Entity.resolve? r.name = some r.char := by simp [Reference.char]
  rw [readEntity, if_pos rfl, List.reverse_reverse, hr]

/-- A family of modes that reads the name of a reference comes through at its
semicolon with the character. -/
theorem readAll_reference {s : Scanner} {k : List Char → Mode} {done : Char → Scanner}
    (hk : ∀ e c, (s.inMode (k e)).read c =
      (readEntity e c).map (Sum.elim (fun e => s.inMode (k e)) done))
    (r : Reference) (rest : List Char) :
    (s.inMode (k [])).readAll (r.name ++ ';' :: rest) = (done r.char).readAll rest := by
  obtain ⟨d, ds, hname, hd, hds⟩ := exists_of_isEntityName r.isEntityName
  have hfirst : (s.inMode (k [])).read d = .ok (s.inMode (k [d])) := by
    rw [hk, readEntity_of_isEntityStart hd]; rfl
  -- The first character is collected on its own, since only later ones may be digits.
  have hothers := readAll_collect (s := s) (k := fun e => k (e ++ [d]))
    (p := fun c => isEntityChar c = true)
    (fun c cs hc => by
      obtain ⟨x, xs, hx⟩ : ∃ x xs, cs ++ [d] = x :: xs :=
        List.exists_cons_of_ne_nil (by simp)
      rw [hx, hk, readEntity_of_isEntityChar hc, List.cons_append, hx]; rfl) ds hds []
  have hlast : (s.inMode (k r.name.reverse)).read ';' = .ok (done r.char) := by
    rw [hk, readEntity_semicolon]; rfl
  rw [hname, List.cons_append, readAll_cons_ok hfirst]
  rw [hname, List.reverse_cons] at hlast
  have h := hothers (';' :: rest)
  rw [List.nil_append, List.append_nil] at h
  rw [h, readAll_cons_ok hlast]

/-! ## values and attributes -/

/-- Blanks that lead to a state in which more blanks change nothing lead there
together, if there are any. -/
theorem readAll_gap {s s' : Scanner} (hfirst : ∀ c, isSpace c = true → s.read c = .ok s')
    (hmore : ∀ c, isSpace c = true → s'.read c = .ok s') (b : Blanks) (hb : b.chars ≠ [])
    (rest : List Char) : s.readAll (b.chars ++ rest) = s'.readAll rest := by
  obtain ⟨cs, hcs⟩ := b
  cases cs with
  | nil => exact absurd rfl hb
  | cons c cs =>
    rw [List.cons_append, readAll_cons_ok (hfirst c (hcs c List.mem_cons_self))]
    exact readAll_blanks hmore ⟨cs, fun d hd => hcs d (List.mem_cons_of_mem c hd)⟩ rest

/-- Blanks may be missing before a character that both states read alike. -/
theorem readAll_gap_or_not {s s' : Scanner} (hfirst : ∀ c, isSpace c = true → s.read c = .ok s')
    (hmore : ∀ c, isSpace c = true → s'.read c = .ok s') (b : Blanks) {d : Char}
    (hd : s.read d = s'.read d) (rest : List Char) :
    s.readAll (b.chars ++ d :: rest) = s'.readAll (d :: rest) := by
  by_cases hb : b.chars = []
  · rw [hb, List.nil_append, readAll, readAll, hd]
  · exact readAll_gap hfirst hmore b hb (d :: rest)

theorem readAll_value (s : Scanner) (t : Tag) (n : List Char) (q : Quote)
    (ws : List (Written q.char)) (cs rest : List Char) :
    (s.inMode (.value t n q.char cs)).readAll (ws.flatMap Written.text ++ rest) =
      (s.inMode (.value t n q.char ((ws.map Written.char).reverse ++ cs))).readAll rest := by
  induction ws generalizing cs with
  | nil => rfl
  | cons w ws ih =>
    rw [List.flatMap_cons, List.append_assoc, List.map_cons, List.reverse_cons,
      List.append_assoc, List.singleton_append, ← ih]
    cases w with
    | plain c h =>
      have hc : (s.inMode (.value t n q.char cs)).read c =
          .ok (s.inMode (.value t n q.char (c :: cs))) := by
        simp [read, readValue, h.1, h.2]
      rw [Written.text, List.singleton_append, readAll_cons_ok hc]
      rfl
    | reference r =>
      have hamp : '&' ≠ q.char := by cases q <;> decide
      have hc : (s.inMode (.value t n q.char cs)).read '&' =
          .ok (s.inMode (.valueEntity t n q.char cs [])) := by
        simp [read, readValue, hamp]
      have hk : ∀ e c, (s.inMode (.valueEntity t n q.char cs e)).read c =
          (readEntity e c).map (Sum.elim (fun e => s.inMode (.valueEntity t n q.char cs e))
            fun d => s.inMode (.value t n q.char (d :: cs))) := by
        intro e c
        show (readEntity e c).map _ = _
        cases readEntity e c with
        | error f => rfl
        | ok x => cases x <;> rfl
      rw [Written.text, Reference.text_append, readAll_cons_ok hc, readAll_reference hk]
      rfl

/-- The name of an attribute and the equals sign after it. -/
theorem readAll_attributeName (s : Scanner) (t : Tag) (n : Name) (b : Blanks)
    (rest : List Char) :
    (s.inMode (.tag t)).readAll (n.chars ++ (b.chars ++ '=' :: rest)) =
      (s.inMode (.beforeValue t n.chars.reverse)).readAll rest := by
  obtain ⟨d, ds, hname, hd, hds⟩ := exists_of_isName n.isName
  have hfirst : (s.inMode (.tag t)).read d = .ok (s.inMode (.attributeName t [d])) := by
    have hgt : d ≠ '>' := isNameStart_ne hd (by decide)
    have hslash : d ≠ '/' := isNameStart_ne hd (by decide)
    simp [read, readTag, isSpace_of_isNameStart hd, hgt, hslash, hd]
  have hcollect := readAll_collect (s := s) (k := .attributeName t)
    (p := fun c => isNameChar c = true)
    (fun c cs hc => by
      have heq : c ≠ '=' := isNameChar_ne hc (by decide)
      have hgt : c ≠ '>' := isNameChar_ne hc (by decide)
      simp [read, readAttributeName, heq, hgt, isSpace_of_isNameChar hc, hc]) ds hds [d]
  have hspace : ∀ c, isSpace c = true → (s.inMode (.attributeName t (ds.reverse ++ [d]))).read c =
      .ok (s.inMode (.afterAttributeName t (ds.reverse ++ [d]))) := by
    intro c hc
    have heq : c ≠ '=' := isSpace_ne hc (by decide)
    have hgt : c ≠ '>' := isSpace_ne hc (by decide)
    simp [read, readAttributeName, heq, hgt, hc]
  have hmore : ∀ c, isSpace c = true →
      (s.inMode (.afterAttributeName t (ds.reverse ++ [d]))).read c =
        .ok (s.inMode (.afterAttributeName t (ds.reverse ++ [d]))) := by
    intro c hc
    have heq : c ≠ '=' := isSpace_ne hc (by decide)
    simp [read, readAfterAttributeName, heq, hc]
  have hequals : (s.inMode (.afterAttributeName t (ds.reverse ++ [d]))).read '=' =
      .ok (s.inMode (.beforeValue t (ds.reverse ++ [d]))) := rfl
  rw [hname, List.reverse_cons, List.cons_append, readAll_cons_ok hfirst, hcollect,
    readAll_gap_or_not hspace hmore b rfl, readAll_cons_ok hequals]

/-- An attribute in a tag, which is added to the tag. -/
theorem readAll_assignment (s : Scanner) {t t' : Tag} (a : Assignment)
    (h : t.add a.pair.1 a.pair.2 = .ok t') (rest : List Char) :
    (s.inMode (.afterValue t)).readAll (a.text ++ rest) =
      (s.inMode (.afterValue t')).readAll rest := by
  have hgap : ∀ c, isSpace c = true →
      (s.inMode (.afterValue t)).read c = .ok (s.inMode (.tag t)) := by
    intro c hc
    simp [read, readAfterValue, hc]
  have htag : ∀ c, isSpace c = true → (s.inMode (.tag t)).read c = .ok (s.inMode (.tag t)) := by
    intro c hc
    simp [read, readTag, hc]
  have hbefore : ∀ c, isSpace c = true → (s.inMode (.beforeValue t a.name.chars.reverse)).read c =
      .ok (s.inMode (.beforeValue t a.name.chars.reverse)) := by
    intro c hc
    simp [read, readBeforeValue, hc]
  have hquote : (s.inMode (.beforeValue t a.name.chars.reverse)).read a.quote.char =
      .ok (s.inMode (.value t a.name.chars.reverse a.quote.char [])) := by
    simp [read, readBeforeValue, a.quote.isSpace_char, a.quote.isQuote_char]
  have hclose : (s.inMode (.value t a.name.chars.reverse a.quote.char
      (a.value.map Written.char).reverse)).read a.quote.char = .ok (s.inMode (.afterValue t')) := by
    have hadd : t.add (String.ofList a.name.chars) (String.ofList (a.value.map Written.char)) =
      .ok t' := h
    simp [read, readValue, hadd, Except.map]
  simp only [Assignment.text, List.append_assoc, List.cons_append, List.nil_append]
  rw [readAll_gap hgap htag a.gap a.gap_ne_nil, readAll_attributeName,
    readAll_blanks hbefore a.afterEquals, readAll_cons_ok hquote, readAll_value,
    List.append_nil, readAll_cons_ok hclose]

end Scanner

/-- The tag with several more attributes. -/
def Tag.addAll (t : Tag) : List Attribute → Except Fault Tag
  | [] => .ok t
  | a :: as => (t.add a.1 a.2).bind fun t => t.addAll as

theorem Tag.addAll_concat (t : Tag) (as : List Attribute) (a : Attribute) :
    t.addAll (as ++ [a]) = (t.addAll as).bind fun t => t.add a.1 a.2 := by
  induction as generalizing t with
  | nil =>
    show (t.add a.1 a.2).bind _ = t.add a.1 a.2
    cases t.add a.1 a.2 <;> rfl
  | cons b bs ih =>
    rw [List.cons_append, addAll, addAll]
    cases t.add b.1 b.2 with
    | error f => rfl
    | ok u => exact ih u

namespace Scanner

open Spelling

theorem readAll_assignments (s : Scanner) {t t' : Tag} (as : List Assignment)
    (h : t.addAll (as.map Assignment.pair) = .ok t') (rest : List Char) :
    (s.inMode (.afterValue t)).readAll (as.flatMap Assignment.text ++ rest) =
      (s.inMode (.afterValue t')).readAll rest := by
  induction as generalizing t with
  | nil => cases h; rfl
  | cons a as ih =>
    rw [List.map_cons, Tag.addAll] at h
    cases ha : t.add a.pair.1 a.pair.2 with
    | error f => rw [ha] at h; contradiction
    | ok u =>
      rw [ha] at h
      rw [List.flatMap_cons, List.append_assoc, readAll_assignment s a ha, ih h]

end Scanner

/-! ## attributes that count -/

namespace Tag

open Spelling

/-- A tag takes an attribute unless it has one named `hasOwnProperty`. -/
theorem add_eq_ok {t : Tag} (h : "hasOwnProperty" ∉ t.attributes.map Prod.fst)
    (name value : String) :
    t.add name value = .ok (if name ∈ t.attributes.map Prod.fst ∨ name = "__proto__" then t
      else { t with attributes := t.attributes ++ [(name, value)] }) := by
  unfold add
  rw [if_neg h]
  split <;> rfl

/-- The attributes that count are taken, but for those whose names the tag has. -/
theorem addAll_eq_ok (t : Tag) (as : List Attribute)
    (hnames : as ≠ [] → "hasOwnProperty" ∉ t.attributes.map Prod.fst)
    (has : "hasOwnProperty" ∉ (as.map Prod.fst).dropLast) :
    t.addAll as = .ok { t with attributes := (t.attributes ++
      (effective as).filter (fun a => a.1 ∉ t.attributes.map Prod.fst)) } := by
  induction as generalizing t with
  | nil => simp [addAll, effective]
  | cons a as ih =>
    have ht : "hasOwnProperty" ∉ t.attributes.map Prod.fst := hnames (by simp)
    have htail : "hasOwnProperty" ∉ (as.map Prod.fst).dropLast := by
      cases as with
      | nil => simp
      | cons b bs => exact fun hb => has (List.mem_cons_of_mem _ hb)
    rw [addAll, add_eq_ok ht]
    show addAll _ as = _
    by_cases hproto : a.1 = "__proto__"
    · rw [if_pos (Or.inr hproto), effective, if_pos hproto]
      exact ih t (fun _ => ht) htail
    · rw [effective, if_neg hproto]
      by_cases hold : a.1 ∈ t.attributes.map Prod.fst
      · rw [if_pos (Or.inl hold), ih t (fun _ => ht) htail,
          List.filter_cons_of_neg (by simpa using hold), List.filter_filter]
        congr 3
        refine List.filter_congr fun b _ => ?_
        by_cases hb : b.1 = a.1
        · rw [hb]; simp [hold]
        · simp [hb]
      · have hfirst : as ≠ [] → a.1 ≠ "hasOwnProperty" := by
          rintro has' heq
          obtain ⟨b, bs, rfl⟩ := List.exists_cons_of_ne_nil has'
          exact has (by rw [← heq]; exact List.mem_cons_self)
        have hnext : as ≠ [] →
            "hasOwnProperty" ∉ (t.attributes ++ [(a.1, a.2)]).map Prod.fst := by
          intro has' hmem
          rw [List.map_append, List.mem_append] at hmem
          exact hmem.elim ht fun h => hfirst has' (List.mem_singleton.1 h).symm
        rw [if_neg (by simp [hold, hproto]), ih _ hnext htail,
          List.filter_cons_of_pos (by simpa using hold), List.filter_filter, List.append_assoc,
          List.singleton_append]
        congr 4
        refine List.filter_congr fun b _ => ?_
        grind

end Tag

namespace Spelling

/-- The tag that is read. -/
def StartTag.tag (g : StartTag) : Tag := ⟨g.name.text, g.attributes⟩

theorem StartTag.addAll_eq_ok (g : StartTag) :
    Tag.addAll ⟨g.name.text, []⟩ (g.assignments.map Assignment.pair) = .ok g.tag := by
  have hlookup :
      "hasOwnProperty" ∉ ((g.assignments.map Assignment.pair).map Prod.fst).dropLast := by
    rw [List.map_map]
    exact g.lookup
  rw [Tag.addAll_eq_ok _ _ (by simp) hlookup]
  simp [StartTag.tag, attributes]

end Spelling

end Docdown.Xml
