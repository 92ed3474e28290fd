import Docdown.Proofs.Text.Splitting
import Docdown.Proofs.Text.Stripping

/-!
# Docdown.Proofs.Text.Words

The words of a text are its longest runs of word characters (`runs_iff`), and a character
that stands in no word keeps the words around it apart (`words_append_cons`).  So the words
joined by hyphens are also what is left if each longest run of other characters becomes one
hyphen and the hyphens at the ends are stripped (`strip_hyphenate`).  The slug of a slug is
the slug itself (`slug_slug`), and texts with a separator between them have the slugs of both,
joined (`slug_append`).
-/

namespace Docdown.Text

/-! ## longest runs -/

section Runs

variable {p : α → Bool} {xs : List α} {ws : List (List α)}

/-- The longest runs of elements for which `p` holds, in order. -/
inductive Runs (p : α → Bool) : List α → List (List α) → Prop
  | nil : Runs p [] []
  | other {x xs ws} : p x = false → Runs p xs ws → Runs p (x :: xs) ws
  | run {w xs ws} : w ≠ [] → (∀ x ∈ w, p x = true) → (∀ x ∈ xs.head?, p x = false) →
      Runs p xs ws → Runs p (w ++ xs) (w :: ws)

/-- Every list has longest runs. -/
theorem exists_runs (p : α → Bool) (xs : List α) : ∃ ws, Runs p xs ws := by
  induction xs with
  | nil => exact ⟨[], .nil⟩
  | cons x xs ih =>
    obtain ⟨ws, hruns⟩ := ih
    cases hx : p x with
    | false => exact ⟨ws, .other hx hruns⟩
    | true =>
      have hself : ∀ y ∈ [x], p y = true := by simpa using hx
      -- The element begins a run, unless the list already begins with one.
      cases hruns with
      | nil => exact ⟨[[x]], .run (List.cons_ne_nil x []) hself (by simp) .nil⟩
      | other hy hrest =>
        exact ⟨_, .run (List.cons_ne_nil x []) hself (by simpa using hy) (.other hy hrest)⟩
      | @run w _ ws _ hw hend hrest =>
        refine ⟨(x :: w) :: ws, .run (List.cons_ne_nil x w) ?_ hend hrest⟩
        exact List.forall_mem_cons.2 ⟨hx, hw⟩

theorem Runs.ne_nil_and_forall (h : Runs p xs ws) :
    ∀ w ∈ ws, w ≠ [] ∧ ∀ x ∈ w, p x = true := by
  induction h with
  | nil => simp
  | other _ _ ih => exact ih
  | run hne hw _ _ ih => exact List.forall_mem_cons.2 ⟨⟨hne, hw⟩, ih⟩

end Runs

/-! ## words -/

/-- A character that stands in no word keeps the words around it apart. -/
theorem words_append_cons {c : Char} (h : isWordChar c = false) (cs ds : List Char) :
    words (cs ++ c :: ds) = words cs ++ words ds := by
  rw [words, List.splitOnP_append_cons cs ds (by simp [h]), List.filter_append, words, words]

theorem words_cons {c : Char} (h : isWordChar c = false) (cs : List Char) :
    words (c :: cs) = words cs :=
  words_append_cons h [] cs

theorem words_append {cs : List Char} (h : ∀ c ∈ cs, isWordChar c = false) (ds : List Char) :
    words (cs ++ ds) = words ds := by
  induction cs with
  | nil => rfl
  | cons c cs ih =>
    rw [List.forall_mem_cons] at h
    rw [List.cons_append, words_cons h.1, ih h.2]

theorem words_eq_singleton {w : List Char} (hne : w ≠ []) (h : ∀ c ∈ w, isWordChar c = true) :
    words w = [w] := by
  rw [words, List.splitOnP_eq_singleton fun c hc => by simp [h c hc]]
  simp [hne]

/-- The words of a text are its longest runs of word characters. -/
theorem runs_iff {cs : List Char} {ws : List (List Char)} :
    Runs isWordChar cs ws ↔ ws = words cs := by
  have hwords : ∀ {cs ws}, Runs isWordChar cs ws → ws = words cs := by
    intro cs ws h
    induction h with
    | nil => rfl
    | other hc _ ih => rw [words_cons hc, ih]
    | @run w cs ws hne hw hend _ ih =>
      cases cs with
      | nil => rw [List.append_nil, words_eq_singleton hne hw, ih, words_nil]
      | cons c cs =>
        have hc : isWordChar c = false := hend c rfl
        rw [words_append_cons hc, words_eq_singleton hne hw, ih, words_cons hc,
          List.singleton_append]
  constructor
  · exact hwords
  · rintro rfl
    obtain ⟨ws, hruns⟩ := exists_runs isWordChar cs
    rwa [← hwords hruns]

theorem isWordChar_of_mem_words {cs w : List Char} (h : w ∈ words cs) :
    w ≠ [] ∧ ∀ c ∈ w, isWordChar c = true :=
  (runs_iff.2 rfl).ne_nil_and_forall w h

/-- Words joined by hyphens are read back. -/
theorem words_intercalate {ws : List (List Char)}
    (h : ∀ w ∈ ws, w ≠ [] ∧ ∀ c ∈ w, isWordChar c = true) :
    words (['-'].intercalate ws) = ws := by
  induction ws with
  | nil => rfl
  | cons w ws ih =>
    rw [List.forall_mem_cons] at h
    obtain ⟨⟨hne, hw⟩, hrest⟩ := h
    by_cases hnil : ws = []
    · rw [hnil, List.intercalate_singleton, words_eq_singleton hne hw]
    · rw [List.intercalate_cons_of_ne_nil hnil, List.append_assoc, List.singleton_append,
        words_append_cons (by decide), words_eq_singleton hne hw, ih hrest, List.singleton_append]

/-! ## lowercase forms -/

/-- Whether a text is a lowercase form of another.  A capital sigma has two, of which the
second stands at the end of a word; any other character has one. -/
inductive IsLowered : List Char → List Char → Prop
  | nil : IsLowered [] []
  | char {c cs ds} : IsLowered cs ds → IsLowered (c :: cs) (lowerChar c ++ ds)
  | finalSigma {cs ds} : IsLowered cs ds → IsLowered ('\u03A3' :: cs) ('\u03C2' :: ds)

theorem isLowered_lower (cs : List Char) : IsLowered cs (lower cs) := by
  induction cs with
  | nil => exact .nil
  | cons c cs ih => exact .char ih

theorem splitOnP_append_congr {p : α → Bool} {ys zs : List α} (h : ys.splitOnP p = zs.splitOnP p)
    (xs : List α) : (xs ++ ys).splitOnP p = (xs ++ zs).splitOnP p := by
  induction xs with
  | nil => exact h
  | cons x xs ih =>
    rw [List.cons_append, List.cons_append, List.splitOnP_cons_eq_if_modifyHead,
      List.splitOnP_cons_eq_if_modifyHead, ih]

/-- All lowercase forms of a text have the same words. -/
theorem IsLowered.words_eq {cs ds : List Char} (h : IsLowered cs ds) :
    words ds = words (lower cs) := by
  have hpieces : ds.splitOnP (fun c => !isWordChar c) =
      (lower cs).splitOnP fun c => !isWordChar c := by
    induction h with
    | nil => rfl
    | @char c cs ds _ ih => exact splitOnP_append_congr ih (lowerChar c)
    | @finalSigma cs ds _ ih =>
      have hsigma : lower ('\u03A3' :: cs) = '\u03C3' :: lower cs := by
        rw [lower, List.flatMap_cons, ← lower]
        rfl
      have hfinal : isWordChar '\u03C2' = false := by decide
      have hmedial : isWordChar '\u03C3' = false := by decide
      rw [hsigma, List.splitOnP_cons_eq_if_modifyHead, List.splitOnP_cons_eq_if_modifyHead, ih]
      simp [hfinal, hmedial]
  rw [words, hpieces, ← words]

theorem lowerChar_eq_self {c : Char} (hascii : c.toNat < 0x80) (hupper : c.isUpper = false) :
    lowerChar c = [c] := by
  have hself : c.toLower = c := dif_neg (of_decide_eq_false hupper)
  rw [lowerChar_of_ascii hascii, hself]

theorem lower_eq_self {cs : List Char} (h : ∀ c ∈ cs, c.toNat < 0x80 ∧ c.isUpper = false) :
    lower cs = cs := by
  induction cs with
  | nil => rfl
  | cons c cs ih =>
    rw [List.forall_mem_cons] at h
    rw [lower, List.flatMap_cons, lowerChar_eq_self h.1.1 h.1.2, ← lower, ih h.2,
      List.singleton_append]

/-! ## slugs -/

theorem toList_slug (s : String) :
    (slug s).toList = ['-'].intercalate (words (lower s.toList)) :=
  String.toList_ofList

theorem slug_eq_intercalate (s : String) :
    slug s = "-".intercalate ((words (lower s.toList)).map String.ofList) := by
  rw [← String.toList_inj, toList_slug, String.toList_intercalate, List.map_map]
  simp [Function.comp_def]

theorem slug_congr {s t : String} (h : words (lower s.toList) = words (lower t.toList)) :
    slug s = slug t := by
  rw [slug, h, slug]

/-- A text has the words that its slug shows. -/
theorem words_slug (s : String) : words (slug s).toList = words (lower s.toList) := by
  rw [toList_slug, words_intercalate fun w => isWordChar_of_mem_words]

theorem ascii_of_isWordChar {c : Char} (h : isWordChar c = true) :
    c.toNat < 0x80 ∧ c.isUpper = false := by
  rw [isWordChar, Bool.or_eq_true] at h
  have hcode : c.toNat ≤ 57 ∨ 97 ≤ c.toNat ∧ c.toNat ≤ 122 := by
    refine h.imp (fun hdigit => (Char.isDigit_iff_toNat.1 hdigit).2) fun hlower => ?_
    obtain ⟨hfirst, hlast⟩ := Bool.and_eq_true_iff.1 hlower
    exact ⟨UInt32.le_iff_toNat_le.1 (of_decide_eq_true hfirst),
      UInt32.le_iff_toNat_le.1 (of_decide_eq_true hlast)⟩
  refine ⟨by omega, decide_eq_false fun ⟨hfirst, hlast⟩ => ?_⟩
  have hfirst : 65 ≤ c.toNat := UInt32.le_iff_toNat_le.1 hfirst
  have hlast : c.toNat ≤ 90 := UInt32.le_iff_toNat_le.1 hlast
  omega

/-- A slug is in lowercase. -/
theorem lower_slug (s : String) : lower (slug s).toList = (slug s).toList := by
  refine lower_eq_self fun c hc => ?_
  obtain hword | rfl := isWordChar_of_mem_slug hc
  · exact ascii_of_isWordChar hword
  · decide

/-- The slug of a slug is the slug itself. -/
theorem slug_slug (s : String) : slug (slug s) = slug s :=
  slug_congr (by rw [lower_slug, words_slug])

theorem slug_eq_empty_iff {s : String} : slug s = "" ↔ words (lower s.toList) = [] := by
  constructor
  · intro h
    rw [← words_slug, h]
    rfl
  · intro h
    rw [slug, h]
    rfl

/-- Joined by a separator, of ASCII characters that are neither letters nor digits, two texts
have the slugs of both, joined. -/
theorem slug_append {separator : String} (hne : separator ≠ "")
    (hascii : ∀ c ∈ separator.toList, c.toNat < 0x80 ∧ c.isAlphanum = false) (s t : String) :
    slug (s ++ separator ++ t) = "-".intercalate ([slug s, slug t].filter (· ≠ "")) := by
  have hkinds : ∀ c ∈ separator.toList,
      (c.isUpper = false ∧ c.isLower = false) ∧ c.isDigit = false := by
    intro c hc
    have h : (c.isUpper || c.isLower || c.isDigit) = false := (hascii c hc).2
    rwa [Bool.or_eq_false_iff, Bool.or_eq_false_iff] at h
  have hother : ∀ c ∈ separator.toList, isWordChar c = false := by
    intro c hc
    rw [isWordChar, (hkinds c hc).2, (hkinds c hc).1.2, Bool.or_false]
  have hlower : lower separator.toList = separator.toList :=
    lower_eq_self fun c hc => ⟨(hascii c hc).1, (hkinds c hc).1.1⟩
  have hwords : words (lower (s ++ separator ++ t).toList) =
      words (lower s.toList) ++ words (lower t.toList) := by
    obtain ⟨c, cs, hcs⟩ : ∃ c cs, separator.toList = c :: cs :=
      List.exists_cons_of_ne_nil (by simpa using hne)
    rw [hcs, List.forall_mem_cons] at hother
    rw [String.toList_append, String.toList_append, lower_append, lower_append, hlower, hcs,
      List.append_assoc, List.cons_append, words_append_cons hother.1, words_append hother.2]
  rw [slug_eq_intercalate, hwords, List.map_append]
  by_cases hs : words (lower s.toList) = []
  · rw [hs, List.map_nil, List.nil_append, ← slug_eq_intercalate, slug_eq_empty_iff.2 hs]
    by_cases ht : slug t = "" <;> simp [ht]
  · by_cases ht : words (lower t.toList) = []
    · rw [ht, List.map_nil, List.append_nil, ← slug_eq_intercalate, slug_eq_empty_iff.2 ht]
      simp [slug_eq_empty_iff.not.2 hs]
    · rw [String.intercalate_append_of_ne_nil (by simpa using hs) (by simpa using ht),
        ← slug_eq_intercalate, ← slug_eq_intercalate]
      simp [slug_eq_empty_iff.not.2 hs, slug_eq_empty_iff.not.2 ht, String.append_assoc]

/-! ## words with hyphens between them -/

/-- Words of word characters, at least one, with a single hyphen between any two. -/
inductive Hyphenated : List Char → Prop
  | last {c} : isWordChar c = true → Hyphenated [c]
  | next {c cs} : isWordChar c = true → Hyphenated cs → Hyphenated (c :: cs)
  | hyphen {c cs} : isWordChar c = true → Hyphenated cs → Hyphenated (c :: '-' :: cs)

theorem hyphenated_intercalate {ws : List (List Char)} (hne : ws ≠ [])
    (h : ∀ w ∈ ws, w ≠ [] ∧ ∀ c ∈ w, isWordChar c = true) :
    Hyphenated (['-'].intercalate ws) := by
  -- A word may stand in front of nothing, and in front of a hyphen and more words.
  have hword : ∀ {w : List Char}, w ≠ [] → (∀ c ∈ w, isWordChar c = true) →
      Hyphenated w ∧ ∀ {cs}, Hyphenated cs → Hyphenated (w ++ '-' :: cs) := by
    intro w hw
    induction w with
    | nil => contradiction
    | cons c w ih =>
      intro hall
      rw [List.forall_mem_cons] at hall
      by_cases hnil : w = []
      · rw [hnil]
        exact ⟨.last hall.1, .hyphen hall.1⟩
      · obtain ⟨hself, hmore⟩ := ih hnil hall.2
        exact ⟨.next hall.1 hself, fun hcs => .next hall.1 (hmore hcs)⟩
  induction ws with
  | nil => contradiction
  | cons w ws ih =>
    rw [List.forall_mem_cons] at h
    obtain ⟨⟨hw, hall⟩, hrest⟩ := h
    by_cases hnil : ws = []
    · rw [hnil, List.intercalate_singleton]
      exact (hword hw hall).1
    · rw [List.intercalate_cons_of_ne_nil hnil, List.append_assoc]
      exact (hword hw hall).2 (ih hnil hrest)

theorem Hyphenated.isWordChar_head? {cs : List Char} (h : Hyphenated cs) :
    ∀ c ∈ cs.head?, isWordChar c = true := by
  cases h with
  | last hc => simpa using hc
  | next hc _ => simpa using hc
  | hyphen hc _ => simpa using hc

theorem Hyphenated.isWordChar_getLast? {cs : List Char} (h : Hyphenated cs) :
    ∀ c ∈ cs.getLast?, isWordChar c = true := by
  have hcons : ∀ {x : Char} {cs : List Char}, Hyphenated cs →
      (x :: cs).getLast? = cs.getLast? := by
    intro x cs h
    cases h <;> rfl
  induction h with
  | last hc => simpa using hc
  | next _ hcs ih => rwa [hcons hcs]
  | hyphen _ hcs ih => rwa [List.getLast?_cons_cons, hcons hcs]

theorem hyphenated_slug {s : String} (h : slug s ≠ "") : Hyphenated (slug s).toList := by
  rw [Ne, slug_eq_empty_iff] at h
  rw [toList_slug]
  exact hyphenated_intercalate h fun w => isWordChar_of_mem_words

/-! ## hyphens for other characters -/

/-- The text with one hyphen for each longest run of other characters than those of words.
Whether the text goes on with such a run is given. -/
def hyphenateAfter (isOther : Bool) : List Char → List Char
  | [] => []
  | c :: cs =>
    if isWordChar c then c :: hyphenateAfter false cs
    else (if isOther then [] else ['-']) ++ hyphenateAfter true cs

/-- The text with one hyphen for each longest run of other characters than those of words. -/
def hyphenate (cs : List Char) : List Char := hyphenateAfter false cs

theorem hyphenateAfter_append {w : List Char} (hne : w ≠ []) (hw : ∀ c ∈ w, isWordChar c = true)
    (isOther : Bool) (cs : List Char) :
    hyphenateAfter isOther (w ++ cs) = w ++ hyphenateAfter false cs := by
  induction w generalizing isOther with
  | nil => contradiction
  | cons c w ih =>
    rw [List.forall_mem_cons] at hw
    rw [List.cons_append, hyphenateAfter, if_pos hw.1, List.cons_append]
    by_cases hnil : w = []
    · rw [hnil, List.nil_append, List.nil_append]
    · rw [ih hnil hw.2]

theorem hyphenateAfter_false_cons {c : Char} (h : isWordChar c = false) (cs : List Char) :
    hyphenateAfter false (c :: cs) = '-' :: hyphenateAfter true (c :: cs) := by
  simp [hyphenateAfter, h]

/-- After another character a text becomes its words, joined by hyphens, and maybe a hyphen
after the last one. -/
theorem exists_hyphenateAfter_true {cs : List Char} {ws : List (List Char)}
    (h : Runs isWordChar cs ws) :
    ∃ hyphens, hyphenateAfter true cs = ['-'].intercalate ws ++ hyphens ∧
      (∀ c ∈ hyphens, c = '-') ∧ (ws = [] → hyphens = []) := by
  induction h with
  | nil => exact ⟨[], rfl, by simp, fun _ => rfl⟩
  | @other c cs ws hc _ ih =>
    have hskip : hyphenateAfter true (c :: cs) = hyphenateAfter true cs := by
      simp [hyphenateAfter, hc]
    rw [hskip]
    exact ih
  | @run w cs ws hne hw hend _ ih =>
    obtain ⟨hyphens, hrest, hall, hnone⟩ := ih
    rw [hyphenateAfter_append hne hw]
    cases cs with
    | nil =>
      have hws : ws = [] := by
        cases ws with
        | nil => rfl
        | cons v vs =>
          rename_i hruns
          exact absurd (runs_iff.1 hruns) (by simp)
      exact ⟨[], by simp [hws, hyphenateAfter], by simp, fun _ => rfl⟩
    | cons c cs =>
      rw [hyphenateAfter_false_cons (hend c rfl), hrest]
      by_cases hws : ws = []
      · exact ⟨['-'], by simp [hws, hnone hws], by simp, by simp⟩
      · refine ⟨hyphens, ?_, hall, by simp⟩
        rw [List.intercalate_cons_of_ne_nil hws]
        simp

/-- The words of a text, joined by hyphens, are what is left of it if each longest run of other
characters becomes one hyphen and the hyphens at the ends are stripped. -/
theorem strip_hyphenate (cs : List Char) :
    strip (· == '-') (hyphenate cs) = ['-'].intercalate (words cs) := by
  obtain ⟨hyphens, hafter, hall, -⟩ :=
    exists_hyphenateAfter_true (runs_iff.2 (rfl : words cs = words cs))
  -- At the front of the text a run of other characters adds a hyphen.
  obtain ⟨front, hfront, hhyphen⟩ : ∃ front, hyphenate cs = front ++ hyphenateAfter true cs ∧
      ∀ c ∈ front, c = '-' := by
    cases cs with
    | nil => exact ⟨[], rfl, by simp⟩
    | cons c cs =>
      cases hc : isWordChar c with
      | true => exact ⟨[], by simp [hyphenate, hyphenateAfter, hc], by simp⟩
      | false => exact ⟨['-'], hyphenateAfter_false_cons hc cs, by simp⟩
  have hends : ∀ c : Char, isWordChar c = true → (c == '-') = false := by
    intro c hc
    have hne : c ≠ '-' := by
      rintro rfl
      exact absurd hc (by decide)
    simpa using hne
  rw [hfront, hafter, ← List.append_assoc,
    strip_append_append (by simpa using hhyphen) (by simpa using hall)]
  by_cases hnil : words cs = []
  · rw [hnil]
    rfl
  · have hshape := hyphenated_intercalate hnil fun w => isWordChar_of_mem_words
    exact strip_eq_self (fun c hc => hends c (hshape.isWordChar_head? c hc))
      fun c hc => hends c (hshape.isWordChar_getLast? c hc)

end Docdown.Text
