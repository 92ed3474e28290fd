import Docdown.Xml.Parse

/-!
# Docdown.Proofs.Xml.Scanning

A scanner reading a whole text, and what that says about parsing.
`Scanner.readAll` leaves places out; `parse_eq_ok_iff` and `exists_parse_eq_error`
bring its results back to `parse`.

At the end of a text a root element comes out exactly when the tree is complete,
the scanner is at rest and nothing left unfinished is too long
(`finish_eq_ok_iff`).
-/

namespace Docdown.Xml

namespace Scanner

/-! ## reading a text -/

/-- The scanner after a text, or the first fault in it. -/
def readAll (s : Scanner) : List Char → Except Fault Scanner
  | [] => .ok s
  | c :: cs => (s.read c).bind fun s => s.readAll cs

@[simp] theorem readAll_nil (s : Scanner) : s.readAll [] = .ok s := rfl

theorem readAll_cons_ok {s s' : Scanner} {c : Char} (h : s.read c = .ok s') (cs : List Char) :
    s.readAll (c :: cs) = s'.readAll cs := by
  rw [readAll, h]
  rfl

theorem readAll_cons_error {s : Scanner} {c : Char} {f : Fault} (h : s.read c = .error f)
    (cs : List Char) : s.readAll (c :: cs) = .error f := by
  rw [readAll, h]
  rfl

theorem readAll_append (s : Scanner) (cs ds : List Char) :
    s.readAll (cs ++ ds) = (s.readAll cs).bind fun s => s.readAll ds := by
  induction cs generalizing s with
  | nil => rfl
  | cons c cs ih =>
    cases h : s.read c with
    | error f => rw [List.cons_append, readAll_cons_error h, readAll_cons_error h]; rfl
    | ok s' => rw [List.cons_append, readAll_cons_ok h, readAll_cons_ok h, ih]

/-- What a step keeps a whole text keeps. -/
theorem readAll_induction {P : Scanner → Prop} {s s' : Scanner} {cs : List Char}
    (hstep : ∀ {t t' : Scanner} {c : Char}, P t → t.read c = .ok t' → P t')
    (hs : P s) (h : s.readAll cs = .ok s') : P s' := by
  induction cs generalizing s with
  | nil => cases h; exact hs
  | cons c cs ih =>
    cases hc : s.read c with
    | error f => rw [readAll_cons_error hc] at h; contradiction
    | ok t => rw [readAll_cons_ok hc] at h; exact ih (hstep hs hc) h

/-! ## the end of a text -/

theorem root_eq_ok_iff {s : Scanner} {e : Element} :
    s.root = .ok e ↔ s.tree.frames = [] ∧ s.mode.isResting = true ∧ s.tree.root? = some e := by
  unfold root Builder.isInside
  cases hf : s.tree.frames with
  | cons f fs => simp
  | nil =>
    cases hm : s.mode.isResting with
    | false => simp
    | true => cases hr : s.tree.root? <;> simp

/-- At rest no CDATA section is unfinished. -/
theorem settleCdata_of_isResting {s : Scanner} (h : s.mode.isResting = true) :
    s.settleCdata = .ok s := by
  unfold settleCdata
  split <;> simp_all [Mode.isResting]

/-- Settling an unfinished section leaves the mode. -/
theorem mode_of_settleCdata {s s' : Scanner} (h : s.settleCdata = .ok s') :
    s'.mode = s.mode := by
  have hemit : ∀ {e : Event}, s.emit e = .ok s' → s'.mode = s.mode := by
    intro e he
    unfold emit at he
    cases ha : s.tree.accept e with
    | error f => rw [ha] at he; contradiction
    | ok b => rw [ha] at he; cases he; rfl
  unfold settleCdata at h
  split at h
  · split at h
    · exact hemit h
    · cases h; rfl
  · split at h
    · exact hemit h
    · cases h; rfl
  · split at h
    · exact hemit h
    · cases h; rfl
  · cases h; rfl

/-- A text gives a root element exactly when the tree is complete, the scanner is
at rest and nothing unfinished is too long. -/
theorem finish_eq_ok_iff {s : Scanner} {n : Nat} {e : Element} :
    s.finish n = .ok e ↔ (n < pieceLimit ∨ s.tooLong? = none) ∧
      s.tree.frames = [] ∧ s.mode.isResting = true ∧ s.tree.root? = some e := by
  unfold finish checkLengths
  by_cases hn : n < pieceLimit
  · simp only [hn, if_true, true_or, true_and, root_eq_ok_iff]
  · simp only [hn, if_false, false_or]
    cases ht : s.tooLong? with
    | some p => simp
    | none =>
      by_cases hm : s.mode.isResting = true
      · simp only [settleCdata_of_isResting hm, root_eq_ok_iff, true_and]
      · cases hs : s.settleCdata with
        | error f => simp [hm]
        | ok t =>
          have hmode : t.mode = s.mode := mode_of_settleCdata hs
          simp only [root_eq_ok_iff, hmode, hm]
          simp

end Scanner

/-! ## parsing -/

/-- Reading with places and reading without them agree on the scanner. -/
theorem Reader.fault_readAll (r : Reader) (cs : List Char) :
    ((r.readAll cs).map Reader.scanner).mapError Problem.fault = r.scanner.readAll cs := by
  induction cs generalizing r with
  | nil => rfl
  | cons c cs ih =>
    cases h : r.scanner.read c with
    | error f =>
      have hr : r.read c = .error ⟨f, r.place.meet c, some c⟩ := by rw [Reader.read, h]
      rw [Scanner.readAll_cons_error h, Reader.readAll, List.foldlM_cons, hr]
      rfl
    | ok s =>
      have hr : r.read c = .ok ⟨r.place.pass c, s⟩ := by rw [Reader.read, h]
      rw [Scanner.readAll_cons_ok h, Reader.readAll, List.foldlM_cons, hr]
      exact ih ⟨r.place.pass c, s⟩

/-- Parsing is reading from the start and finishing, but for the places of
problems. -/
theorem fault_parse (text : String) :
    (parse text).mapError Problem.fault = (({} : Scanner).readAll text.toList).bind
      fun s => s.finish (Text.unitLength text.toList) := by
  have hread : (((({} : Reader).readAll text.toList).map Reader.scanner).mapError
      Problem.fault) = ({} : Scanner).readAll text.toList := Reader.fault_readAll {} _
  rw [← hread, parse]
  cases ({} : Reader).readAll text.toList with
  | error p => rfl
  | ok r =>
    show (r.finish (Text.unitLength text.toList)).mapError Problem.fault = r.scanner.finish _
    rw [Reader.finish]
    cases r.scanner.finish (Text.unitLength text.toList) <;> rfl

theorem parse_eq_ok_iff {text : String} {e : Element} :
    parse text = .ok e ↔ ∃ s, ({} : Scanner).readAll text.toList = .ok s ∧
      s.finish (Text.unitLength text.toList) = .ok e := by
  have h := fault_parse text
  cases hr : ({} : Scanner).readAll text.toList with
  | error f =>
    rw [hr] at h
    cases hp : parse text with
    | error p => simp
    | ok e' => rw [hp] at h; contradiction
  | ok s =>
    rw [hr] at h
    change _ = s.finish _ at h
    cases hp : parse text with
    | error p =>
      rw [hp] at h
      change .error p.fault = s.finish _ at h
      simp [← h]
    | ok e' =>
      rw [hp] at h
      change .ok e' = s.finish _ at h
      simp [← h]

/-- A fault met while reading is that of the problem that parsing reports. -/
theorem exists_parse_eq_error {text : String} {f : Fault}
    (h : ({} : Scanner).readAll text.toList = .error f) :
    ∃ p, parse text = .error p ∧ p.fault = f := by
  have hf := fault_parse text
  rw [h] at hf
  cases hp : parse text with
  | ok e => rw [hp] at hf; contradiction
  | error p =>
    rw [hp] at hf
    exact ⟨p, rfl, Except.error.inj hf⟩

end Docdown.Xml
