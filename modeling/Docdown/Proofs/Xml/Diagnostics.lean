import Docdown.Failure
import Docdown.Proofs.Xml.Effects

/-!
# Docdown.Proofs.Xml.Diagnostics

What is reported of a text that is no document.  The first problem decides: more text
after it leaves the report as it is (`report_append`), unless the problem is one that
only the end of a text can have (`Fault.isFinal`).

Parsing stops at the first problem.  A reader that goes on after it and records all
problems reports the same: whatever a `Recovery` adds to the record, its head stays
(`head?_problems`).
-/

namespace Docdown.Xml

/-- Whether a fault can be found at the end of a text only. -/
def Fault.isFinal : Fault → Bool
  | .pieceTooLong _ | .unclosedRoot | .unfinishedMarkup | .noRoot => true
  | _ => false

/-! ## sections that are too long

One fault is found both inside a text and at its end: a section outside of every
element may not hold text, and an unfinished one is looked at once it is too long. -/

/-- What was read of an unfinished section. -/
def Mode.section? : Mode → Option (List Char)
  | .cdata body | .cdataBracket body | .cdataBrackets body => some body
  | _ => none

namespace Scanner

variable {s s' : Scanner} {c : Char}

/-- The scanner is outside of every element in a section that is too long and holds
more than blanks, and nothing else is too long. -/
structure Overflows (s : Scanner) : Prop where
  isInside : s.tree.isInside = false
  tooLong? : s.tooLong? = none
  body : ∃ body, s.mode.section? = some body ∧ pieceLimit < Text.unitLength body ∧
    body.all Text.isBlank = false

/-- In a section nothing but the document type can be too long besides. -/
theorem tooLong?_of_section? {m k : Mode} (hs : m.section?.isSome = true)
    (hm : k.section?.isSome = true) :
    (s.inMode m).tooLong? = (s.inMode k).tooLong? := by
  have hunfinished : ∀ {n : Mode}, n.section?.isSome = true → n.unfinished = [] := by
    intro n hn
    cases n <;> first | rfl | contradiction
  have hpiece : (s.inMode m).pieceLength = (s.inMode k).pieceLength := by
    funext p
    unfold pieceLength
    rw [mode_inMode, mode_inMode, hunfinished hs, hunfinished hm]
    rfl
  rw [Scanner.tooLong?, Scanner.tooLong?, hpiece]

/-- The text of a section that holds more than blanks is refused. -/
theorem emit_section {body : List Char} (hs : s.tree.isInside = false)
    (hbody : body.all Text.isBlank = false) :
    s.emit (.text (collected body)) = .error .sectionOutsideRoot := by
  have hfault : s.tree.fault? (.text (collected body)) = some .sectionOutsideRoot := by
    rw [Builder.fault?, hs, collected, String.toList_ofList, List.all_reverse, hbody]
    rfl
  rw [emit, Builder.accept, hfault]
  rfl

/-- No event but a text that holds more than blanks is refused for being text. -/
theorem isInside_of_emit_eq_error {body : List Char} {f : Fault}
    (h : s.emit (.text (collected body)) = .error f) :
    f = .sectionOutsideRoot ∧ s.tree.isInside = false ∧ body.all Text.isBlank = false := by
  cases hs : s.tree.isInside with
  | true => simp [emit, Builder.accept, Builder.fault?, hs, Except.map] at h
  | false =>
    cases hbody : body.all Text.isBlank with
    | true =>
      simp [emit, Builder.accept, Builder.fault?, hs, collected, hbody, Except.map] at h
    | false =>
      rw [emit_section hs hbody] at h
      exact ⟨(Except.error.inj h).symm, rfl, rfl⟩

theorem Mode.eq_of_section? {m : Mode} {body : List Char} (hs : m.section? = some body) :
    m = .cdata body ∨ m = .cdataBracket body ∨ m = .cdataBrackets body := by
  cases m <;> first | contradiction | (cases hs; simp)

theorem settleCdata_of_section? {body : List Char} (hs : s.mode.section? = some body) :
    s.settleCdata = if pieceLimit < Text.unitLength body then
      s.emit (.text (collected body)) else .ok s := by
  unfold settleCdata
  rcases Mode.eq_of_section? hs with hmode | hmode | hmode <;> rw [hmode]

theorem settleCdata_of_section?_eq_none (hs : s.mode.section? = none) : s.settleCdata = .ok s := by
  unfold settleCdata
  split
  · next hmode => rw [hmode] at hs; contradiction
  · next hmode => rw [hmode] at hs; contradiction
  · next hmode => rw [hmode] at hs; contradiction
  · rfl

/-- At the end of a text a section that is too long is refused. -/
theorem Overflows.finish (hs : s.Overflows) {n : Nat} (hn : pieceLimit ≤ n) :
    s.finish n = .error .sectionOutsideRoot := by
  obtain ⟨body, hsection, hlong, hblank⟩ := hs.body
  rw [Scanner.finish, checkLengths, if_neg (Nat.not_lt.2 hn), hs.tooLong?,
    settleCdata_of_section? hsection, if_pos hlong, emit_section hs.isInside hblank]

theorem isFinal_of_root_eq_error {f : Fault} (h : s.root = .error f) : f.isFinal = true := by
  unfold root at h
  split at h
  · cases h; rfl
  · split at h
    · cases h; rfl
    · split at h
      · contradiction
      · cases h; rfl

/-- A fault of another kind is found at the end only where a section is too long. -/
theorem overflows_of_finish {n : Nat} {f : Fault} (h : s.finish n = .error f)
    (hf : f.isFinal = false) :
    f = .sectionOutsideRoot ∧ pieceLimit ≤ n ∧ s.Overflows := by
  have hroot : ∀ {t : Scanner}, t.root ≠ .error f := by
    intro t ht
    rw [isFinal_of_root_eq_error ht] at hf
    contradiction
  unfold Scanner.finish checkLengths at h
  by_cases hn : n < pieceLimit
  · rw [if_pos hn] at h
    exact absurd h hroot
  · rw [if_neg hn] at h
    cases hlong : s.tooLong? with
    | some p =>
      rw [hlong] at h
      cases h
      contradiction
    | none =>
      rw [hlong] at h
      cases hsettle : s.settleCdata with
      | ok t => rw [hsettle] at h; exact absurd h hroot
      | error g =>
        rw [hsettle] at h
        cases h
        cases hsection : s.mode.section? with
        | none => rw [settleCdata_of_section?_eq_none hsection] at hsettle; contradiction
        | some body =>
          rw [settleCdata_of_section? hsection] at hsettle
          split at hsettle
          · next hbody =>
            obtain ⟨rfl, hinside, hblank⟩ := isInside_of_emit_eq_error hsettle
            exact ⟨rfl, Nat.not_lt.1 hn, hinside, hlong, body, hsection, hbody, hblank⟩
          · contradiction

/-- A section that is too long stays so with more text in it. -/
theorem Overflows.inMode (hs : s.Overflows) {m : Mode} {body : List Char} (more : List Char)
    (hbody : s.mode.section? = some body) (hm : m.section? = some (more ++ body)) :
    (s.inMode m).Overflows where
  isInside := hs.isInside
  tooLong? := by
    rw [← hs.tooLong?]
    exact tooLong?_of_section? (s := s) (k := s.mode) (by rw [hm]; rfl) (by rw [hbody]; rfl)
  body := by
    obtain ⟨body', hsection, hlong, hblank⟩ := hs.body
    rw [hbody] at hsection
    cases hsection
    have hlength := Text.unitLength_append more body
    exact ⟨more ++ body, hm, by omega, by rw [List.all_append, hblank, Bool.and_false]⟩

/-- It goes on, or it ends and is refused. -/
theorem Overflows.read (hs : s.Overflows) (c : Char) :
    (∃ s', s.read c = .ok s' ∧ s'.Overflows) ∨ s.read c = .error .sectionOutsideRoot := by
  obtain ⟨body, hsection, hlong, hblank⟩ := hs.body
  unfold Mode.section? at hsection
  split at hsection
  · next hmode =>
    cases hsection
    have hbody : s.mode.section? = some body := by rw [hmode]; rfl
    refine .inl ⟨_, by rw [Scanner.read, hmode], ?_⟩
    unfold readCdata
    split
    · exact hs.inMode [] hbody rfl
    · exact hs.inMode [c] hbody rfl
  · next hmode =>
    cases hsection
    have hbody : s.mode.section? = some body := by rw [hmode]; rfl
    refine .inl ⟨_, by rw [Scanner.read, hmode], ?_⟩
    unfold readCdataBracket
    split
    · exact hs.inMode [] hbody rfl
    · exact hs.inMode [c, ']'] hbody rfl
  · next hmode =>
    cases hsection
    have hbody : s.mode.section? = some body := by rw [hmode]; rfl
    have hread : s.read c = s.readCdataBrackets body c := by rw [Scanner.read, hmode]
    rw [hread]
    unfold readCdataBrackets
    split
    · right
      have hne : body.isEmpty = false := by
        rw [List.isEmpty_eq_false_iff]
        rintro rfl
        contradiction
      dsimp only
      rw [hne]
      exact emit_section (s := s.inMode .content) hs.isInside hblank
    · split
      · exact .inl ⟨_, rfl, hs.inMode [']'] hbody rfl⟩
      · exact .inl ⟨_, rfl, hs.inMode [c, ']', ']'] hbody rfl⟩
  · contradiction

/-- However the text goes on, the section is refused in the end. -/
theorem Overflows.readAll_finish (hs : s.Overflows) {n : Nat} (hn : pieceLimit ≤ n)
    (cs : List Char) : ((s.readAll cs).bind fun s => s.finish n) = .error .sectionOutsideRoot := by
  induction cs generalizing s with
  | nil => exact hs.finish hn
  | cons c cs ih =>
    rcases hs.read c with ⟨s', hread, hs'⟩ | hread
    · rw [readAll_cons_ok hread]
      exact ih hs'
    · rw [readAll_cons_error hread]
      rfl

end Scanner

/-! ## the first problem -/

/-- A problem met while reading is reported whatever comes after it. -/
theorem parse_append_of_readAll {t : String} {p : Problem}
    (h : ({} : Reader).readAll t.toList = .error p) (q : String) : parse (t ++ q) = .error p := by
  rw [parse, String.toList_append, Reader.readAll_append, h]
  rfl

/-- The report of a fault without a place is that of any problem with the same fault. -/
theorem Problem.report_congr {p p' : Problem} (hfault : p'.fault = p.fault)
    (hplace : p.fault.isPlaced = false) : p'.report = p.report := by
  rw [report, report, hfault, hplace]
  rfl

/-- More text leaves the report as it is. -/
theorem report_append {t : String} {p : Problem} (h : parse t = .error p)
    (hp : p.fault.isFinal = false) (q : String) :
    ∃ p', parse (t ++ q) = .error p' ∧ p'.fault = p.fault ∧ p'.report = p.report := by
  unfold parse at h
  cases hread : ({} : Reader).readAll t.toList with
  | error x =>
    rw [hread] at h
    cases h
    exact ⟨p, parse_append_of_readAll hread q, rfl, rfl⟩
  | ok r =>
    rw [hread] at h
    change r.finish _ = _ at h
    have hscanner : ({} : Scanner).readAll t.toList = .ok r.scanner := by
      have hfault := Reader.fault_readAll {} t.toList
      rw [hread] at hfault
      exact hfault.symm
    have hfinish : r.scanner.finish (Text.unitLength t.toList) = .error p.fault := by
      unfold Reader.finish at h
      split at h
      · contradiction
      · next hf => cases h; exact hf
    obtain ⟨hfault, hlength, hs⟩ := Scanner.overflows_of_finish hfinish hp
    have hmore : (parse (t ++ q)).mapError Problem.fault = .error .sectionOutsideRoot := by
      have hsum := Text.unitLength_append t.toList q.toList
      rw [fault_parse, String.toList_append, Scanner.readAll_append, hscanner]
      exact hs.readAll_finish (by omega) q.toList
    cases hparse : parse (t ++ q) with
    | ok e => rw [hparse] at hmore; contradiction
    | error p' =>
      rw [hparse] at hmore
      have hfault' : p'.fault = p.fault := (Except.error.inj hmore).trans hfault.symm
      exact ⟨p', rfl, hfault', Problem.report_congr hfault' (by rw [hfault]; rfl)⟩

/-! ## reading on after a problem -/

/-- How a reader goes on once something was wrong: the states it can be in then, and
the further problems that it finds.  Nothing is assumed of them. -/
structure Recovery where
  State : Type
  /-- At the character with the first problem. -/
  resume : Reader → Char → State × List Problem
  read : State → Char → State × List Problem
  finish : State → List Problem
  /-- At the end of a text that has its first problem there. -/
  finishSound : Reader → List Problem

namespace Recovery

variable {R : Recovery}

/-- The problems recorded so far, oldest first, and what goes on reading. -/
structure Record (R : Recovery) where
  problems : List Problem := []
  reader : Reader ⊕ R.State := .inl {}

namespace Record

/-- The record after one more character. -/
def read (d : R.Record) (c : Char) : R.Record :=
  match d.reader with
  | .inl r => match r.read c with
    | .ok r => { d with reader := .inl r }
    | .error p => ⟨d.problems ++ p :: (R.resume r c).2, .inr (R.resume r c).1⟩
  | .inr s => ⟨d.problems ++ (R.read s c).2, .inr (R.read s c).1⟩

/-- All problems of a text of the given length in units that ends here. -/
def finish (d : R.Record) (length : Nat) : List Problem :=
  match d.reader with
  | .inl r => match r.finish length with
    | .ok _ => d.problems
    | .error p => d.problems ++ p :: R.finishSound r
  | .inr s => d.problems ++ R.finish s

/-- What is recorded stays recorded. -/
theorem problems_prefix_read (d : R.Record) (c : Char) :
    d.problems <+: (d.read c).problems := by
  unfold read
  split
  · split
    · exact List.prefix_rfl
    · exact List.prefix_append _ _
  · exact List.prefix_append _ _

theorem problems_prefix_finish (d : R.Record) (length : Nat) :
    d.problems <+: d.finish length := by
  unfold finish
  split
  · split
    · exact List.prefix_rfl
    · exact List.prefix_append _ _
  · exact List.prefix_append _ _

theorem problems_prefix_foldl (d : R.Record) (cs : List Char) :
    d.problems <+: (cs.foldl read d).problems := by
  induction cs generalizing d with
  | nil => exact List.prefix_rfl
  | cons c cs ih => exact (d.problems_prefix_read c).trans (ih _)

/-- While there is no problem nothing is recorded. -/
theorem foldl_of_readAll_ok {r r' : Reader} {cs : List Char} (h : r.readAll cs = .ok r') :
    cs.foldl read (⟨[], .inl r⟩ : R.Record) = ⟨[], .inl r'⟩ := by
  induction cs generalizing r with
  | nil => cases h; rfl
  | cons c cs ih =>
    rw [Reader.readAll, List.foldlM_cons] at h
    cases hc : r.read c with
    | error p => rw [hc] at h; contradiction
    | ok r₁ =>
      rw [hc] at h
      have hread : (⟨[], .inl r⟩ : R.Record).read c = ⟨[], .inl r₁⟩ := by simp [read, hc]
      rw [List.foldl_cons, hread]
      exact ih h

/-- The first problem is recorded first. -/
theorem head?_foldl_of_readAll_error {r : Reader} {cs : List Char} {p : Problem}
    (h : r.readAll cs = .error p) :
    [p] <+: (cs.foldl read (⟨[], .inl r⟩ : R.Record)).problems := by
  induction cs generalizing r with
  | nil => cases h
  | cons c cs ih =>
    rw [Reader.readAll, List.foldlM_cons] at h
    rw [List.foldl_cons]
    cases hc : r.read c with
    | ok r₁ =>
      rw [hc] at h
      have hread : (⟨[], .inl r⟩ : R.Record).read c = ⟨[], .inl r₁⟩ := by simp [read, hc]
      rw [hread]
      exact ih h
    | error p' =>
      rw [hc] at h
      cases h
      have hread : [p] <+: ((⟨[], .inl r⟩ : R.Record).read c).problems := by simp [read, hc]
      exact hread.trans (problems_prefix_foldl _ cs)

end Record

/-- All problems of a text, those after the first one included. -/
def problems (R : Recovery) (text : String) : List Problem :=
  (text.toList.foldl Record.read ({} : R.Record)).finish (Text.unitLength text.toList)

/-- The problem recorded first is the one that parsing reports. -/
theorem head?_problems {t : String} {p : Problem} (R : Recovery) (h : parse t = .error p) :
    (R.problems t).head? = some p := by
  have hhead : ∀ {ps : List Problem}, [p] <+: ps → ps.head? = some p := by
    rintro ps ⟨more, rfl⟩
    rfl
  unfold Xml.parse at h
  cases hread : ({} : Reader).readAll t.toList with
  | error p' =>
    rw [hread] at h
    cases h
    exact hhead ((Record.head?_foldl_of_readAll_error hread).trans
      (Record.problems_prefix_finish _ _))
  | ok r =>
    rw [hread] at h
    change r.finish _ = _ at h
    rw [problems, Record.foldl_of_readAll_ok hread, Record.finish]
    simp [h]

end Recovery

/-! ## the report on one line -/

/-- Blanks for line feeds are the lines with blanks between them. -/
theorem map_blank_eq_intercalate (cs : List Char) :
    cs.map (fun c => if c = '\n' then ' ' else c) = [' '].intercalate (cs.splitOn '\n') := by
  induction cs with
  | nil => rfl
  | cons c cs ih =>
    rw [List.map_cons, ih, List.splitOn_cons_eq_if_modifyHead]
    obtain ⟨line, lines, hlines⟩ := List.exists_cons_of_ne_nil (List.splitOn_ne_nil '\n' cs)
    rw [hlines]
    by_cases hc : c = '\n'
    · simp [hc]
    · simp [hc, List.intercalate_cons_cons_left]

/-- The lines of a text. -/
def lines (s : String) : List String := (s.toList.splitOn '\n').map String.ofList

theorem Problem.diagnostic_eq_intercalate (p : Problem) :
    p.diagnostic = " ".intercalate (lines (Text.trim p.report)) := by
  have hlines : (lines (Text.trim p.report)).map String.toList =
      (Text.trim p.report).toList.splitOn '\n' := by
    simp [lines, Function.comp_def]
  rw [← String.toList_inj, diagnostic, String.toList_ofList, map_blank_eq_intercalate,
    String.toList_intercalate, hlines]
  rfl

theorem Problem.not_mem_diagnostic (p : Problem) : '\n' ∉ p.diagnostic.toList := by
  rw [diagnostic, String.toList_ofList, List.mem_map]
  rintro ⟨c, -, hc⟩
  split at hc
  · contradiction
  · contradiction

/-- **The diagnostic is decided by the first problem.**  Unless only the end of the
text can have it, more text leaves its message and its cause as they are.  The message
is the cause, trimmed and with blanks for line feeds, so it is a single line.  Whatever
comes up where reading goes on after the problem does not take its place. -/
theorem parse_append_of_error {t : String} {p : Problem} (h : parse t = .error p) :
    (p.fault.isFinal = false → ∀ q, ∃ p', parse (t ++ q) = .error p' ∧
      Failure.ofProblem p' = Failure.ofProblem p) ∧
    (∀ cause, p.cause? = some cause →
      (Failure.ofProblem p).message =
        "Input is not valid XML Doxygen output: " ++ " ".intercalate (lines (Text.trim cause)) ∧
      '\n' ∉ (Failure.ofProblem p).message.toList) ∧
    ∀ R : Recovery, (R.problems t).head? = some p := by
  refine ⟨fun hp q => ?_, fun cause hcause => ?_, fun R => R.head?_problems h⟩
  · obtain ⟨p', hparse, hfault, hreport⟩ := report_append h hp q
    refine ⟨p', hparse, ?_⟩
    rw [Failure.ofProblem, Failure.ofProblem, Problem.diagnostic, Problem.cause?, hfault, hreport]
    rfl
  · have hreport : p.report = cause := by
      unfold Problem.cause? at hcause
      split at hcause
      · contradiction
      · exact Option.some.inj hcause
    have hmessage : (Failure.ofProblem p).message =
        "Input is not valid XML Doxygen output: " ++ p.diagnostic := rfl
    refine ⟨by rw [hmessage, p.diagnostic_eq_intercalate, hreport], ?_⟩
    rw [hmessage, String.toList_append, List.mem_append, not_or]
    exact ⟨by decide, p.not_mem_diagnostic⟩

/-- Text after the root element is reported with its place, whatever comes next. -/
theorem parse_append_of_error_text :
    parse "<a/>\nx" = .error ⟨.textOutsideRoot, ⟨1, 1⟩, some 'x'⟩ ∧
      ∃ p, parse ("<a/>\nx" ++ "</b>") = .error p ∧ (Failure.ofProblem p).message =
        "Input is not valid XML Doxygen output: " ++
          "Text data outside of root node. Line: 1 Column: 1 Char: x" := by
  have hproblem : parse "<a/>\nx" = .error ⟨.textOutsideRoot, ⟨1, 1⟩, some 'x'⟩ := by rfl
  obtain ⟨hmore, hmessage, -⟩ := parse_append_of_error hproblem
  obtain ⟨p, hparse, hp⟩ := hmore rfl "</b>"
  obtain ⟨htext, -⟩ := hmessage _ rfl
  exact ⟨hproblem, p, hparse, by rw [hp, htext]; decide +kernel⟩

end Docdown.Xml
