import Docdown.Proofs.Xml.Reading.Tags

/-!
# Docdown.Proofs.Xml.Reading.Asides

What a scanner makes of comments, processing instructions and CDATA sections,
outside of a document type.

Where several characters end a piece, the mode inside it is a function of what
was read so far (`commentMode`, `cdataMode`): a character that does not complete
the end takes the mode of what precedes it to the mode of what it ends.
-/

namespace Docdown.Xml.Scanner

open Spelling

/-- A family of modes that takes every character but one that completes `w` takes
every text in which there is no `w`. -/
theorem readAll_avoiding {s : Scanner} {k : List Char → Mode} {w : List Char}
    (hk : ∀ c cs, ¬ w <:+: cs.reverse ++ [c] →
      (s.inMode (k cs)).read c = .ok (s.inMode (k (c :: cs))))
    (ds cs rest : List Char) (hw : ¬ w <:+: cs.reverse ++ ds) :
    (s.inMode (k cs)).readAll (ds ++ rest) = (s.inMode (k (ds.reverse ++ cs))).readAll rest := by
  induction ds generalizing cs with
  | nil => rfl
  | cons d ds ih =>
    have hd : ¬ w <:+: cs.reverse ++ [d] := by
      intro h
      have hpre : cs.reverse ++ [d] <+: cs.reverse ++ d :: ds :=
        ⟨ds, by rw [List.append_assoc, List.singleton_append]⟩
      exact hw (h.trans hpre.isInfix)
    have hds : ¬ w <:+: (d :: cs).reverse ++ ds := by
      rw [List.reverse_cons, ← List.append_cons]
      exact hw
    rw [List.cons_append, readAll_cons_ok (hk d cs hd), ih (d :: cs) hds, List.reverse_cons,
      List.append_assoc, List.singleton_append]

/-! ## declarations -/

theorem read_markup_bang (s : Scanner) :
    (s.inMode .markup).read '!' = .ok (s.inMode (.declaration [])) := by
  have hs : isSpace '!' = false := by decide
  simp [read, readMarkup, hs]

/-- A character that decides nothing is added to a declaration. -/
theorem read_declaration {s : Scanner} (hs : s.doctype.isOpen = false) {text : List Char}
    {c : Char} (hdash : ¬ (text = ['-'] ∧ c = '-'))
    (hcdata : spells "[CDATA[" (c :: text) = false)
    (hdoctype : spells "DOCTYPE" (c :: text) = false) (hgt : c ≠ '>')
    (hquote : isQuote c = false) :
    (s.inMode (.declaration text)).read c = .ok (s.inMode (.declaration (c :: text))) := by
  simp [read, readDeclaration, hs, hdash, hcdata, hdoctype, hgt, hquote]

/-! ## comments -/

/-- The mode in a comment after some of it, newest first. -/
def commentMode : List Char → Mode
  | '-' :: cs => .commentHyphen cs
  | cs => .comment cs

theorem commentMode_of_head? {cs : List Char} (h : cs.head? ≠ some '-') :
    commentMode cs = .comment cs := by
  unfold commentMode
  split
  · simp at h
  · rfl

theorem read_commentMode (s : Scanner) (c : Char) (cs : List Char)
    (h : ¬ ['-', '-'] <:+: cs.reverse ++ [c]) :
    (s.inMode (commentMode cs)).read c = .ok (s.inMode (commentMode (c :: cs))) := by
  by_cases hhead : cs.head? = some '-'
  · obtain ⟨ds, rfl⟩ := List.head?_eq_some_iff.1 hhead
    have hc : c ≠ '-' := by
      rintro rfl
      exact h ⟨ds.reverse, [], by simp⟩
    have hnext : commentMode (c :: '-' :: ds) = .comment (c :: '-' :: ds) :=
      commentMode_of_head? (by simpa using hc)
    rw [hnext]
    simp [commentMode, read, readCommentHyphen, hc]
  · rw [commentMode_of_head? hhead]
    by_cases hc : c = '-'
    · simp [read, readComment, commentMode, hc]
    · have hnext : commentMode (c :: cs) = .comment (c :: cs) :=
        commentMode_of_head? (by simpa using hc)
      simp [read, readComment, hc, hnext]

theorem read_commentEnd {s : Scanner} (hs : s.doctype.isOpen = false) :
    (s.inMode .commentEnd).read '>' = .ok (s.inMode .content) := by
  simp [read, readCommentEnd, afterComment, hs]

/-- A comment separates the text around it unless it is empty. -/
theorem readAll_comment {s : Scanner} (hs : s.doctype.isOpen = false) (lead : Blanks)
    {body : List Char} (hbody : ¬ ['-', '-'] <:+: body) (hlast : body.getLast? ≠ some '-')
    (rest : List Char) :
    (s.inMode .markup).readAll (lead.chars ++
        '!' :: '-' :: '-' :: (body ++ '-' :: '-' :: '>' :: rest)) =
      ((if body.isEmpty then s else s.flush).inMode .content).readAll rest := by
  have hdash : (s.inMode (.declaration [])).read '-' = .ok (s.inMode (.declaration ['-'])) :=
    read_declaration hs (by decide) (by decide) (by decide) (by decide) (by decide)
  have hopen : (s.inMode (.declaration ['-'])).read '-' = .ok (s.inMode (commentMode [])) := by
    simp [read, readDeclaration, commentMode]
  have hend : commentMode body.reverse = .comment body.reverse :=
    commentMode_of_head? (by rwa [List.head?_reverse])
  have hfirst : (s.inMode (.comment body.reverse)).read '-' =
      .ok (s.inMode (.commentHyphen body.reverse)) := by
    simp [read, readComment]
  have hsecond : (s.inMode (.commentHyphen body.reverse)).read '-' =
      .ok ((if body.isEmpty then s else s.flush).inMode .commentEnd) := by
    cases hb : body.isEmpty <;> simp [read, readCommentHyphen, hb, flush_inMode]
  have hafter : (if body.isEmpty then s else s.flush).doctype.isOpen = false := by
    split
    · exact hs
    · rw [doctype_flush]; exact hs
  rw [readAll_blanks s.read_markup_of_isSpace lead, readAll_cons_ok s.read_markup_bang,
    readAll_cons_ok hdash, readAll_cons_ok hopen,
    readAll_avoiding s.read_commentMode body [] _ (by simpa using hbody), List.append_nil, hend,
    readAll_cons_ok hfirst, readAll_cons_ok hsecond, readAll_cons_ok (read_commentEnd hafter)]

/-! ## processing instructions -/

/-- A mode inside a processing instruction. -/
def IsInstruction (m : Mode) : Prop :=
  (∃ name, m = .instructionName name) ∨ ∃ name body, m = .instructionBody name body

/-- What is no question mark stays inside an instruction. -/
theorem exists_readAll_instruction (s : Scanner) (body rest : List Char) (hbody : '?' ∉ body)
    {m : Mode} (hm : IsInstruction m) :
    ∃ m', IsInstruction m' ∧
      (s.inMode m).readAll (body ++ rest) = (s.inMode m').readAll rest := by
  induction body generalizing m with
  | nil => exact ⟨m, hm, rfl⟩
  | cons c cs ih =>
    have hc : c ≠ '?' := by rintro rfl; exact hbody List.mem_cons_self
    have hcs : '?' ∉ cs := fun h => hbody (List.mem_cons_of_mem c h)
    have hstep : ∃ m', IsInstruction m' ∧ (s.inMode m).read c = .ok (s.inMode m') := by
      rcases hm with ⟨name, rfl⟩ | ⟨name, body, rfl⟩
      · by_cases hsp : isSpace c = true
        · exact ⟨.instructionBody name [], Or.inr ⟨name, [], rfl⟩,
            by simp [read, readInstructionName, hc, hsp]⟩
        · exact ⟨.instructionName (c :: name), Or.inl ⟨c :: name, rfl⟩,
            by simp [read, readInstructionName, hc, hsp]⟩
      · by_cases hsp : (body.isEmpty && isSpace c) = true
        · exact ⟨.instructionBody name body, Or.inr ⟨name, body, rfl⟩,
            by rw [read]; simp only [mode_inMode, readInstructionBody]; rw [if_pos hsp]⟩
        · exact ⟨.instructionBody name (c :: body), Or.inr ⟨name, c :: body, rfl⟩,
            by rw [read]; simp only [mode_inMode, readInstructionBody]
               rw [if_neg hsp, if_neg hc]; rfl⟩
    obtain ⟨m', hm', hread⟩ := hstep
    rw [List.cons_append, readAll_cons_ok hread]
    exact ih hcs hm'

/-- A processing instruction separates the text around it. -/
theorem readAll_instruction (s : Scanner) (lead : Blanks) {body : List Char}
    (hbody : '?' ∉ body) (rest : List Char) :
    (s.inMode .markup).readAll (lead.chars ++ '?' :: (body ++ '?' :: '>' :: rest)) =
      (s.flush.inMode .content).readAll rest := by
  have hopen : (s.inMode .markup).read '?' = .ok (s.inMode (.instructionName [])) := by
    have hs : isSpace '?' = false := by decide
    simp [read, readMarkup, hs]
  obtain ⟨m, hm, hread⟩ := exists_readAll_instruction s body ('?' :: '>' :: rest) hbody
    (m := .instructionName []) (Or.inl ⟨[], rfl⟩)
  have hmark : ∃ name body, (s.inMode m).read '?' = .ok (s.inMode (.instructionEnd name body)) := by
    have hs : isSpace '?' = false := by decide
    rcases hm with ⟨name, rfl⟩ | ⟨name, body, rfl⟩
    · exact ⟨name, [], by simp [read, readInstructionName]⟩
    · exact ⟨name, body, by simp [read, readInstructionBody, hs]⟩
  obtain ⟨name, body', hmark⟩ := hmark
  have hclose : (s.inMode (.instructionEnd name body')).read '>' =
      .ok (s.flush.inMode .content) := by
    simp [read, readInstructionEnd, flush_inMode]
  rw [readAll_blanks s.read_markup_of_isSpace lead, readAll_cons_ok hopen, hread,
    readAll_cons_ok hmark, readAll_cons_ok hclose]

/-! ## CDATA sections -/

/-- The mode in a CDATA section after some of it, newest first. -/
def cdataMode : List Char → Mode
  | ']' :: ']' :: cs => .cdataBrackets cs
  | ']' :: cs => .cdataBracket cs
  | cs => .cdata cs

theorem cdataMode_bracket {cs : List Char} (h : cs.head? ≠ some ']') :
    cdataMode (']' :: cs) = .cdataBracket cs := by
  cases cs with
  | nil => rfl
  | cons d ds =>
    have hd : d ≠ ']' := by simpa using h
    simp [cdataMode, hd]

theorem cdataMode_of_head? {cs : List Char} (h : cs.head? ≠ some ']') :
    cdataMode cs = .cdata cs := by
  cases cs with
  | nil => rfl
  | cons d ds =>
    have hd : d ≠ ']' := by simpa using h
    simp [cdataMode, hd]

/-- A bracket stays in the section. -/
theorem read_cdataMode_bracket (s : Scanner) (cs : List Char) :
    (s.inMode (cdataMode cs)).read ']' = .ok (s.inMode (cdataMode (']' :: cs))) := by
  by_cases hhead : cs.head? = some ']'
  · obtain ⟨ds, rfl⟩ := List.head?_eq_some_iff.1 hhead
    by_cases hnext : ds.head? = some ']'
    · obtain ⟨es, rfl⟩ := List.head?_eq_some_iff.1 hnext
      simp [cdataMode, read, readCdataBrackets]
    · rw [cdataMode_bracket hnext]
      simp [cdataMode, read, readCdataBracket]
  · rw [cdataMode_of_head? hhead, cdataMode_bracket hhead]
    simp [read, readCdata]

/-- Every character stays in the section but a `>` after two brackets. -/
theorem read_cdataMode (s : Scanner) (c : Char) (cs : List Char)
    (h : ¬ [']', ']', '>'] <:+: cs.reverse ++ [c]) :
    (s.inMode (cdataMode cs)).read c = .ok (s.inMode (cdataMode (c :: cs))) := by
  by_cases hc : c = ']'
  · rw [hc]
    exact s.read_cdataMode_bracket cs
  · have hother : cdataMode (c :: cs) = .cdata (c :: cs) :=
      cdataMode_of_head? (by simpa using hc)
    rw [hother]
    by_cases hhead : cs.head? = some ']'
    · obtain ⟨ds, rfl⟩ := List.head?_eq_some_iff.1 hhead
      by_cases hnext : ds.head? = some ']'
      · obtain ⟨es, rfl⟩ := List.head?_eq_some_iff.1 hnext
        have hgt : c ≠ '>' := by
          rintro rfl
          exact h ⟨es.reverse, [], by simp⟩
        simp [cdataMode, read, readCdataBrackets, hc, hgt]
      · rw [cdataMode_bracket hnext]
        simp [read, readCdataBracket, hc]
    · rw [cdataMode_of_head? hhead]
      simp [read, readCdata, hc]

/-- The words that open a section end the text before it. -/
theorem readAll_cdataStart {s : Scanner} (hs : s.doctype.isOpen = false) (rest : List Char) :
    (s.inMode (.declaration [])).readAll ("[CDATA[".toList ++ rest) =
      (s.flush.inMode (cdataMode [])).readAll rest := by
  have hlast : (s.inMode (.declaration "ATADC[".toList)).read '[' =
      .ok (s.flush.inMode (cdataMode [])) := by
    have hword : spells "[CDATA[" ('[' :: "ATADC[".toList) = true := by decide
    have hdash : ¬ ("ATADC[".toList = ['-'] ∧ '[' = '-') := by decide
    simp only [read, mode_inMode, readDeclaration, if_neg hdash, doctype_inMode, hs,
      Bool.false_and, Bool.false_eq_true, if_false, hword, if_true, flush_inMode, inMode_inMode,
      cdataMode]
  show (s.inMode (.declaration [])).readAll
    ('[' :: 'C' :: 'D' :: 'A' :: 'T' :: 'A' :: '[' :: rest) = _
  iterate 6
    rw [readAll_cons_ok (read_declaration hs (by decide) (by decide) (by decide) (by decide)
      (by decide))]
  exact readAll_cons_ok hlast rest

/-- A section is a run of its own, unless it is empty. -/
theorem readAll_cdata {s s' : Scanner} (hs : s.doctype.isOpen = false) (lead : Blanks)
    {body : List Char} (hbody : ¬ [']', ']', '>'] <:+: body)
    (hs' : (if body.isEmpty then .ok (s.flush.inMode .content)
      else (s.flush.inMode .content).emit (.text (String.ofList body))) = .ok s')
    (rest : List Char) :
    (s.inMode .markup).readAll (lead.chars ++ '!' ::
        ("[CDATA[".toList ++ (body ++ ']' :: ']' :: '>' :: rest))) = s'.readAll rest := by
  have hclose : (s.flush.inMode (cdataMode (']' :: ']' :: body.reverse))).read '>' = .ok s' := by
    cases hb : body.isEmpty with
    | true => simp_all [cdataMode, read, readCdataBrackets]
    | false => simp_all [cdataMode, read, readCdataBrackets, collected]
  rw [readAll_blanks s.read_markup_of_isSpace lead, readAll_cons_ok s.read_markup_bang,
    readAll_cdataStart hs,
    readAll_avoiding s.flush.read_cdataMode body [] _ (by simpa using hbody), List.append_nil,
    readAll_cons_ok (s.flush.read_cdataMode_bracket _),
    readAll_cons_ok (s.flush.read_cdataMode_bracket _), readAll_cons_ok hclose]

end Docdown.Xml.Scanner
