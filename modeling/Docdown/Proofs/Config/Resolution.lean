import Docdown.Failure
import Mathlib.Data.List.Basic

/-!
# Docdown.Proofs.Config.Resolution

Which settings options come to.  What is wrong with options is a matter of the values given
(`Offends`), and the environment has no part in it: a variable only takes the place of an
option that counts as none, and a text that it gives is never empty.  If nothing is wrong
each setting is worth the option, else the variable, else the default (`Settles`).

Settings that were resolved once stay as they are, whatever the environment is
(`resolve_toOptions_settings`).
-/

namespace Docdown.Config

/-! ## what is said of options -/

/-- What is wrong with options.  An input that is given has to be a text and not empty, an
output directory or a pattern that does not count as none has to be a text, and a flag that
is not null has to be one. -/
inductive Offends (o : Options) : Issue → Prop
  | emptyInput : o.input? = some (.string "") → Offends o ⟨"input", .emptyText⟩
  | input {v : Value} : o.input? = some v → v.kind ≠ .string →
    Offends o ⟨"input", .wrongType .string v.kind⟩
  | outDir {v : Value} : o.outDir? = some v → v.isVoid = false → v.kind ≠ .string →
    Offends o ⟨"outDir", .wrongType .string v.kind⟩
  | pattern {v : Value} : o.pattern? = some v → v.isVoid = false → v.kind ≠ .string →
    Offends o ⟨"pattern", .wrongType .string v.kind⟩
  | verbose {v : Value} : o.verbose? = some v → v ≠ .null → v.kind ≠ .boolean →
    Offends o ⟨"verbose", .wrongType .boolean v.kind⟩

/-- What a text is worth for which a value may be given and a variable may be set. -/
inductive TextWorth (given? : Option Value) (set? : Option String) (default : String) :
    String → Prop
  | given {s : String} : given? = some (.string s) → s ≠ "" → TextWorth given? set? default s
  | set {s : String} : (∀ v ∈ given?, v.isVoid = true) → set? = some s → s ≠ "" →
    TextWorth given? set? default s
  | default : (∀ v ∈ given?, v.isVoid = true) → (∀ s ∈ set?, s = "") →
    TextWorth given? set? default default

/-- What a flag is worth for which a value may be given and a variable may be set. -/
inductive FlagWorth (given? : Option Value) (set? : Option String) : Bool → Prop
  | given {b : Bool} : given? = some (.bool b) → FlagWorth given? set? b
  | set : (∀ v ∈ given?, v = .null) →
    FlagWorth given? set? (decide (set? = some "true" ∨ set? = some "1"))

/-- The settings that options and an environment amount to. -/
structure Settles (o : Options) (env : Environment) (s : Settings) : Prop where
  input? : s.input?.map .string = o.input?
  outDir : TextWorth o.outDir? (env.lookup "DOXYGEN_MD_OUTDIR") "./doxygen_md_output" s.outDir
  pattern : TextWorth o.pattern? (env.lookup "DOXYGEN_MD_PATTERN") "*.xml" s.pattern
  verbose : FlagWorth o.verbose? (env.lookup "DOXYGEN_MD_VERBOSE") s.verbose

/-- Settings given as options. -/
def Settings.toOptions (s : Settings) : Options where
  input? := s.input?.map .string
  outDir? := some (.string s.outDir)
  pattern? := some (.string s.pattern)
  verbose? := some (.bool s.verbose)

/-! ## values -/

theorem text_string {s : String} (h : s ≠ "") : text (.string s) = .ok s := if_neg h

theorem text_eq_ok {v : Value} {s : String} (h : text v = .ok s) : v = .string s ∧ s ≠ "" := by
  unfold text at h
  split at h
  · split at h
    · contradiction
    · next hs => cases h; exact ⟨rfl, hs⟩
  · contradiction

theorem text_eq_error_iff {v : Value} {m : Mistake} :
    text v = .error m ↔
      v = .string "" ∧ m = .emptyText ∨ v.kind ≠ .string ∧ m = .wrongType .string v.kind := by
  cases v with
  | string s => by_cases hs : s = "" <;> simp [text, hs, Value.kind, eq_comm]
  | null | bool _ | number _ _ | array | object => simp [text, Value.kind, eq_comm]

theorem flag_eq_ok {v : Value} {b : Bool} (h : flag v = .ok b) : v = .bool b := by
  unfold flag at h
  split at h
  · cases h; rfl
  · contradiction

theorem flag_eq_error_iff {v : Value} {m : Mistake} :
    flag v = .error m ↔ v.kind ≠ .boolean ∧ m = .wrongType .boolean v.kind := by
  cases v <;> simp [flag, Value.kind, eq_comm]

/-- A text counts as none if and only if it is empty. -/
theorem isVoid_string {s : String} : (Value.string s).isVoid = false ↔ s ≠ "" := by
  simp [Value.isVoid]

/-! ## fields -/

section

variable {env : Environment} {name default : String} {v? : Option Value}

/-- A variable that is set gives a text that is not empty. -/
theorem setting?_eq_some_iff {s : String} :
    setting? env name = some s ↔ env.lookup name = some s ∧ s ≠ "" := by
  simp [setting?, Option.filter_eq_some_iff]

theorem setting?_eq_none_iff : setting? env name = none ↔ ∀ s ∈ env.lookup name, s = "" := by
  simp [setting?, Option.filter_eq_none_iff]

theorem orVariable_of_isVoid (h : ∀ v ∈ v?, v.isVoid = true) :
    orVariable env name v? = (setting? env name).map .string := by
  have hnone : v?.filter (fun v => !v.isVoid) = none := by
    simpa [Option.filter_eq_none_iff] using h
  rw [orVariable, hnone]

theorem orVariable_some {v : Value} (h : v.isVoid = false) :
    orVariable env name (some v) = some v := by
  rw [orVariable, Option.filter_some, h]
  rfl

/-- Where an option counts as none nothing is wrong, whatever the variable is. -/
theorem field_text_of_isVoid (h : ∀ v ∈ v?, v.isVoid = true) :
    field text default (orVariable env name v?) = .ok ((setting? env name).getD default) := by
  rw [orVariable_of_isVoid h]
  cases hset : setting? env name with
  | none => rfl
  | some s => exact text_string (setting?_eq_some_iff.1 hset).2

/-- What is wrong with a text is that the option is none and counts as something. -/
theorem field_text_eq_error_iff {m : Mistake} :
    field text default (orVariable env name v?) = .error m ↔
      ∃ v, v? = some v ∧ v.isVoid = false ∧ v.kind ≠ .string ∧
        m = .wrongType .string v.kind := by
  by_cases hvoid : ∀ v ∈ v?, v.isVoid = true
  · rw [field_text_of_isVoid hvoid]
    refine iff_of_false nofun ?_
    rintro ⟨v, rfl, hv, -⟩
    exact absurd (hvoid v rfl) (by simp [hv])
  · push Not at hvoid
    obtain ⟨v, rfl, hv⟩ := hvoid
    have hgiven : v.isVoid = false := by simpa using hv
    have hnonempty : v ≠ .string "" := by rintro rfl; simp [Value.isVoid] at hv
    rw [orVariable_some hgiven, field, text_eq_error_iff]
    simp [hgiven, hnonempty]

theorem textWorth_of_field {s : String}
    (h : field text default (orVariable env name v?) = .ok s) :
    TextWorth v? (env.lookup name) default s := by
  by_cases hvoid : ∀ v ∈ v?, v.isVoid = true
  · rw [field_text_of_isVoid hvoid] at h
    cases h
    cases hset : setting? env name with
    | none => exact .default hvoid (setting?_eq_none_iff.1 hset)
    | some s =>
      obtain ⟨hlookup, hs⟩ := setting?_eq_some_iff.1 hset
      exact .set hvoid hlookup hs
  · push Not at hvoid
    obtain ⟨v, rfl, hv⟩ := hvoid
    rw [orVariable_some (by simpa using hv), field] at h
    obtain ⟨rfl, hs⟩ := text_eq_ok h
    exact .given rfl hs

theorem TextWorth.ne_empty {set? : Option String} {s : String} (hdefault : default ≠ "")
    (h : TextWorth v? set? default s) : s ≠ "" := by
  cases h with
  | given _ hs => exact hs
  | set _ _ hs => exact hs
  | default _ _ => exact hdefault

/-- What is wrong with an input. -/
theorem field_input_eq_error_iff {m : Mistake} :
    field (fun v => (text v).map some) none v? = .error m ↔
      v? = some (.string "") ∧ m = .emptyText ∨
        ∃ v, v? = some v ∧ v.kind ≠ .string ∧ m = .wrongType .string v.kind := by
  cases v? with
  | none => simp [field]
  | some v =>
    have hmap : (text v).map some = .error m ↔ text v = .error m := by
      cases text v <;> simp [Except.map]
    simp [field, hmap, text_eq_error_iff]

theorem field_input_eq_ok {input? : Option String}
    (h : field (fun v => (text v).map some) none v? = .ok input?) :
    input?.map .string = v? ∧ input? ≠ some "" := by
  cases v? with
  | none => cases h; exact ⟨rfl, nofun⟩
  | some v =>
    unfold field at h
    dsimp only at h
    cases htext : text v with
    | error m => rw [htext] at h; contradiction
    | ok s =>
      rw [htext] at h
      cases h
      obtain ⟨rfl, hs⟩ := text_eq_ok htext
      exact ⟨rfl, by simpa using hs⟩

theorem verbose?_merge_of_null {o : Options} (h : ∀ v ∈ o.verbose?, v = .null) :
    (merge o env).verbose? =
      (setting? env "DOXYGEN_MD_VERBOSE").map fun s => .bool (isOn s) := by
  have hnone : o.verbose?.filter (· ≠ .null) = none := by
    simpa [Option.filter_eq_none_iff] using h
  rw [merge, hnone]

theorem verbose?_merge_some {o : Options} {v : Value} (h : o.verbose? = some v)
    (hv : v ≠ .null) : (merge o env).verbose? = some v := by
  have hsome : o.verbose?.filter (· ≠ .null) = some v := by
    rw [h, Option.filter_some]
    simp [hv]
  rw [merge, hsome]

/-- What is wrong with a flag. -/
theorem field_flag_eq_error_iff {o : Options} {default : Bool} {m : Mistake} :
    field flag default (merge o env).verbose? = .error m ↔
      ∃ v, o.verbose? = some v ∧ v ≠ .null ∧ v.kind ≠ .boolean ∧
        m = .wrongType .boolean v.kind := by
  by_cases hnull : ∀ v ∈ o.verbose?, v = .null
  · rw [verbose?_merge_of_null hnull]
    refine iff_of_false ?_ ?_
    · cases setting? env "DOXYGEN_MD_VERBOSE" <;> nofun
    · rintro ⟨v, hv, hne, -⟩
      exact hne (hnull v hv)
  · push Not at hnull
    obtain ⟨v, hv, hne⟩ := hnull
    have hgiven : o.verbose? = some v := hv
    rw [verbose?_merge_some hgiven hne, field, flag_eq_error_iff, hgiven]
    simp [hne]

theorem flagWorth_of_field {o : Options} {b : Bool}
    (h : field flag false (merge o env).verbose? = .ok b) :
    FlagWorth o.verbose? (env.lookup "DOXYGEN_MD_VERBOSE") b := by
  by_cases hnull : ∀ v ∈ o.verbose?, v = .null
  · have hb : b = decide (env.lookup "DOXYGEN_MD_VERBOSE" = some "true" ∨
        env.lookup "DOXYGEN_MD_VERBOSE" = some "1") := by
      rw [verbose?_merge_of_null hnull, setting?] at h
      cases hlookup : env.lookup "DOXYGEN_MD_VERBOSE" with
      | none => rw [hlookup] at h; cases h; rfl
      | some s =>
        rw [hlookup] at h
        by_cases hs : s = ""
        · subst hs; cases h; rfl
        · rw [Option.filter_some, if_pos (by simpa using hs)] at h
          cases h
          simp [isOn, Bool.beq_eq_decide_eq, Bool.decide_or]
    rw [hb]
    exact .set hnull
  · push Not at hnull
    obtain ⟨v, hv, hne⟩ := hnull
    have hgiven : o.verbose? = some v := hv
    rw [verbose?_merge_some hgiven hne, field] at h
    rw [hgiven, flag_eq_ok h]
    exact .given rfl

end

/-! ## all fields -/

/-- The issues with options, setting by setting. -/
def issues (o : Options) : List Issue :=
  issueOf "input" (field (fun v => (text v).map some) none o.input?) ++
    issueOf "outDir" (field text ({} : Settings).outDir o.outDir?) ++
    issueOf "pattern" (field text ({} : Settings).pattern o.pattern?) ++
    issueOf "verbose" (field flag ({} : Settings).verbose o.verbose?)

theorem mem_issueOf {α : Type} {path : String} {r : Except Mistake α} {i : Issue} :
    i ∈ issueOf path r ↔ ∃ m, r = .error m ∧ i = ⟨path, m⟩ := by
  cases r <;> simp [issueOf]

theorem sublist_map_path_issueOf {α : Type} (path : String) (r : Except Mistake α) :
    ((issueOf path r).map Issue.path).Sublist [path] := by
  cases r <;> simp [issueOf]

/-- The issues are in the order of the settings, with no setting named twice. -/
theorem sublist_map_path_issues (o : Options) :
    ((issues o).map Issue.path).Sublist ["input", "outDir", "pattern", "verbose"] := by
  simp only [issues, List.map_append]
  exact (((sublist_map_path_issueOf _ _).append (sublist_map_path_issueOf _ _)).append
    (sublist_map_path_issueOf _ _)).append (sublist_map_path_issueOf _ _)

/-- Options either come to settings, field by field, or have issues. -/
theorem validate_eq_ok_iff {o : Options} {s : Settings} :
    validate o = .ok s ↔
      field (fun v => (text v).map some) none o.input? = .ok s.input? ∧
        field text ({} : Settings).outDir o.outDir? = .ok s.outDir ∧
        field text ({} : Settings).pattern o.pattern? = .ok s.pattern ∧
        field flag ({} : Settings).verbose o.verbose? = .ok s.verbose := by
  cases s
  unfold validate
  cases field (fun v => (text v).map some) none o.input? <;>
    cases field text ({} : Settings).outDir o.outDir? <;>
    cases field text ({} : Settings).pattern o.pattern? <;>
    cases field flag ({} : Settings).verbose o.verbose? <;>
    simp

theorem validate_eq_error_iff {o : Options} {is : List Issue} :
    validate o = .error is ↔ issues o = is ∧ issues o ≠ [] := by
  unfold validate issues
  cases field (fun v => (text v).map some) none o.input? <;>
    cases field text ({} : Settings).outDir o.outDir? <;>
    cases field text ({} : Settings).pattern o.pattern? <;>
    cases field flag ({} : Settings).verbose o.verbose? <;>
    simp [issueOf]

/-- The issues with options that were completed are those with the options themselves. -/
theorem mem_issues_merge {o : Options} {env : Environment} {i : Issue} :
    i ∈ issues (merge o env) ↔ Offends o i := by
  have houtDir : (merge o env).outDir? = orVariable env "DOXYGEN_MD_OUTDIR" o.outDir? := rfl
  have hpattern : (merge o env).pattern? = orVariable env "DOXYGEN_MD_PATTERN" o.pattern? := rfl
  have hinput : (merge o env).input? = o.input? := rfl
  simp only [issues, List.mem_append, mem_issueOf, houtDir, hpattern, hinput,
    field_input_eq_error_iff, field_text_eq_error_iff, field_flag_eq_error_iff]
  constructor
  · rintro (((⟨m, ⟨h, rfl⟩ | ⟨v, h, hv, rfl⟩, rfl⟩ | ⟨m, ⟨v, h, hg, hv, rfl⟩, rfl⟩) |
      ⟨m, ⟨v, h, hg, hv, rfl⟩, rfl⟩) | ⟨m, ⟨v, h, hg, hv, rfl⟩, rfl⟩)
    · exact .emptyInput h
    · exact .input h hv
    · exact .outDir h hg hv
    · exact .pattern h hg hv
    · exact .verbose h hg hv
  · intro h
    cases h with
    | emptyInput h => exact .inl (.inl (.inl ⟨_, .inl ⟨h, rfl⟩, rfl⟩))
    | input h hv => exact .inl (.inl (.inl ⟨_, .inr ⟨_, h, hv, rfl⟩, rfl⟩))
    | outDir h hg hv => exact .inl (.inl (.inr ⟨_, ⟨_, h, hg, hv, rfl⟩, rfl⟩))
    | pattern h hg hv => exact .inl (.inr ⟨_, ⟨_, h, hg, hv, rfl⟩, rfl⟩)
    | verbose h hg hv => exact .inr ⟨_, ⟨_, h, hg, hv, rfl⟩, rfl⟩

/-! ## resolution -/

section

variable {o : Options} {env : Environment} {s : Settings}

theorem settles_of_resolve (h : resolve o env = .ok s) :
    Settles o env s ∧ s.input? ≠ some "" := by
  obtain ⟨hinput, houtDir, hpattern, hverbose⟩ := validate_eq_ok_iff.1 h
  obtain ⟨hsame, hne⟩ := field_input_eq_ok hinput
  exact ⟨⟨hsame, textWorth_of_field houtDir, textWorth_of_field hpattern,
    flagWorth_of_field hverbose⟩, hne⟩

/-- Settings with an input, an output directory and a pattern that are not empty stay as they
are. -/
theorem resolve_toOptions_settings (hinput : s.input? ≠ some "") (houtDir : s.outDir ≠ "")
    (hpattern : s.pattern ≠ "") (env : Environment) : resolve s.toOptions env = .ok s := by
  refine validate_eq_ok_iff.2 ⟨?_, ?_, ?_, ?_⟩
  · show field _ none (s.input?.map .string) = _
    cases hs : s.input? with
    | none => rfl
    | some t =>
      have ht : t ≠ "" := fun e => hinput (by rw [hs, e])
      simp [field, text_string ht, Except.map]
  · show field _ _ (orVariable env _ (some (.string s.outDir))) = _
    rw [orVariable_some (isVoid_string.2 houtDir)]
    exact text_string houtDir
  · show field _ _ (orVariable env _ (some (.string s.pattern))) = _
    rw [orVariable_some (isVoid_string.2 hpattern)]
    exact text_string hpattern
  · rw [verbose?_merge_some (v := .bool s.verbose) rfl nofun]
    rfl

end

/-- **What options come to.**  Options are refused if and only if something is wrong with them,
under the code for invalid options and with one issue for each setting at fault, in the order
of the settings.  Otherwise each setting is worth the option, else the variable, else the
default; and settings that are resolved again, in whatever environment, stay as they are. -/
theorem resolutionRule (o : Options) (env : Environment) :
    ((∃ found, resolve o env = .error found) ↔ ∃ i, Offends o i) ∧
      (∀ found, resolve o env = .error found →
        (∀ i, i ∈ found ↔ Offends o i) ∧
          (found.map Issue.path).Sublist ["input", "outDir", "pattern", "verbose"] ∧
          (Failure.invalidOptions found).code? = some "DOXYGEN_MD_INVALID_CONFIG") ∧
      ∀ s, resolve o env = .ok s →
        Settles o env s ∧ ∀ env', resolve s.toOptions env' = .ok s := by
  refine ⟨?_, fun found h => ?_, fun s h => ?_⟩
  · have hmem : ∀ i, i ∈ issues (merge o env) ↔ Offends o i := fun _ => mem_issues_merge
    simp only [resolve, validate_eq_error_iff, exists_eq_left', ← hmem]
    exact ⟨List.exists_mem_of_ne_nil _, fun ⟨_, hi⟩ => List.ne_nil_of_mem hi⟩
  · obtain ⟨rfl, -⟩ := validate_eq_error_iff.1 h
    exact ⟨fun _ => mem_issues_merge, sublist_map_path_issues _, rfl⟩
  · obtain ⟨hsettles, hinput⟩ := settles_of_resolve h
    exact ⟨hsettles, resolve_toOptions_settings hinput (hsettles.outDir.ne_empty (by decide))
      (hsettles.pattern.ne_empty (by decide))⟩

/-- Null, false and an empty variable count as none. -/
example :
    resolve { outDir? := some .null, pattern? := some (.bool false), verbose? := some .null }
        [("DOXYGEN_MD_OUTDIR", "out"), ("DOXYGEN_MD_PATTERN", ""), ("DOXYGEN_MD_VERBOSE", "1")] =
      .ok { outDir := "out", verbose := true } := by decide

end Docdown.Config
