import Docdown.Proofs.Config.Resolution
import Docdown.Run.Command

/-!
# Docdown.Proofs.Run.Requests

What the arguments of a run ask for.  Its input is the first positional argument
(`Arguments.input?_of_parse`), and since the other options can only be non-empty texts and
flags, all that can be wrong with the options is an empty input
(`Arguments.resolve_toOptions_of_empty`, `Arguments.exists_resolve_toOptions`).
-/

namespace Docdown

namespace Arguments

/-! ## the input -/

/-- The value of a positional argument. -/
def Token.positional? : Token → Option String
  | .option _ _ _ _ => none
  | .positional value => some value

/-- The positional arguments, in order. -/
def positionals (arguments : List String) : List String :=
  (tokens arguments).filterMap Token.positional?

/-- Storing one part keeps the input, unless it is the first positional argument. -/
theorem input?_of_store {a b : Arguments} {t : Token} (h : a.store t = .ok b) :
    b.input? = (a.input? <|> t.positional?) := by
  unfold store at h
  split at h
  · cases h
    rfl
  · cases h
  · rename_i s value? isInline
    have hkept : b.input? = a.input? := by
      split at h
      · cases h
      · cases h
      · cases h
        unfold storeFlag
        split <;> rfl
      · split at h
        · cases h
        · cases h
          unfold storeValue
          split <;> rfl
    rw [hkept, Token.positional?]
    cases a.input? <;> rfl

theorem input?_of_foldlM_store {a b : Arguments} {ts : List Token}
    (h : ts.foldlM store a = .ok b) :
    b.input? = (a.input? <|> (ts.filterMap Token.positional?).head?) := by
  induction ts generalizing a with
  | nil =>
    cases h
    cases b.input? <;> rfl
  | cons t ts ih =>
    rw [List.foldlM_cons] at h
    cases hstore : a.store t with
    | error m => rw [hstore] at h; cases h
    | ok c =>
      rw [hstore] at h
      rw [ih h, input?_of_store hstore]
      cases a.input? <;> cases ht : t.positional? <;> simp [ht]

/-- The input is the first positional argument. -/
theorem input?_of_parse {arguments : List String} {a : Arguments}
    (h : parse arguments = .ok a) : a.input? = (positionals arguments).head? := by
  rw [input?_of_foldlM_store h]
  rfl

/-! ## the options -/

/-- Nothing is wrong with an option that is a text. -/
theorem field_orVariable (env : Config.Environment) (name default : String)
    (given? : Option String) :
    ∃ s, Config.field Config.text default
      (Config.orVariable env name (given?.map .string)) = .ok s := by
  cases hfield : Config.field Config.text default
      (Config.orVariable env name (given?.map .string)) with
  | ok s => exact ⟨s, rfl⟩
  | error m =>
    obtain ⟨v, hgiven, -, hkind, -⟩ := Config.field_text_eq_error_iff.1 hfield
    obtain ⟨s, -, rfl⟩ := Option.map_eq_some_iff.1 hgiven
    exact absurd rfl hkind

theorem field_flag (a : Arguments) (env : Config.Environment) :
    ∃ b, Config.field Config.flag ({} : Config.Settings).verbose
      (Config.merge a.toOptions env).verbose? = .ok b := by
  cases hfield : Config.field Config.flag ({} : Config.Settings).verbose
      (Config.merge a.toOptions env).verbose? with
  | ok b => exact ⟨b, rfl⟩
  | error m =>
    obtain ⟨v, hgiven, -, hkind, -⟩ := Config.field_flag_eq_error_iff.1 hfield
    obtain ⟨b, -, rfl⟩ := Option.map_eq_some_iff.1 hgiven
    exact absurd rfl hkind

/-- What options come to depends on the input alone. -/
theorem resolve_toOptions (a : Arguments) (env : Config.Environment) :
    ∃ outDir pattern verbose, Config.resolve a.toOptions env =
      match Config.field (fun v => (Config.text v).map some) none (a.input?.map .string) with
      | .ok input? => .ok ⟨input?, outDir, pattern, verbose⟩
      | .error m => .error [⟨"input", m⟩] := by
  obtain ⟨outDir, houtDir⟩ := field_orVariable env "DOXYGEN_MD_OUTDIR"
    ({} : Config.Settings).outDir a.outDir?
  obtain ⟨pattern, hpattern⟩ := field_orVariable env "DOXYGEN_MD_PATTERN"
    ({} : Config.Settings).pattern a.pattern?
  obtain ⟨verbose, hverbose⟩ := field_flag a env
  refine ⟨outDir, pattern, verbose, ?_⟩
  unfold Config.resolve Config.validate
  rw [hverbose]
  simp only [Config.merge, toOptions, houtDir, hpattern]
  cases Config.field (fun v => (Config.text v).map some) none (a.input?.map .string) <;> rfl

/-- An empty input is no input. -/
theorem resolve_toOptions_of_empty {a : Arguments} (h : a.input? = some "")
    (env : Config.Environment) :
    Config.resolve a.toOptions env = .error [⟨"input", .emptyText⟩] := by
  obtain ⟨outDir, pattern, verbose, hresolve⟩ := resolve_toOptions a env
  rw [hresolve, h]
  rfl

/-- Nothing else can be wrong with options that are given as arguments. -/
theorem exists_resolve_toOptions {a : Arguments} (h : a.input? ≠ some "")
    (env : Config.Environment) :
    ∃ settings, Config.resolve a.toOptions env = .ok settings := by
  obtain ⟨outDir, pattern, verbose, hresolve⟩ := resolve_toOptions a env
  rw [hresolve]
  cases hinput : a.input? with
  | none => exact ⟨_, rfl⟩
  | some s =>
    have hs : s ≠ "" := fun e => h (by rw [hinput, e])
    exact ⟨⟨some s, outDir, pattern, verbose⟩, by simp [Config.field, Config.text, hs, Except.map]⟩

end Arguments

end Docdown
