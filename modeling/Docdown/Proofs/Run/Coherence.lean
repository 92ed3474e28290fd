import Docdown.Proofs.Run.Requests
import Docdown.Proofs.Run.Single
import Docdown.Proofs.Run.Steps

/-!
# Docdown.Proofs.Run.Coherence

Exit code, output, log and files of a run tell the same story.  What a run comes to can
be told from its arguments and its surroundings: they are misused, ask for a text about
the program, give a text that has a page, name a directory that is converted to the end,
or fail for a reason (`FailsWith`), and there is nothing else (`cases_of_run`).  For each
of these the outcome is known as a whole, and `run_coherent` reads the story off it.
-/

namespace Docdown

/-! ## what a run over a directory logs -/

namespace DirectoryRun

/-- A run over a directory leaves errors to its caller: it logs none, and no failure of
it is one that the program makes up itself. -/
structure IsPlain (r : DirectoryRun) : Prop where
  log : ∀ e ∈ r.log, e.level ≠ .error
  failure? : ∀ f, r.failure? = some f → f.isOwn = false

variable {directory outDir : String} {r r' : DirectoryRun} {file : String}

/-- Logging anything but an error keeps a run plain. -/
theorem forall_level_append (h : r.IsPlain) {e : Log.Entry Config.Settings}
    (he : e.level ≠ .error) : ∀ e' ∈ r.log ++ [e], e'.level ≠ .error := by
  intro e' he'
  rcases List.mem_append.1 he' with he' | he'
  · exact h.log e' he'
  · rwa [List.mem_singleton.1 he']

theorem IsPlain.makeDirectory (h : r.IsPlain) (path : String) : (r.makeDirectory path).IsPlain where
  log := h.log
  failure? f hf := by
    obtain ⟨e, -, rfl⟩ := Option.map_eq_some_iff.1 hf
    rfl

theorem IsPlain.step (h : r.IsPlain) (hstep : Step directory outDir r file r') : r'.IsPlain := by
  cases hstep with
  | fail _ => exact ⟨h.log, fun f hf => by cases hf; rfl⟩
  | skip _ _ => exact ⟨forall_level_append h nofun, h.failure?⟩
  | write _ _ _ _ => exact ⟨forall_level_append h nofun, h.failure?⟩

theorem IsPlain.foldl (h : r.IsPlain) (found : List String) :
    (found.foldl (convertFile directory outDir) r).IsPlain := by
  induction found generalizing r with
  | nil => exact h
  | cons file found ih =>
    by_cases hr : r.failure? = none
    · exact ih (h.step (step_convertFile hr file))
    · rwa [foldl_convertFile_of_failure directory outDir hr]

end DirectoryRun

theorem isPlain_convertDirectory (directory : String) (settings : Config.Settings)
    (files : FileTree) : (convertDirectory directory settings files).IsPlain := by
  have hstart : DirectoryRun.IsPlain { files := files } :=
    ⟨fun _ h => absurd h List.not_mem_nil, fun _ h => absurd h.symm (Option.some_ne_none _)⟩
  cases hfind : Glob.find files directory settings.pattern with
  | error e =>
    rw [convertDirectory, hfind]
    exact ⟨hstart.log, fun f hf => by cases hf; rfl⟩
  | ok found =>
    have hnoted : (DirectoryRun.note { files := files } .debug ("Found " ++
        toString found.length ++ " file(s) matching " ++ settings.pattern ++ " in " ++
        directory)).IsPlain :=
      ⟨DirectoryRun.forall_level_append hstart Log.Level.noConfusion, hstart.failure?⟩
    rw [convertDirectory_of_find hfind]
    exact (hnoted.makeDirectory settings.outDir).foldl found

/-! ## failures -/

namespace Failure

/-- The advice that follows a failure in the log: there is some for a text that is no
document and for options that are no settings. -/
def advice : Failure → RunLog
  | .malformed _ _ => [⟨.info, FailureCode.malformedInput.hint, []⟩]
  | .invalidOptions _ => [⟨.info, FailureCode.invalidConfig.hint, []⟩]
  | _ => []

theorem exitCode_le (f : Failure) : f.exitCode ≤ 2 := by
  unfold exitCode
  split <;> decide

theorem exitCode_of_isOwn {f : Failure} (h : f.isOwn = false) : f.exitCode = 1 := by
  unfold isOwn at h
  rw [Option.isSome_eq_false_iff, Option.isNone_iff_eq_none] at h
  unfold exitCode
  rw [h]
  rfl

theorem failureLog_of_isOwn {f : Failure} (h : f.isOwn = false) :
    failureLog f = ⟨.error, f.message, []⟩ :: f.advice := by
  cases f with
  | malformed _ _ | invalidOptions _ | coded _ _ _ => cases h
  | files _ | pattern _ | foreign _ => rfl

end Failure

/-! ## what a run comes to -/

section

variable (arguments : List String) (s : Surroundings)

/-- The arguments are misused. -/
def IsMisused : Prop := ∃ m, Arguments.parse arguments = .error m

/-- The arguments ask for help. -/
def AsksForHelp : Prop := ∃ a, Arguments.parse arguments = .ok a ∧ a.help = true

/-- The arguments ask for the version and not for help. -/
def AsksForVersion : Prop :=
  ∃ a, Arguments.parse arguments = .ok a ∧ a.help = false ∧ a.version = true

/-- The arguments ask for a conversion, with these options. -/
def AsksWith (options : Config.Options) : Prop :=
  ∃ a, Arguments.parse arguments = .ok a ∧ a.help = false ∧ a.version = false ∧
    a.toOptions = options

/-- The arguments ask for a conversion with options that are settings. -/
def SettlesOn (settings : Config.Settings) : Prop :=
  ∃ options, AsksWith arguments options ∧ Config.resolve options s.env = .ok settings

/-- The arguments ask for the conversion of one text. -/
def Reads (text : String) : Prop :=
  ∃ settings, SettlesOn arguments s settings ∧ s.Gives settings text

/-- The arguments ask for the conversion of a directory. -/
def Enters (directory : String) (settings : Config.Settings) : Prop :=
  SettlesOn arguments s settings ∧ settings.input? = some directory ∧
    s.files.stat directory = .ok .directory

/-- Why a run fails that is not misused. -/
inductive FailsWith : Failure → Prop
  /-- The options are no settings. -/
  | options {options : Config.Options} {issues : List Config.Issue} :
    AsksWith arguments options → Config.resolve options s.env = .error issues →
    FailsWith (.invalidOptions issues)
  /-- There is no input where it should be. -/
  | input {settings : Config.Settings} {input : String} {e : FileTree.Error} :
    SettlesOn arguments s settings → settings.input? = some input →
    s.files.stat input = .error e → FailsWith (.files e)
  /-- The text is no document. -/
  | text {text : String} {p : Xml.Problem} :
    Reads arguments s text → convert text = .error p → FailsWith (.ofProblem p)
  /-- The conversion of a directory fails. -/
  | directory {directory : String} {settings : Config.Settings} {f : Failure} :
    Enters arguments s directory settings →
    (convertDirectory directory settings s.files).failure? = some f → FailsWith f

/-- There is nothing else that a run can come to. -/
theorem cases_of_run :
    IsMisused arguments ∨ AsksForHelp arguments ∨ AsksForVersion arguments ∨
      (∃ text page, Reads arguments s text ∧ convert text = .ok page) ∨
      (∃ directory settings, Enters arguments s directory settings ∧
        (convertDirectory directory settings s.files).failure? = none) ∨
      ∃ f, FailsWith arguments s f := by
  -- A text that is read has a page or a problem.
  have hreads : ∀ text, Reads arguments s text →
      (∃ text page, Reads arguments s text ∧ convert text = .ok page) ∨
        ∃ f, FailsWith arguments s f := by
    intro text hread
    cases hconvert : convert text with
    | ok page => exact .inl ⟨text, page, hread, hconvert⟩
    | error p => exact .inr ⟨_, .text hread hconvert⟩
  cases hparse : Arguments.parse arguments with
  | error m => exact .inl ⟨m, hparse⟩
  | ok a =>
    refine .inr ?_
    cases hhelp : a.help with
    | true => exact .inl ⟨a, hparse, hhelp⟩
    | false =>
      refine .inr ?_
      cases hversion : a.version with
      | true => exact .inl ⟨a, hparse, hhelp, hversion⟩
      | false =>
        refine .inr ?_
        have hasks : AsksWith arguments a.toOptions := ⟨a, hparse, hhelp, hversion, rfl⟩
        cases hresolve : Config.resolve a.toOptions s.env with
        | error issues => exact .inr (.inr ⟨_, .options hasks hresolve⟩)
        | ok settings =>
          have hsettles : SettlesOn arguments s settings := ⟨_, hasks, hresolve⟩
          cases hinput : settings.input? with
          | none =>
            exact (hreads s.stdin ⟨settings, hsettles, .stdin hinput rfl⟩).imp_right .inr
          | some input =>
            cases hstat : s.files.stat input with
            | error e => exact .inr (.inr ⟨_, .input hsettles hinput hstat⟩)
            | ok item =>
              cases item with
              | file bytes =>
                have hgives : s.Gives settings (Text.Utf8.text bytes) :=
                  .file hinput (FileTree.readFile_of_stat hstat) rfl
                exact (hreads _ ⟨settings, hsettles, hgives⟩).imp_right .inr
              | directory =>
                have henters : Enters arguments s input settings := ⟨hsettles, hinput, hstat⟩
                cases hfailure : (convertDirectory input settings s.files).failure? with
                | none => exact .inr (.inl ⟨input, settings, henters, hfailure⟩)
                | some f => exact .inr (.inr ⟨f, .directory henters hfailure⟩)

end

/-! ## the outcome of each case -/

section

variable {arguments : List String} {s : Surroundings}

theorem run_of_misused {m : Arguments.Misuse} (h : Arguments.parse arguments = .error m) :
    run arguments s = ⟨2, [helpText],
      [⟨.error, "Error parsing arguments: " ++ m.message, []⟩], s.files, false⟩ := by
  rw [run, h]

theorem run_of_asksForHelp (h : AsksForHelp arguments) :
    run arguments s = ⟨0, [helpText], [], s.files, false⟩ := by
  obtain ⟨a, hparse, hhelp⟩ := h
  rw [run, hparse]
  dsimp only
  rw [if_pos hhelp]

theorem run_of_asksForVersion (h : AsksForVersion arguments) :
    run arguments s = ⟨0, [versionText], [], s.files, false⟩ := by
  obtain ⟨a, hparse, hhelp, hversion⟩ := h
  rw [run, hparse]
  dsimp only
  rw [if_neg (by rw [hhelp]; exact Bool.false_ne_true), if_pos hversion]

theorem run_of_asksWith {options : Config.Options} (h : AsksWith arguments options) :
    run arguments s = match Config.resolve options s.env with
      | .error issues =>
        ⟨(Failure.invalidOptions issues).exitCode, [], failureLog (.invalidOptions issues), s.files,
          false⟩
      | .ok settings => runSettings s settings := by
  obtain ⟨a, hparse, hhelp, hversion, rfl⟩ := h
  rw [run, hparse]
  dsimp only
  exact (if_neg (by rw [hhelp]; exact Bool.false_ne_true)).trans
    (if_neg (by rw [hversion]; exact Bool.false_ne_true))

theorem run_of_settlesOn {settings : Config.Settings} (h : SettlesOn arguments s settings) :
    run arguments s = runSettings s settings := by
  obtain ⟨options, hasks, hresolve⟩ := h
  rw [run_of_asksWith hasks, hresolve]

/-- The entry that a run starts its log with. -/
def settingsEntry (settings : Config.Settings) : Log.Entry Config.Settings :=
  ⟨.debug, "Configuration:", [settings]⟩

/-- A text is converted. -/
theorem run_of_reads {text : String} (h : Reads arguments s text) :
    ∃ settings, run arguments s = printPage s settings [settingsEntry settings] (.ok text) := by
  obtain ⟨settings, hsettles, hgives⟩ := h
  exact ⟨settings, (run_of_settlesOn hsettles).trans (runSettings_of_gives hgives)⟩

/-- A text that has a page is printed. -/
theorem run_of_convert {text page : String} (h : Reads arguments s text)
    (hconvert : convert text = .ok page) :
    ∃ settings, run arguments s =
      ⟨0, [page], [settingsEntry settings], s.files, settings.verbose⟩ := by
  obtain ⟨settings, hrun⟩ := run_of_reads h
  refine ⟨settings, ?_⟩
  rw [hrun, printPage, Except.bind, hconvert]
  rfl

/-- A directory is converted. -/
theorem run_of_enters {directory : String} {settings : Config.Settings}
    (h : Enters arguments s directory settings) :
    run arguments s = runDirectory s settings [settingsEntry settings] directory := by
  obtain ⟨hsettles, hinput, hstat⟩ := h
  rw [run_of_settlesOn hsettles, runSettings, hinput]
  dsimp only
  rw [hstat]
  rfl

/-- A directory is converted to the end. -/
theorem run_of_through {directory : String} {settings : Config.Settings}
    (h : Enters arguments s directory settings)
    (hnone : (convertDirectory directory settings s.files).failure? = none) :
    (run arguments s).code = 0 ∧ (run arguments s).output = [] ∧
      ∀ e ∈ (run arguments s).log, e.level ≠ .error := by
  have hplain := (isPlain_convertDirectory directory settings s.files).log
  rw [run_of_enters h, runDirectory]
  dsimp only
  rw [hnone]
  refine ⟨rfl, rfl, fun e he => ?_⟩
  rcases List.mem_append.1 he with he | he
  · rcases List.mem_append.1 he with he | he
    · rw [List.mem_singleton.1 he]
      nofun
    · exact hplain e he
  · rw [List.mem_singleton.1 he]
    nofun

/-- The outcome of a run that fails. -/
structure Fails (arguments : List String) (s : Surroundings) (f : Failure) (o : Outcome) : Prop where
  code : o.code = f.exitCode
  output : o.output = []
  log : ∃ front, (∀ e ∈ front, e.level ≠ .error) ∧
    o.log = front ++ ⟨.error, f.message, []⟩ :: f.advice
  files : (∀ directory settings, ¬Enters arguments s directory settings) → o.files = s.files

theorem fails_run {f : Failure} (h : FailsWith arguments s f) :
    Fails arguments s f (run arguments s) := by
  -- The entry for the settings is no error.
  have hfirst : ∀ settings, ∀ e ∈ [settingsEntry settings], e.level ≠ .error := by
    intro settings e he
    rw [List.mem_singleton.1 he]
    nofun
  cases h with
  | options hasks hresolve =>
    rw [run_of_asksWith hasks, hresolve]
    exact ⟨rfl, rfl, ⟨[], nofun, rfl⟩, fun _ => rfl⟩
  | @input settings input e hsettles hinput hstat =>
    rw [run_of_settlesOn hsettles, runSettings, hinput]
    dsimp only
    rw [hstat]
    exact ⟨rfl, rfl, ⟨_, hfirst settings, rfl⟩, fun _ => rfl⟩
  | text hreads hconvert =>
    obtain ⟨settings, hrun⟩ := run_of_reads hreads
    rw [hrun, printPage, Except.bind, hconvert]
    exact ⟨rfl, rfl, ⟨_, hfirst settings, rfl⟩, fun _ => rfl⟩
  | @directory directory settings f henters hfailure =>
    have hplain := isPlain_convertDirectory directory settings s.files
    have hlog := Failure.failureLog_of_isOwn (hplain.failure? f hfailure)
    rw [run_of_enters henters, runDirectory]
    dsimp only
    rw [hfailure]
    dsimp only
    rw [hlog]
    refine ⟨rfl, rfl, ⟨_, ?_, rfl⟩, fun hnot => absurd henters (hnot directory settings)⟩
    intro e he
    rcases List.mem_append.1 he with he | he
    · exact hfirst settings e he
    · exact hplain.log e he

/-! ## empty inputs -/

/-- The arguments ask for a conversion, and their first positional argument is empty. -/
def AsksForNothing (arguments : List String) : Prop :=
  (∃ options, AsksWith arguments options) ∧ (Arguments.positionals arguments).head? = some ""

/-- An empty input is a failure of the options. -/
theorem failsWith_of_asksForNothing (h : AsksForNothing arguments) :
    FailsWith arguments s (.invalidOptions [⟨"input", .emptyText⟩]) := by
  obtain ⟨⟨options, hasks⟩, hempty⟩ := h
  refine .options hasks ?_
  obtain ⟨a, hparse, -, -, rfl⟩ := hasks
  exact Arguments.resolve_toOptions_of_empty ((Arguments.input?_of_parse hparse).trans hempty) s.env

/-- No other failure leads to the exit code two. -/
theorem FailsWith.asksForNothing {f : Failure} (h : FailsWith arguments s f)
    (hcode : f.exitCode = 2) : AsksForNothing arguments := by
  cases h with
  | @options options issues hasks hresolve =>
    refine ⟨⟨options, hasks⟩, Decidable.byContradiction fun hempty => ?_⟩
    obtain ⟨a, hparse, -, -, rfl⟩ := hasks
    rw [← Arguments.input?_of_parse hparse] at hempty
    obtain ⟨settings, hsettings⟩ := Arguments.exists_resolve_toOptions hempty s.env
    rw [hresolve] at hsettings
    cases hsettings
  | input _ _ _ => cases hcode
  | text _ _ => cases hcode
  | @directory directory settings _ _ hfailure =>
    have hown := (isPlain_convertDirectory directory settings s.files).failure? f hfailure
    rw [Failure.exitCode_of_isOwn hown] at hcode
    cases hcode

/-! ## error lines -/

/-- How many errors there are among entries. -/
def errorCount (es : RunLog) : Nat := es.countP (·.level = .error)

theorem errorCount_eq_zero {es : RunLog} (h : ∀ e ∈ es, e.level ≠ .error) : errorCount es = 0 :=
  List.countP_eq_zero.2 fun e he => by simpa using h e he

theorem forall_level_kept (g : Log.Logger) {es : RunLog} (h : ∀ e ∈ es, e.level ≠ .error) :
    ∀ e ∈ g.kept es, e.level ≠ .error :=
  fun e he => h e (List.mem_filter.1 he).1

theorem Failure.level_advice (f : Failure) : ∀ e ∈ f.advice, e.level = .info := by
  cases f <;> simp [advice]

/-- Errors and advice are written by every logger that writes. -/
theorem kept_failure (verbose : Bool) (front : RunLog) (f : Failure) :
    (Log.Logger.writing verbose).kept (front ++ ⟨.error, f.message, []⟩ :: f.advice) =
      (Log.Logger.writing verbose).kept front ++ ⟨.error, f.message, []⟩ :: f.advice := by
  have hkept : (Log.Logger.writing verbose).kept (⟨.error, f.message, []⟩ :: f.advice) =
      ⟨.error, f.message, []⟩ :: f.advice := by
    refine List.filter_eq_self.2 fun e he => ?_
    rcases List.mem_cons.1 he with rfl | he
    · simp [Log.Logger.writes]
    · simp [Log.Logger.writes, f.level_advice e he]
  rw [Log.Logger.kept_append, hkept]

theorem errorCount_failure {front : RunLog} (hfront : ∀ e ∈ front, e.level ≠ .error)
    (f : Failure) : errorCount (front ++ ⟨.error, f.message, []⟩ :: f.advice) = 1 := by
  have hadvice : errorCount f.advice = 0 :=
    errorCount_eq_zero fun e he => by rw [f.level_advice e he]; nofun
  unfold errorCount at hadvice
  rw [errorCount, List.countP_append, List.countP_cons_of_pos (by rfl), hadvice]
  exact congrArg (· + 1) (errorCount_eq_zero hfront)

/-! ## misuse, failure or success -/

/-- A run that is not misused and does not fail logs no error. -/
theorem misused_or_fails_or_succeeds (arguments : List String) (s : Surroundings) :
    IsMisused arguments ∨ (∃ f, FailsWith arguments s f) ∨
      (run arguments s).code = 0 ∧ ∀ e ∈ (run arguments s).log, e.level ≠ .error := by
  rcases cases_of_run arguments s with hmisused | hhelp | hversion |
    ⟨text, page, hreads, hconvert⟩ | ⟨directory, settings, henters, hnone⟩ | hfails
  · exact .inl hmisused
  · rw [run_of_asksForHelp hhelp]
    exact .inr (.inr ⟨rfl, nofun⟩)
  · rw [run_of_asksForVersion hversion]
    exact .inr (.inr ⟨rfl, nofun⟩)
  · obtain ⟨settings, hrun⟩ := run_of_convert hreads hconvert
    rw [hrun]
    refine .inr (.inr ⟨rfl, fun e he => ?_⟩)
    rw [List.mem_singleton.1 he]
    nofun
  · obtain ⟨hcode, -, hlog⟩ := run_of_through henters hnone
    exact .inr (.inr ⟨hcode, hlog⟩)
  · exact .inr (.inl hfails)

theorem code_of_misused (h : IsMisused arguments) : (run arguments s).code = 2 := by
  obtain ⟨m, hparse⟩ := h
  rw [run_of_misused hparse]

theorem code_ne_zero_iff :
    (run arguments s).code ≠ 0 ↔ IsMisused arguments ∨ ∃ f, FailsWith arguments s f := by
  constructor
  · intro hcode
    rcases misused_or_fails_or_succeeds arguments s with hmisused | hfails | ⟨hzero, -⟩
    · exact .inl hmisused
    · exact .inr hfails
    · exact absurd hzero hcode
  · rintro (hmisused | ⟨f, hfails⟩)
    · rw [code_of_misused hmisused]
      decide
    · rw [(fails_run hfails).code]
      exact Nat.ne_of_gt f.exitCode_pos

theorem code_eq_two_iff :
    (run arguments s).code = 2 ↔ IsMisused arguments ∨ AsksForNothing arguments := by
  constructor
  · intro hcode
    rcases code_ne_zero_iff.1 (by rw [hcode]; decide) with hmisused | ⟨f, hfails⟩
    · exact .inl hmisused
    · rw [(fails_run hfails).code] at hcode
      exact .inr (hfails.asksForNothing hcode)
  · rintro (hmisused | hnothing)
    · exact code_of_misused hmisused
    · exact (fails_run (failsWith_of_asksForNothing hnothing)).code

theorem output_eq_nil (hmisused : ¬IsMisused arguments) (hhelp : ¬AsksForHelp arguments)
    (hversion : ¬AsksForVersion arguments)
    (hreads : ∀ text page, Reads arguments s text → convert text ≠ .ok page) :
    (run arguments s).output = [] := by
  rcases cases_of_run arguments s with h | h | h | ⟨text, page, h, hconvert⟩ |
    ⟨directory, settings, henters, hnone⟩ | ⟨f, hfails⟩
  · exact absurd h hmisused
  · exact absurd h hhelp
  · exact absurd h hversion
  · exact absurd hconvert (hreads text page h)
  · exact (run_of_through henters hnone).2.1
  · exact (fails_run hfails).output

/-- One error is logged if the code is not zero, and none otherwise. -/
theorem errorCount_kept_run (arguments : List String) (s : Surroundings) (verbose : Bool) :
    errorCount ((Log.Logger.writing verbose).kept (run arguments s).log) =
      if (run arguments s).code = 0 then 0 else 1 := by
  rcases misused_or_fails_or_succeeds arguments s with ⟨m, hparse⟩ | ⟨f, hfails⟩ | ⟨hzero, hlog⟩
  · rw [run_of_misused hparse]
    cases verbose <;> rfl
  · obtain ⟨front, hfront, hlog⟩ := (fails_run hfails).log
    rw [if_neg (code_ne_zero_iff.2 (.inr ⟨f, hfails⟩)), hlog, kept_failure]
    exact errorCount_failure (forall_level_kept _ hfront) f
  · rw [if_pos hzero]
    exact errorCount_eq_zero (forall_level_kept _ hlog)

theorem files_run (h : ∀ directory settings, ¬Enters arguments s directory settings) :
    (run arguments s).files = s.files := by
  rcases cases_of_run arguments s with ⟨m, hparse⟩ | hhelp | hversion |
    ⟨text, page, hreads, hconvert⟩ | ⟨directory, settings, henters, -⟩ | ⟨f, hfails⟩
  · rw [run_of_misused hparse]
  · rw [run_of_asksForHelp hhelp]
  · rw [run_of_asksForVersion hversion]
  · obtain ⟨settings, hrun⟩ := run_of_convert hreads hconvert
    rw [hrun]
  · exact absurd henters (h directory settings)
  · exact (fails_run hfails).files h

end

/-! ## one story -/

/-- What an outcome says about the run it comes from.  The entries are those written by a
logger that writes, be it the run's own or another, verbose or not. -/
structure Coherent (arguments : List String) (s : Surroundings) (o : Outcome) : Prop where
  code_le : o.code ≤ 2
  code_eq_two_iff : o.code = 2 ↔ IsMisused arguments ∨ AsksForNothing arguments
  code_ne_zero_iff : o.code ≠ 0 ↔ IsMisused arguments ∨ ∃ f, FailsWith arguments s f
  output_help : IsMisused arguments ∨ AsksForHelp arguments → o.output = [helpText]
  output_version : AsksForVersion arguments → o.output = [versionText]
  output_page : ∀ text page, Reads arguments s text → convert text = .ok page → o.output = [page]
  output_nil : ¬IsMisused arguments → ¬AsksForHelp arguments → ¬AsksForVersion arguments →
    (∀ text page, Reads arguments s text → convert text ≠ .ok page) → o.output = []
  errorCount : ∀ verbose, errorCount ((Log.Logger.writing verbose).kept o.log) =
    if o.code = 0 then 0 else 1
  log_misused : ∀ verbose m, Arguments.parse arguments = .error m →
    (Log.Logger.writing verbose).kept o.log =
      [⟨.error, "Error parsing arguments: " ++ m.message, []⟩]
  log_failure : ∀ verbose f, FailsWith arguments s f → ∃ front,
    (Log.Logger.writing verbose).kept o.log = front ++ ⟨.error, f.message, []⟩ :: f.advice
  code_failure : ∀ f, FailsWith arguments s f → o.code = f.exitCode
  files : (∀ directory settings, ¬Enters arguments s directory settings) → o.files = s.files

end Docdown
