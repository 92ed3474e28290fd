import Docdown.Proofs.Run.Requests

/-!
# Docdown.Proofs.Run.Verbosity

What verbosity can change in a run.  It comes from an argument or from a variable and ends
in the settings, where nothing looks at it but the entry that shows the settings and the
run's own logger.  So two runs that differ in nothing else (`AskAlike`,
`Surroundings.Alike`) agree in exit code, output, files and every log entry that is not for
debugging (`agrees_run`).
-/

namespace Docdown

/-! ## settings -/

namespace Config

/-- The settings without verbosity. -/
def Settings.muted (s : Settings) : Settings := { s with verbose := false }

/-- Settings that are the same without verbosity differ in it at most. -/
theorem Settings.exists_of_muted_eq {s s' : Settings} (h : s.muted = s'.muted) :
    ∃ verbose, s' = { s with verbose := verbose } := by
  cases s
  cases s'
  cases h
  exact ⟨_, rfl⟩

/-- Options are as good without verbosity as with it, where it is a flag or not given. -/
theorem validate_muted {o : Options} {verbose : Bool}
    (h : field flag ({} : Settings).verbose o.verbose? = .ok verbose) :
    (validate o).map Settings.muted =
      (validate { o with verbose? := none }).map Settings.muted := by
  unfold validate
  rw [h]
  dsimp only
  generalize field (fun v => (text v).map some) none o.input? = input
  generalize field text ({} : Settings).outDir o.outDir? = outDir
  generalize field text ({} : Settings).pattern o.pattern? = pattern
  cases input <;> cases outDir <;> cases pattern <;> rfl

/-- An option is completed the same way from two environments that have the same variable. -/
theorem orVariable_congr {env env' : Environment} {name : String}
    (h : env.lookup name = env'.lookup name) (v? : Option Value) :
    orVariable env name v? = orVariable env' name v? := by
  rw [orVariable, orVariable, setting?, setting?, h]

end Config

/-! ## requests that are alike -/

/-- The arguments without verbosity. -/
def Arguments.muted (a : Arguments) : Arguments := { a with verbose? := none }

/-- Arguments that are the same without verbosity differ in it at most. -/
theorem Arguments.exists_of_muted_eq {a a' : Arguments} (h : a.muted = a'.muted) :
    ∃ verbose?, a' = { a with verbose? := verbose? } := by
  cases a
  cases a'
  cases h
  exact ⟨_, rfl⟩

/-- The arguments of two runs ask for the same, verbosity apart. -/
def AskAlike (arguments arguments' : List String) : Prop :=
  (Arguments.parse arguments).map Arguments.muted = (Arguments.parse arguments').map Arguments.muted

/-- Two runs find the same around them, the variable for verbosity apart. -/
structure Surroundings.Alike (s s' : Surroundings) : Prop where
  env : ∀ name, name ≠ "DOXYGEN_MD_VERBOSE" → s.env.lookup name = s'.env.lookup name
  stdin : s.stdin = s'.stdin
  files : s.files = s'.files

/-- Arguments that are the same without verbosity come to settings that are, too, and are
at fault in the same way. -/
theorem Arguments.resolve_alike {s s' : Surroundings} (hs : s.Alike s') (a : Arguments)
    (verbose? : Option Bool) :
    (Config.resolve a.toOptions s.env).map Config.Settings.muted =
      (Config.resolve { a with verbose? := verbose? }.toOptions s'.env).map
        Config.Settings.muted := by
  obtain ⟨_, hverbose⟩ := field_flag a s.env
  obtain ⟨_, hverbose'⟩ := field_flag { a with verbose? := verbose? } s'.env
  have hmerge : { Config.merge a.toOptions s.env with verbose? := none } =
      { Config.merge { a with verbose? := verbose? }.toOptions s'.env with verbose? := none } := by
    simp only [Config.merge, toOptions,
      Config.orVariable_congr (hs.env "DOXYGEN_MD_OUTDIR" (by decide)),
      Config.orVariable_congr (hs.env "DOXYGEN_MD_PATTERN" (by decide))]
  rw [Config.resolve, Config.resolve, Config.validate_muted hverbose,
    Config.validate_muted hverbose', hmerge]

/-! ## outcomes that agree -/

/-- The entries that are not for debugging. -/
def withoutDebug (es : RunLog) : RunLog := es.filter (·.level ≠ .debug)

@[simp] theorem withoutDebug_nil : withoutDebug [] = [] := rfl

@[simp] theorem withoutDebug_append (es fs : RunLog) :
    withoutDebug (es ++ fs) = withoutDebug es ++ withoutDebug fs := List.filter_append ..

/-- A logger that writes leaves out entries for debugging only. -/
theorem withoutDebug_kept (verbose : Bool) (es : RunLog) :
    withoutDebug ((Log.Logger.writing verbose).kept es) = withoutDebug es := by
  rw [withoutDebug, Log.Logger.kept, List.filter_filter]
  refine List.filter_congr fun e _ => ?_
  cases e.level <;> simp [Log.Logger.writes]

/-- Two outcomes agree in everything but entries for debugging.  The log is the one that a
logger given to the run takes, the written log that of the run's own. -/
structure Outcome.Agrees (o o' : Outcome) : Prop where
  code : o.code = o'.code
  output : o.output = o'.output
  files : o.files = o'.files
  log : withoutDebug o.log = withoutDebug o'.log
  writtenLog : withoutDebug o.writtenLog = withoutDebug o'.writtenLog

/-- The written logs agree where the logs do. -/
theorem Outcome.Agrees.of_log {o o' : Outcome} (hcode : o.code = o'.code)
    (houtput : o.output = o'.output) (hfiles : o.files = o'.files)
    (hlog : withoutDebug o.log = withoutDebug o'.log) : o.Agrees o' where
  code := hcode
  output := houtput
  files := hfiles
  log := hlog
  writtenLog := by
    rw [Outcome.writtenLog, Outcome.writtenLog, withoutDebug_kept, withoutDebug_kept, hlog]

theorem Outcome.Agrees.refl (o : Outcome) : o.Agrees o := ⟨rfl, rfl, rfl, rfl, rfl⟩

/-! ## runs that agree -/

variable {s s' : Surroundings} {log log' : RunLog}

theorem agrees_printPage (hs : s.Alike s') (settings settings' : Config.Settings)
    (hlog : withoutDebug log = withoutDebug log') (text : Except Failure String) :
    (printPage s settings log text).Agrees (printPage s' settings' log' text) := by
  unfold printPage
  split
  · exact .of_log rfl rfl hs.files hlog
  · exact .of_log rfl rfl hs.files (by rw [withoutDebug_append, withoutDebug_append, hlog])

/-- The conversion of a directory does not look at verbosity. -/
theorem convertDirectory_verbose (directory : String) (settings : Config.Settings)
    (verbose : Bool) (files : FileTree) :
    convertDirectory directory { settings with verbose := verbose } files =
      convertDirectory directory settings files := rfl

theorem agrees_runDirectory (hs : s.Alike s') (settings : Config.Settings) (verbose : Bool)
    (hlog : withoutDebug log = withoutDebug log') (directory : String) :
    (runDirectory s settings log directory).Agrees
      (runDirectory s' { settings with verbose := verbose } log' directory) := by
  unfold runDirectory
  rw [convertDirectory_verbose directory settings verbose, hs.files]
  dsimp only
  split
  · exact .of_log rfl rfl rfl (by simp only [withoutDebug_append, hlog])
  · exact .of_log rfl rfl rfl (by simp only [withoutDebug_append, hlog])

theorem agrees_runSettings (hs : s.Alike s') (settings : Config.Settings) (verbose : Bool) :
    (runSettings s settings).Agrees (runSettings s' { settings with verbose := verbose }) := by
  -- The entry for the settings is for debugging.
  have hlog : withoutDebug [⟨.debug, "Configuration:", [settings]⟩] =
      withoutDebug [⟨.debug, "Configuration:", [{ settings with verbose := verbose }]⟩] := rfl
  unfold runSettings
  rw [hs.stdin, hs.files]
  dsimp only
  split
  · exact agrees_printPage hs _ _ hlog _
  · split
    · exact agrees_printPage hs _ _ hlog _
    · exact agrees_runDirectory hs _ _ hlog _
    · exact agrees_printPage hs _ _ hlog _

/-- Options that come to settings alike, or are at fault in the same way, make runs that
agree. -/
theorem agrees_resolved (hs : s.Alike s')
    {resolved resolved' : Except (List Config.Issue) Config.Settings} :
    resolved.map Config.Settings.muted = resolved'.map Config.Settings.muted →
    Outcome.Agrees
      (match resolved with
        | .error issues =>
          ⟨(Failure.invalidOptions issues).exitCode, [], failureLog (.invalidOptions issues),
            s.files, false⟩
        | .ok settings => runSettings s settings)
      (match resolved' with
        | .error issues =>
          ⟨(Failure.invalidOptions issues).exitCode, [], failureLog (.invalidOptions issues),
            s'.files, false⟩
        | .ok settings => runSettings s' settings) := by
  intro h
  cases resolved with
  | error issues =>
    cases resolved' with
    | ok settings => cases h
    | error issues' =>
      cases h
      exact .of_log rfl rfl hs.files rfl
  | ok settings =>
    cases resolved' with
    | error issues => cases h
    | ok settings' =>
      obtain ⟨verbose, rfl⟩ := Config.Settings.exists_of_muted_eq (Except.ok.inj h)
      exact agrees_runSettings hs settings verbose

/-- **Verbosity interferes with nothing but entries for debugging.**  Two runs that differ
only in the flag or in the variable for verbosity agree in exit code, output, files and
every other entry of their logs. -/
theorem agrees_run {arguments arguments' : List String} (harguments : AskAlike arguments arguments')
    (hs : s.Alike s') : (run arguments s).Agrees (run arguments' s') := by
  unfold AskAlike at harguments
  unfold run
  cases hparse : Arguments.parse arguments with
  | error m =>
    cases hparse' : Arguments.parse arguments' with
    | ok a => rw [hparse, hparse'] at harguments; cases harguments
    | error m' =>
      rw [hparse, hparse'] at harguments
      cases harguments
      exact .of_log rfl rfl hs.files rfl
  | ok a =>
    cases hparse' : Arguments.parse arguments' with
    | error m => rw [hparse, hparse'] at harguments; cases harguments
    | ok a' =>
      rw [hparse, hparse'] at harguments
      obtain ⟨verbose?, rfl⟩ := Arguments.exists_of_muted_eq (Except.ok.inj harguments)
      dsimp only
      split
      · exact .of_log rfl rfl hs.files rfl
      · split
        · exact .of_log rfl rfl hs.files rfl
        · exact agrees_resolved hs (Arguments.resolve_alike hs a verbose?)

/-- A text that is no document, in an environment that asks for verbosity. -/
def Surroundings.broken : Surroundings :=
  ⟨[("DOXYGEN_MD_VERBOSE", "1"), ("DOXYGEN_MD_OUTDIR", "out")], "<a>", .empty ["work"]⟩

/-- The same text, in one that does not. -/
def Surroundings.brokenMuted : Surroundings :=
  ⟨[("DOXYGEN_MD_OUTDIR", "out")], "<a>", .empty ["work"]⟩

/-- One run is verbose by its environment, the other by its arguments or not at all. -/
theorem agrees_run_broken :
    (run [] .broken).Agrees (run [] .brokenMuted) ∧
      (run [] .broken).Agrees (run ["-v"] .brokenMuted) ∧
      (run [] .broken).writtenLog.length = 3 ∧ (run [] .brokenMuted).writtenLog.length = 2 ∧
      (run [] .brokenMuted).code = 1 := by
  have halike : Surroundings.Alike .broken .brokenMuted :=
    ⟨fun name hname => by simp [Surroundings.broken, Surroundings.brokenMuted, List.lookup_cons,
      beq_eq_false_iff_ne.2 hname], rfl, rfl⟩
  have hask : AskAlike [] ["-v"] := rfl
  exact ⟨agrees_run rfl halike, agrees_run hask halike, by decide +kernel,
    by decide +kernel, by decide +kernel⟩

end Docdown
