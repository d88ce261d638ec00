import HostsBlock.Command.Run
import HostsBlock.Proofs.SettingsLayers

/-!
# What the environment overrides

The environment can name the file of variables, the host and the stage, and it can forbid colours.
Where all files of settings can be loaded, this is as good as saying the same on the command line,
`Invocation.run_filledFrom`: the run comes out as if the environment's words stood there wherever
the command line leaves something open.

Where one of the files can be read but not understood, or not even read, the settings are the
standard ones, and **the environment is lost together with the files**, `Invocation.run_congr`. All
that is left of it is the one variable that is looked at again when the style is made, `NO_COLOR`.
-/

namespace HostsBlock

namespace Settings

variable {env : Environment} {files : Files} {named : Option String}

theorem settingsOf_of_loadable (h : Loadable files (paths env named)) :
    settingsOf env files named
      = ((ofLayers (layersAt files (paths env named))).withEnvironment env, "") := by
  unfold settingsOf
  rw [load_of_loadable h]

/-- A file that cannot be loaded takes everything with it. -/
theorem settingsOf_of_not_loadable (h : ¬ Loadable files (paths env named)) :
    ∃ e : SettingsError, load env files named = .error e ∧ settingsOf env files named
      = (standard, "Warning: Failed to load config: " ++ e.message ++ "\n") := by
  cases hload : load env files named with
  | ok s => exact absurd (load_eq_ok_iff.mp ⟨s, hload⟩) h
  | error e =>
      refine ⟨e, rfl, ?_⟩
      unfold settingsOf
      rw [hload]

theorem paths_congr {env' : Environment} (hhome : env' "HOME" = env "HOME") :
    paths env' named = paths env named := by
  unfold paths
  rw [hhome]

end Settings

/-- What is left behind, with a warning in front of the error output. -/
def Outcome.withWarning (warning : String) (o : Outcome) : Outcome :=
  { o with errorOutput := warning ++ o.errorOutput }

/-! ## The command line in the place of the environment -/

/-- A command with what the environment says wherever the command line leaves something open. -/
def Command.filledFrom (env : Environment) : Command → Command
  | .generate file host =>
    .generate (file.or (env "SDAF_HOSTS_VARS")) (host.or (env "SDAF_HOSTS_HOST"))
  | .validateNetwork file => .validateNetwork (file.or (env "SDAF_HOSTS_VARS"))
  | .validateStage file stage =>
    .validateStage (file.or (env "SDAF_HOSTS_VARS")) (stage.or (env "SDAF_HOSTS_STAGE"))
  | .formatEntry entry => .formatEntry entry

/-- Settings that already follow the environment. -/
def Settings.Follows (s : Settings) (env : Environment) : Prop :=
  ∀ t : TextSetting, (env t.environmentName).or (t.inSettings s) = t.inSettings s

theorem Settings.follows_withEnvironment (s : Settings) (env : Environment) :
    (s.withEnvironment env).Follows env := by
  intro t
  rw [t.inSettings_withEnvironment, ← Option.or_assoc, Option.or_self]

theorem Command.progress_filledFrom {env : Environment} {s : Settings} (hs : s.Follows env)
    (c : Command) (files : Files) (extra : List String) :
    (c.filledFrom env).progress s files extra = c.progress s files extra := by
  -- what the environment says is in the settings already, so saying it again changes nothing
  have hfile : ∀ file : Option String,
      (file.or (env "SDAF_HOSTS_VARS")).or s.varsFile = file.or s.varsFile := by
    intro file
    rw [Option.or_assoc]
    exact congrArg file.or (hs .varsFile)
  have hhost : ∀ host : Option String,
      (host.or (env "SDAF_HOSTS_HOST")).or s.host = host.or s.host := by
    intro host
    rw [Option.or_assoc]
    exact congrArg host.or (hs .host)
  have hstage : ∀ stage : Option String,
      (stage.or (env "SDAF_HOSTS_STAGE")).or s.stage = stage.or s.stage := by
    intro stage
    rw [Option.or_assoc]
    exact congrArg stage.or (hs .stage)
  cases c with
  | generate file host =>
      simp only [filledFrom, progress, varsFile?, hfile, hhost]
  | validateNetwork file =>
      simp only [filledFrom, progress, varsFile?, hfile]
  | validateStage file stage =>
      simp only [filledFrom, progress, varsFile?, hfile, hstage]
  | formatEntry entry => rfl

namespace Invocation

variable {env : Environment} {files : Files} {i : Invocation}

/-- The settings of a run. -/
def settings (env : Environment) (files : Files) (i : Invocation) : Settings :=
  (settingsOf env files i.config).1

/-- What is said about settings that could not be loaded. -/
def warning (env : Environment) (files : Files) (i : Invocation) : String :=
  (settingsOf env files i.config).2

/-- The style of a run. -/
def style (env : Environment) (files : Files) (i : Invocation) : Style :=
  styleOf env i (i.settings env files)

/-- What comes of the command of a run. -/
def progress (env : Environment) (files : Files) (i : Invocation) : Progress :=
  i.command.progress (i.settings env files) files i.extra

/-- No file of settings is in the way of a run. -/
def SettingsLoad (env : Environment) (files : Files) (i : Invocation) : Prop :=
  Settings.Loadable files (Settings.paths env i.config)

/-- An invocation with what the environment says wherever the command line leaves something open. -/
def filledFrom (env : Environment) (i : Invocation) : Invocation :=
  { i with
    command := i.command.filledFrom env
    noColor := i.noColor || Settings.forbidsColors env }

theorem run_eq (env : Environment) (files : Files) (i : Invocation) :
    i.run env files
      = (Outcome.ofProgress (i.style env files) (i.progress env files)).withWarning
          (i.warning env files) := rfl

theorem settings_of_loadable (h : i.SettingsLoad env files) :
    i.settings env files
      = (Settings.ofLayers (Settings.layersAt files (Settings.paths env i.config))).withEnvironment
          env := by
  unfold settings
  rw [Settings.settingsOf_of_loadable h]

theorem settings_of_not_loadable (h : ¬ i.SettingsLoad env files) :
    i.settings env files = .standard := by
  obtain ⟨e, -, hsettings⟩ := Settings.settingsOf_of_not_loadable h
  unfold settings
  rw [hsettings]

/-- **The environment is as good as the command line** where all files can be loaded. -/
theorem run_filledFrom (h : i.SettingsLoad env files) :
    (i.filledFrom env).run env files = i.run env files := by
  obtain ⟨s, hs⟩ : ∃ s : Settings, i.settings env files = s.withEnvironment env :=
    ⟨_, settings_of_loadable h⟩
  have hsettings : (i.filledFrom env).settings env files = i.settings env files := rfl
  have hprogress : (i.filledFrom env).progress env files = i.progress env files := by
    unfold progress
    rw [hsettings]
    refine Command.progress_filledFrom ?_ i.command files i.extra
    rw [hs]
    exact Settings.follows_withEnvironment s env
  have hstyle : (i.filledFrom env).style env files = i.style env files := by
    unfold style styleOf
    rw [hsettings, hs]
    unfold filledFrom Settings.withEnvironment
    -- what forbids colours has already been looked at in the settings
    cases Settings.forbidsColors env <;> simp
  rw [run_eq, run_eq, hstyle, hprogress]
  rfl

/-- **The environment is lost** where a file cannot be loaded: nothing depends on it but where the
files are, and the one variable that is looked at again. -/
theorem run_congr {env' : Environment} (h : ¬ i.SettingsLoad env files)
    (hhome : env' "HOME" = env "HOME") (hcolor : env' "NO_COLOR" = env "NO_COLOR") :
    i.run env' files = i.run env files := by
  have hpaths : Settings.paths env' i.config = Settings.paths env i.config :=
    Settings.paths_congr hhome
  have h' : ¬ i.SettingsLoad env' files := by
    unfold SettingsLoad
    rw [hpaths]
    exact h
  obtain ⟨e, hload, hsettings⟩ := Settings.settingsOf_of_not_loadable h
  obtain ⟨e', hload', hsettings'⟩ := Settings.settingsOf_of_not_loadable h'
  -- the files are the same, so they fail in the same way
  have herror : e' = e := by
    unfold Settings.load at hload hload'
    rw [hpaths] at hload'
    cases hlayers : (Settings.paths env i.config).mapM (Settings.layerAt files) with
    | error f =>
        rw [hlayers] at hload hload'
        cases hload
        cases hload'
        rfl
    | ok layers => exact absurd (Settings.loadable_of_mapM hlayers) h
  subst herror
  rw [run_eq, run_eq]
  unfold style progress warning settings styleOf
  rw [hsettings, hsettings', hcolor]

theorem run_noColor {value : String} (h : env "NO_COLOR" = some value) :
    ({ i with noColor := true }).run env files = i.run env files := by
  have hstyle : ({ i with noColor := true }).style env files = i.style env files := by
    unfold style styleOf
    rw [h]
    simp
  rw [run_eq, run_eq, hstyle]
  rfl

end Invocation

/--
**When the environment counts.** Take any invocation, any environment and any files, each of them
there or not and good or not.

What the environment says about a setting is what the run goes by exactly if all files of settings
can be loaded. The run is then the one in which the command line says so, and without colours if the
environment forbids them. If a file cannot be loaded, nothing that the environment says about a
setting makes any difference. Only `NO_COLOR` has its effect in every case, while
`SDAF_HOSTS_NO_COLOR` has it exactly if all files can be loaded.
-/
theorem environment_counts_iff (env : Environment) (files : Files) (i : Invocation) :
    (∀ (t : TextSetting) (x : String), env t.environmentName = some x →
      (t.inSettings (i.settings env files) = some x ↔ i.SettingsLoad env files))
    ∧ (i.SettingsLoad env files → (i.filledFrom env).run env files = i.run env files)
    ∧ (¬ i.SettingsLoad env files → ∀ env' : Environment, env' "HOME" = env "HOME" →
      env' "NO_COLOR" = env "NO_COLOR" → i.run env' files = i.run env files)
    ∧ (∀ x, env "NO_COLOR" = some x →
      ({ i with noColor := true }).run env files = i.run env files)
    ∧ (∀ x, env "SDAF_HOSTS_NO_COLOR" = some x → env "NO_COLOR" = none → i.noColor = false →
      ((i.style env files).colored = false ↔ i.SettingsLoad env files)) := by
  refine ⟨fun t x hx => ?_, Invocation.run_filledFrom,
    fun h env' hhome hcolor => Invocation.run_congr h hhome hcolor,
    fun x hx => Invocation.run_noColor hx, fun x hx hcolor hflag => ?_⟩
  · by_cases h : i.SettingsLoad env files
    · refine iff_of_true ?_ h
      rw [Invocation.settings_of_loadable h, t.inSettings_withEnvironment, hx, Option.some_or]
    · refine iff_of_false ?_ h
      rw [Invocation.settings_of_not_loadable h, t.inSettings_standard]
      exact nofun
  · have hforbids : Settings.forbidsColors env = true := by
      unfold Settings.forbidsColors
      rw [hx, Option.isSome_some, Bool.or_true]
    unfold Invocation.style styleOf
    rw [hflag, hcolor]
    by_cases h : i.SettingsLoad env files
    · refine iff_of_true ?_ h
      rw [Invocation.settings_of_loadable h]
      unfold Settings.withEnvironment
      rw [hforbids, Bool.not_true, Bool.and_false]
      rfl
    · refine iff_of_false ?_ h
      rw [Invocation.settings_of_not_loadable h]
      exact nofun

/-- The files of a project with a bracket missing in its settings. -/
def brokenProjectFiles : Files := .ofList
  [("home/.sdaf-hosts.toml", "[defaults]\nhost = \"app0\"\n"), ("sdaf-hosts.toml", "[defaults\n"),
    ("v.yml", "sap_sid: x00\n")]

/-- The files of the project with its settings taken away. -/
def mendedProjectFiles : Files := .ofList
  [("home/.sdaf-hosts.toml", "[defaults]\nhost = \"app0\"\n"), ("v.yml", "sap_sid: x00\n")]

/-- An environment that says everything that is needed. -/
def sufficientEnvironment : Environment := .ofList
  [("HOME", "home"), ("SDAF_HOSTS_VARS", "v.yml"), ("SDAF_HOSTS_STAGE", "production"),
    ("SDAF_HOSTS_NO_COLOR", "1")]

/-- A check of a stage about which the command line says nothing. -/
def bareStageCheck : Invocation where
  command := .validateStage none none
  extra := []
  verbosity := 0
  format := .human
  config := none
  noColor := false

theorem not_settingsLoad_brokenProjectFiles (env : Environment) :
    ¬ bareStageCheck.SettingsLoad env brokenProjectFiles := by
  intro h
  obtain ⟨layer, hlayer⟩ := h "sdaf-hosts.toml" (List.mem_append_right _ List.mem_cons_self)
  have hbroken : Settings.layerAt brokenProjectFiles "sdaf-hosts.toml" = .error .malformed := by
    decide +kernel
  rw [hbroken] at hlayer
  exact absurd hlayer nofun

theorem settingsLoad_mendedProjectFiles :
    bareStageCheck.SettingsLoad sufficientEnvironment mendedProjectFiles :=
  Settings.load_eq_ok_iff.mp
    ⟨⟨some "v.yml", some "app0", some "production", false, none⟩, by decide +kernel⟩

/-- Without the broken file the environment says what is checked, and with it nobody does. -/
theorem brokenProject_environment_counts :
    bareStageCheck.SettingsLoad sufficientEnvironment mendedProjectFiles
      ∧ (bareStageCheck.settings sufficientEnvironment mendedProjectFiles).stage
        = some "production"
      ∧ bareStageCheck.run sufficientEnvironment mendedProjectFiles
        = ⟨0, "Deployment stage: production\n----------------------------\n"
          ++ "OK: Deployment configuration is valid\n", ""⟩
      ∧ ¬ bareStageCheck.SettingsLoad sufficientEnvironment brokenProjectFiles
      ∧ (bareStageCheck.settings sufficientEnvironment brokenProjectFiles).stage
        ≠ some "production"
      ∧ bareStageCheck.run sufficientEnvironment brokenProjectFiles
        = bareStageCheck.run (.ofList [("HOME", "home")]) brokenProjectFiles
      ∧ (bareStageCheck.style sufficientEnvironment brokenProjectFiles).colored = true := by
  obtain ⟨hmended, hfilled, -, -, -⟩ :=
    environment_counts_iff sufficientEnvironment mendedProjectFiles bareStageCheck
  obtain ⟨hbroken, -, hlost, -, hcolored⟩ :=
    environment_counts_iff sufficientEnvironment brokenProjectFiles bareStageCheck
  have hload := settingsLoad_mendedProjectFiles
  have hfail := not_settingsLoad_brokenProjectFiles sufficientEnvironment
  refine ⟨hload, (hmended .stage "production" rfl).mpr hload, ?_, hfail,
    fun h => hfail ((hbroken .stage "production" rfl).mp h), ?_, ?_⟩
  · rw [← hfilled hload]
    decide +kernel
  · exact (hlost hfail (.ofList [("HOME", "home")]) rfl rfl).symm
  · exact Bool.of_not_eq_false fun h => hfail ((hcolored "1" rfl rfl rfl).mp h)

/-- The environment says everything, but the run complains that nothing is said, and in colours. -/
theorem brokenProject_environment_lost :
    sufficientEnvironment "SDAF_HOSTS_VARS" = some "v.yml"
      ∧ sufficientEnvironment "SDAF_HOSTS_NO_COLOR" = some "1"
      ∧ (bareStageCheck.settings sufficientEnvironment brokenProjectFiles).varsFile = none
      ∧ (bareStageCheck.settings sufficientEnvironment brokenProjectFiles).stage = none
      ∧ bareStageCheck.run sufficientEnvironment brokenProjectFiles
        = ⟨2, "", "Warning: Failed to load config: <detail>\n\x1b[1;31mERROR:\x1b[0m "
          ++ "No variables file given and none configured (set SDAF_HOSTS_VARS)\n"⟩ :=
  ⟨rfl, rfl, by decide +kernel, by decide +kernel, by decide +kernel⟩

end HostsBlock
