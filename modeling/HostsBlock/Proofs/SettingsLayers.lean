import HostsBlock.Settings.Loading
import Mathlib.Data.List.Basic
import Mathlib.Data.List.Induction

/-!
# What the layers of settings add up to

Settings come from up to three files, each of which sets some of them, and from the environment. The
rule is that the environment wins, then the last file that sets a setting, and then what is built
in; a file that says nothing about a setting leaves it alone.

`Settings.ofLayers` is the sum of any number of layers, and what it holds is found by induction on
them. **A text follows the rule**, `TextSetting.inSettings_ofLayers`: each layer either gives a new
value or keeps the old one, so the last value that is given is there in the end. **Colours do not**,
`Settings.colors_ofLayers`: each layer turns them on unless it turns them off, so only the last file
counts. The two agree unless colours are turned off by a file behind which another one says nothing
about them.
-/

namespace HostsBlock

/-- A setting that is a text. -/
inductive TextSetting where
  | varsFile
  | host
  | stage
  | logLevel
deriving DecidableEq

namespace TextSetting

/-- What a file says about a setting. -/
def inLayer : TextSetting → SettingsLayer → Option String
  | .varsFile => (·.varsFile)
  | .host => (·.host)
  | .stage => (·.stage)
  | .logLevel => (·.logLevel)

/-- What the settings of a run say about it. -/
def inSettings : TextSetting → Settings → Option String
  | .varsFile => (·.varsFile)
  | .host => (·.host)
  | .stage => (·.stage)
  | .logLevel => (·.logLevel)

/-- The variable of the environment that sets it. -/
def environmentName : TextSetting → String
  | .varsFile => "SDAF_HOSTS_VARS"
  | .host => "SDAF_HOSTS_HOST"
  | .stage => "SDAF_HOSTS_STAGE"
  | .logLevel => "SDAF_HOSTS_LOG_LEVEL"

variable (t : TextSetting)

theorem inSettings_standard : t.inSettings .standard = none := by
  cases t <;> rfl

theorem inSettings_withLayer (s : Settings) (l : SettingsLayer) :
    t.inSettings (s.withLayer l) = (t.inLayer l).or (t.inSettings s) := by
  cases t <;> rfl

theorem inSettings_withEnvironment (s : Settings) (env : Environment) :
    t.inSettings (s.withEnvironment env) = (env t.environmentName).or (t.inSettings s) := by
  cases t <;> rfl

end TextSetting

/-! ## Layers on top of each other -/

/-- The value that the last of the layers with one gives. -/
def lastGiven {α : Type} (given : SettingsLayer → Option α) (layers : List SettingsLayer) :
    Option α :=
  (layers.filterMap given).getLast?

section

variable {α : Type} (given : SettingsLayer → Option α)

theorem lastGiven_concat (layers : List SettingsLayer) (l : SettingsLayer) :
    lastGiven given (layers ++ [l]) = (given l).or (lastGiven given layers) := by
  unfold lastGiven
  rw [List.filterMap_append, List.getLast?_append, List.filterMap_cons, List.filterMap_nil]
  cases given l <;> rfl

end

namespace Settings

/-- The settings of layers, of which the first lies at the bottom. -/
def ofLayers (layers : List SettingsLayer) : Settings := layers.foldl withLayer standard

theorem ofLayers_concat (layers : List SettingsLayer) (l : SettingsLayer) :
    ofLayers (layers ++ [l]) = (ofLayers layers).withLayer l := by
  unfold ofLayers
  rw [List.foldl_append, List.foldl_cons, List.foldl_nil]

end Settings

/-- **A text is what the last layer with one gives.** -/
theorem TextSetting.inSettings_ofLayers (t : TextSetting) (layers : List SettingsLayer) :
    t.inSettings (.ofLayers layers) = lastGiven t.inLayer layers := by
  induction layers using List.reverseRecOn with
  | nil => exact t.inSettings_standard
  | append_singleton layers l ih =>
      rw [Settings.ofLayers_concat, t.inSettings_withLayer, ih, lastGiven_concat]

namespace Settings

/-- **Colours are what the last layer says**, even if it says nothing. -/
theorem colors_ofLayers (layers : List SettingsLayer) :
    (ofLayers layers).colors = (layers.getLast?.bind (·.colors)).getD true := by
  rcases List.eq_nil_or_concat' layers with rfl | ⟨below, top, rfl⟩
  · rfl
  · -- the top layer takes the place of whatever lies below
    rw [ofLayers_concat, List.getLast?_concat, Option.bind_some]
    rfl

/-- The last layer and the last layer that mentions colours say the same, unless colours are off in
the second and not mentioned in the first. -/
theorem colors_ofLayers_eq_lastGiven_iff (layers : List SettingsLayer) :
    (ofLayers layers).colors = (lastGiven (·.colors) layers).getD true ↔
      (lastGiven (·.colors) layers = some false →
        ∃ top, layers.getLast? = some top ∧ top.colors = some false) := by
  rw [colors_ofLayers]
  rcases List.eq_nil_or_concat' layers with rfl | ⟨below, top, rfl⟩
  · exact iff_of_true rfl nofun
  · rw [lastGiven_concat, List.getLast?_concat, Option.bind_some]
    simp only [Option.some.injEq, exists_eq_left']
    -- if the top layer says nothing, the colours are on, whatever the layers below say
    cases top.colors with
    | some on => exact iff_of_true rfl id
    | none => cases lastGiven (·.colors) below with
      | none => exact iff_of_true rfl nofun
      | some on => cases on <;> simp

/-! ## Loading -/

/-- Each of the files is missing, or it can be read and understood. -/
def Loadable (files : Files) (paths : List String) : Prop :=
  ∀ path ∈ paths, ∃ layer, layerAt files path = .ok layer

/-- The layers of the files that are there and say something. -/
def layersAt (files : Files) (paths : List String) : List SettingsLayer :=
  paths.filterMap fun path => (layerAt files path).toOption.join

variable {files : Files} {paths : List String}

theorem mapM_layerAt (h : Loadable files paths) :
    paths.mapM (layerAt files) = .ok (paths.map fun path => (layerAt files path).toOption.join) := by
  induction paths with
  | nil => rfl
  | cons path paths ih =>
      obtain ⟨⟨layer, hlayer⟩, hpaths⟩ := List.forall_mem_cons.mp h
      rw [List.mapM_cons, ih hpaths, List.map_cons, hlayer]
      rfl

theorem loadable_of_mapM {layers : List (Option SettingsLayer)}
    (h : paths.mapM (layerAt files) = .ok layers) : Loadable files paths := by
  induction paths generalizing layers with
  | nil => exact List.forall_mem_nil _
  | cons path paths ih =>
      rw [List.mapM_cons] at h
      cases hlayer : layerAt files path with
      | error e =>
          rw [hlayer] at h
          cases h
      | ok layer =>
          rw [hlayer] at h
          cases hrest : paths.mapM (layerAt files) with
          | error e =>
              rw [hrest] at h
              cases h
          | ok rest => exact List.forall_mem_cons.mpr ⟨⟨layer, hlayer⟩, ih hrest⟩

theorem load_of_loadable {env : Environment} {named : Option String}
    (h : Loadable files (Settings.paths env named)) :
    load env files named
      = .ok ((ofLayers (layersAt files (Settings.paths env named))).withEnvironment env) := by
  unfold load layersAt
  rw [mapM_layerAt h]
  -- the files that are missing drop out here
  show Except.ok _ = _
  rw [List.filterMap_map]
  rfl

/-- Settings are loaded exactly if no file is in the way. -/
theorem load_eq_ok_iff {env : Environment} {named : Option String} :
    (∃ s, load env files named = .ok s) ↔ Loadable files (Settings.paths env named) := by
  constructor
  · rintro ⟨s, hs⟩
    cases hlayers : (Settings.paths env named).mapM (layerAt files) with
    | error e =>
        unfold load at hs
        rw [hlayers] at hs
        cases hs
    | ok layers => exact loadable_of_mapM hlayers
  · intro h
    exact ⟨_, load_of_loadable h⟩

end Settings

/--
**Settings in layers.** Take any environment and any files of settings that can all be loaded.

Each setting that is a text has the value of the environment, or else that of the last file that
gives one, or else none. Colours are on unless the environment forbids them or the last file turns
them off. This is the same rule as for texts except where a file turns colours off and a later file
says nothing about them: then they are on again.
-/
theorem Settings.load_layered (env : Environment) (files : Files) (named : Option String)
    (h : Loadable files (paths env named)) :
    ∃ s, load env files named = .ok s
      ∧ (∀ t : TextSetting, t.inSettings s
        = (env t.environmentName).or (lastGiven t.inLayer (layersAt files (paths env named))))
      ∧ s.colors = (!forbidsColors env
        && ((layersAt files (paths env named)).getLast?.bind (·.colors)).getD true)
      ∧ (s.colors = (!forbidsColors env
          && (lastGiven (·.colors) (layersAt files (paths env named))).getD true) ↔
        forbidsColors env = true
        ∨ (lastGiven (·.colors) (layersAt files (paths env named)) = some false →
          ∃ top, (layersAt files (paths env named)).getLast? = some top
            ∧ top.colors = some false)) := by
  refine ⟨_, load_of_loadable h, fun t => ?_, ?_, ?_⟩
  · rw [t.inSettings_withEnvironment, t.inSettings_ofLayers]
  · rw [← colors_ofLayers, Bool.and_comm]
    rfl
  · rw [← colors_ofLayers_eq_lastGiven_iff]
    show ((ofLayers _).colors && !forbidsColors env) = _ ↔ _
    -- where the environment forbids colours, both sides are off
    cases forbidsColors env with
    | true => simp
    | false => simp

/-- An environment of the given variables. -/
def Environment.ofList (values : List (String × String)) : Environment :=
  fun name => values.lookup name

/-- Files of the given texts. -/
def Files.ofList (texts : List (String × String)) : Files :=
  fun path => (texts.lookup path).elim (.error .notFound) .ok

/-- The files of a user who wants no colours and of a project that does not care. -/
def plainUserFiles : Files := .ofList
  [("home/.sdaf-hosts.toml", "[defaults]\nhost = \"app0\"\n[colors]\nenabled = false\n"),
    ("sdaf-hosts.toml", "[defaults]\nstage = \"post_cluster\"\n")]

/-- An environment that names the home of the user and a host. -/
def namedHostEnvironment : Environment := .ofList
  [("HOME", "home"), ("SDAF_HOSTS_HOST", "db0")]

theorem layersAt_plainUserFiles :
    Settings.layersAt plainUserFiles (Settings.paths namedHostEnvironment none)
      = [⟨none, some "app0", none, some false, none⟩,
        ⟨none, none, some "post_cluster", none, none⟩] := by
  decide +kernel

theorem loadable_plainUserFiles :
    Settings.Loadable plainUserFiles (Settings.paths namedHostEnvironment none) :=
  Settings.load_eq_ok_iff.mp
    ⟨⟨none, some "db0", some "post_cluster", true, none⟩, by decide +kernel⟩

/-- The environment wins over the user's file, and a text that the project's file does not mention
would stay; but the colours are on. -/
theorem plainUserFiles_layered :
    Settings.Loadable plainUserFiles (Settings.paths namedHostEnvironment none)
      ∧ ∃ s, Settings.load namedHostEnvironment plainUserFiles none = .ok s
        ∧ s.varsFile = none ∧ s.host = some "db0" ∧ s.stage = some "post_cluster"
        ∧ s.logLevel = none ∧ s.colors = true := by
  obtain ⟨s, hload, htexts, hcolors, -⟩ :=
    Settings.load_layered namedHostEnvironment plainUserFiles none loadable_plainUserFiles
  rw [layersAt_plainUserFiles] at htexts hcolors
  exact ⟨loadable_plainUserFiles, s, hload, htexts .varsFile, htexts .host, htexts .stage,
    htexts .logLevel, hcolors⟩

/-- The last file that mentions colours turns them off, nothing else is said about them, and they are
on. -/
theorem plainUserFiles_colored :
    Settings.Loadable plainUserFiles (Settings.paths namedHostEnvironment none)
      ∧ Settings.forbidsColors namedHostEnvironment = false
      ∧ lastGiven (·.colors)
          (Settings.layersAt plainUserFiles (Settings.paths namedHostEnvironment none))
        = some false
      ∧ ∃ s, Settings.load namedHostEnvironment plainUserFiles none = .ok s ∧ s.colors = true := by
  refine ⟨loadable_plainUserFiles, rfl, ?_, ⟨none, some "db0", some "post_cluster", true, none⟩, ?_,
    rfl⟩
  · rw [layersAt_plainUserFiles]
    rfl
  · decide +kernel

end HostsBlock
