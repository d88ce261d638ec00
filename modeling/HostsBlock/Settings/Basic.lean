/-!
# Settings

What need not be given on the command line: a file of variables, the host for which a block is made,
a stage, and how the output looks. Settings are put together from layers, of which each sets some of
them and the later ones win, and at last from the environment.
-/

namespace HostsBlock

/-- What one file sets. -/
structure SettingsLayer where
  varsFile : Option String
  host : Option String
  stage : Option String
  /-- Whether the output has colours. -/
  colors : Option Bool
  /-- What is logged. -/
  logLevel : Option String
deriving DecidableEq

/-- The settings of a run. -/
structure Settings where
  varsFile : Option String
  host : Option String
  stage : Option String
  colors : Bool
  logLevel : Option String
deriving DecidableEq

/-- The variables of the environment. -/
abbrev Environment := String → Option String

namespace Settings

/-- The settings where nothing is set: colours are on. -/
def standard : Settings := ⟨none, none, none, true, none⟩

/-- Puts a layer on top. What it does not set stays, except that it turns colours on again unless it
turns them off. -/
def withLayer (s : Settings) (l : SettingsLayer) : Settings where
  varsFile := l.varsFile.or s.varsFile
  host := l.host.or s.host
  stage := l.stage.or s.stage
  colors := l.colors.getD true
  logLevel := l.logLevel.or s.logLevel

/-- Whether the environment asks for no colours. -/
def forbidsColors (env : Environment) : Bool :=
  (env "NO_COLOR").isSome || (env "SDAF_HOSTS_NO_COLOR").isSome

/-- Puts the environment on top. -/
def withEnvironment (s : Settings) (env : Environment) : Settings where
  varsFile := (env "SDAF_HOSTS_VARS").or s.varsFile
  host := (env "SDAF_HOSTS_HOST").or s.host
  stage := (env "SDAF_HOSTS_STAGE").or s.stage
  colors := s.colors && !forbidsColors env
  logLevel := (env "SDAF_HOSTS_LOG_LEVEL").or s.logLevel

end Settings

end HostsBlock
