import HostsBlock.Files
import HostsBlock.Settings.Source

/-!
# Loading settings

Settings are read from the file that is named, or else from the places where such files usually lie:
first that of the whole system, then that of the user, at last that of the project. A file that is
not there is passed over. One that cannot be read or understood is an error, and then nothing is
loaded at all, not even what the environment sets.
-/

namespace HostsBlock

/-- Why no settings were loaded. -/
inductive SettingsError where
  /-- The file at a path cannot be read. -/
  | unreadable (path : String)
  /-- The file at a path can be understood in none of the formats. -/
  | unknownFormat (path : String)
  /-- The file is not what its name says. -/
  | malformed
deriving DecidableEq

/-- The words for an error. What exactly is wrong with a text is left open. -/
def SettingsError.message : SettingsError → String
  | .unreadable path => "Failed to read config file: " ++ path
  | .unknownFormat path => "Failed to parse config file: " ++ path
  | .malformed => "<detail>"

namespace Settings

/-- The settings of a text, in the format that the file's name tells. Without a known one both TOML
and YAML are tried. -/
def layer (path text : String) : Except SettingsError SettingsLayer :=
  let known (layer : Option SettingsLayer) := layer.elim (.error .malformed) .ok
  match Files.extension? path with
  | some "yml" | some "yaml" => known (SettingSource.layerOfYaml? text)
  | some "json" => known (SettingSource.layerOfJson? text)
  | some "toml" => known (SettingSource.layerOfToml? text)
  | _ =>
    match SettingSource.layerOfToml? text with
    | some layer => .ok layer
    | none => (SettingSource.layerOfYaml? text).elim (.error (.unknownFormat path)) .ok

/-- The settings of the file at a path, if there is one. -/
def layerAt (files : Files) (path : String) : Except SettingsError (Option SettingsLayer) :=
  if files.contains path then
    match files path with
    | .ok text => (layer path text).map some
    | .error _ => .error (.unreadable path)
  else .ok none

/-- A path inside a directory. -/
def inside (directory name : String) : String :=
  if directory.endsWith "/" then directory ++ name else directory ++ "/" ++ name

/-- The files that are looked for, in the order in which they are read. -/
def paths (env : Environment) (named : Option String) : List String :=
  match named with
  | some path => [path]
  | none =>
    "/etc/sdaf-hosts/sdaf-hosts.toml"
      :: ((env "HOME").filter (!·.isEmpty)).toList.map (inside · ".sdaf-hosts.toml")
      ++ ["sdaf-hosts.toml"]

/-- The settings that the files and the environment give. -/
def load (env : Environment) (files : Files) (named : Option String) :
    Except SettingsError Settings := do
  let layers ← (paths env named).mapM (layerAt files)
  let settings := (layers.filterMap id).foldl withLayer standard
  pure (settings.withEnvironment env)

end Settings

end HostsBlock
