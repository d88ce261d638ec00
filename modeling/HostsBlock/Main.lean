import HostsBlock.Command.Run

/-!
# The program

A run is a function of the command line, the environment and the files. This module collects what
that function looks at, and does what it says: it prints two texts and leaves an exit code.

Which files are looked at depends on the settings, and these are files themselves. So the settings
are read first, and then what they and the command line name.
-/

namespace HostsBlock

/-- The variables of the environment that matter. -/
def environmentNames : List String :=
  [ "HOME", "NO_COLOR", "SDAF_HOSTS_CONFIG", "SDAF_HOSTS_HOST", "SDAF_HOSTS_LOG_LEVEL",
    "SDAF_HOSTS_NO_COLOR", "SDAF_HOSTS_STAGE", "SDAF_HOSTS_VARS" ]

/-- The environment of the process. -/
def readEnvironment : IO Environment := do
  let values ← environmentNames.mapM fun name => return (name, ← IO.getEnv name)
  return fun name => (values.lookup name).join

/-- What an error of the system says about a file. The number of an error may come negated. -/
def FileError.ofSystem : IO.Error → FileError
  | .inappropriateType _ number _ =>
    if number = 20 || number = -20 then .notDirectory else .isDirectory
  | .invalidArgument .. | .resourceExhausted .. => .nameTooLong
  | .permissionDenied .. => .denied
  | _ => .notFound

/-- The text at a path. -/
def readText (path : String) : IO (Except FileError String) := do
  if path.contains '\x00' then return .error .badPath
  try
    let octets ← IO.FS.readBinFile path
    return (String.fromUTF8? octets).elim (.error .notText) .ok
  catch e => return .error (.ofSystem e)

/-- The texts at some paths. -/
def readFiles (paths : List String) : IO Files := do
  let contents ← paths.mapM fun path => return (path, ← readText path)
  return fun path => (contents.lookup path).getD (.error .notFound)

/-- Prints what a run leaves behind. -/
def finish (outcome : Outcome) : IO UInt32 := do
  IO.print outcome.output
  IO.eprint outcome.errorOutput
  return .ofNat outcome.exitCode

end HostsBlock

open HostsBlock in
/-- Runs the program on a command line. -/
def main (args : List String) : IO UInt32 := do
  let env ← readEnvironment
  match Arguments.parse (env "SDAF_HOSTS_CONFIG") args with
  | .error stop => finish (.ofStop stop)
  | .ok i =>
    let configPaths := Settings.paths env i.config
    let (settings, _) := settingsOf env (← readFiles configPaths) i.config
    finish (i.run env (← readFiles (configPaths ++ i.variableFiles settings)))
