import HostsBlock.Command.Arguments
import HostsBlock.Command.Style
import HostsBlock.Record.Loading
import HostsBlock.Report
import HostsBlock.Settings.Loading

/-!
# Running a command

A run is a function of the command line, the environment and the files. It gives an exit code and
two texts, one for the output and one for the error output.

First comes an answer, which does not depend on how it will be shown; then the answer is shown in
the form that is asked for. The exit code is 0 for an answer that says all is well, 1 for a report
with errors, and 2 when there is no answer.
-/

namespace HostsBlock

/-! ## Answers -/

/-- Why there is no answer. -/
inductive Failure where
  | noVariables
  | load (e : LoadError)
  | extra (expression : String) (e : LoadError)
  | badStage (text : String)
deriving DecidableEq

/-- The words for a failure. -/
def Failure.message : Failure → String
  | .noVariables => "No variables file given and none configured (set SDAF_HOSTS_VARS)"
  | .load e => e.message
  | .extra expression e => "Failed to apply extra variable '" ++ expression ++ "': " ++ e.message
  | .badStage text => "Invalid --stage value '" ++ text ++ "': " ++ Stage.errorMessage text

/-- The answer to a command. -/
inductive Answer where
  | block (r : Rendering)
  | network (r : NetworkReport)
  | stage (r : StageReport)
  | entry (e : Entry)

/-- What comes of a command: what there is to say on the way, and the answer. -/
structure Progress where
  notes : List String
  answer : Except Failure Answer

namespace Command

/-- The file of variables that a command works on; `configured` is the one in the settings. -/
def varsFile? (configured : Option String) : Command → Option String
  | .generate named _ | .validateNetwork named | .validateStage named _ => named.or configured
  | .formatEntry _ => none

/-- The record of a file with extra variables applied. -/
def loadRecord (files : Files) (path : String) (extra : List String) : Except Failure Record := do
  let r ← (Record.ofFile files path).mapError .load
  extra.foldlM (fun r expression =>
    (r.applyExtra files expression).mapError (.extra expression)) r

/-- The answer that is made from the record of a file. -/
def withRecord (files : Files) (path : Option String) (extra : List String)
    (answer : Record → List String × Answer) : Progress :=
  match path with
  | none => ⟨[], .error .noVariables⟩
  | some path =>
    let note := "Loading variables from " ++ path
    match loadRecord files path extra with
    | .error e => ⟨[note], .error e⟩
    | .ok r => ⟨note :: (answer r).1, .ok (answer r).2⟩

/-- The rendering of a record for a host, or for the host that the record is about. -/
def renderingFor (host : Option String) (r : Record) : Rendering :=
  match host with
  | some name => (Rendering.ofRecord r).withViewer name
  | none => .ofRecord r

/-- A block, and for whom it is made. -/
def block (r : Rendering) : List String × Answer :=
  (r.viewer.toList.map fun v => "Rendering hosts block for " ++ v.name, .block r)

/-- The stage that is named, or the first one. -/
def stageOf (text : Option String) : Except Failure Stage :=
  match text with
  | none => .ok .preCluster
  | some text => (Stage.parse? text).elim (.error (.badStage text)) .ok

/-- What comes of a command. What the command line says wins over the settings. -/
def progress (c : Command) (s : Settings) (files : Files) (extra : List String) : Progress :=
  let withRecord := withRecord files (c.varsFile? s.varsFile) extra
  match c with
  | .generate _ host => withRecord fun r => block (renderingFor (host.or s.host) r)
  | .validateNetwork _ => withRecord fun r => ([], .network (Subnets.ofRecord r).validate)
  | .validateStage _ stage =>
    match stageOf (stage.or s.stage) with
    | .error e => ⟨[], .error e⟩
    | .ok stage => withRecord fun r => ([], .stage ((Deployment.ofRecord r).validate stage))
  | .formatEntry entry => ⟨[], .ok (.entry entry)⟩

end Command

/-! ## Showing an answer -/

namespace Answer

/-- The exit code of an answer. -/
def exitCode : Answer → Nat
  | .network r => if r.isValid then 0 else 1
  | .stage r => if r.isValid then 0 else 1
  | .block _ | .entry _ => 0

/-- The report for programs. -/
def report : Answer → Report
  | .block r => .ofRendering r
  | .network r => .ofNetwork r
  | .stage r => .ofStage r
  | .entry e => .ofEntry e

/-- Lines, each with its end. -/
def unlines (lines : List String) : String := String.join (lines.map (· ++ "\n"))

/-- The result of a check for people. -/
def checked (s : Style) (what : String) (errorCount : Nat) : String :=
  s.verdict (errorCount = 0)
    (if errorCount = 0 then what ++ " is valid"
      else what ++ " is invalid (" ++ toString errorCount ++ " error(s))")

/-- The output for people. -/
def humanText (s : Style) : Answer → String
  | .block r => unlines r.lines
  | .network r =>
    s.title "Network configuration" ++ checked s "Network configuration" r.errors.length
  | .stage r =>
    s.title ("Deployment stage: " ++ r.stage.name)
      ++ checked s "Deployment configuration" r.errors.length
  | .entry e => unlines [e.line]

/-- The messages for people: errors first, then warnings. -/
def messages : Answer → List (Severity × String)
  | .network r =>
    r.errors.map (fun e => (.error, e.message)) ++ r.warnings.map fun w => (.warning, w.message)
  | .stage r =>
    r.errors.map (fun e => (.error, e.message)) ++ r.warnings.map fun w => (.warning, w.message)
  | .block _ | .entry _ => []

/-- The output. -/
def output (s : Style) (a : Answer) : String :=
  match s.format with
  | .human => a.humanText s
  | .json => a.report.json
  | .yaml => a.report.yaml

/-- The error output. -/
def errorOutput (s : Style) (a : Answer) : String :=
  match s.format with
  | .human => String.join (a.messages.map fun (severity, text) => s.messageLine severity text)
  | .json | .yaml => ""

end Answer

/-! ## Runs -/

/-- What a run leaves behind. -/
structure Outcome where
  exitCode : Nat
  output : String
  errorOutput : String
deriving DecidableEq

namespace Outcome

/-- What comes of a command, shown in a style. -/
def ofProgress (s : Style) (p : Progress) : Outcome :=
  match p.answer with
  | .ok a => ⟨a.exitCode, a.output s, s.infoLines p.notes ++ a.errorOutput s⟩
  | .error e => ⟨2, "", s.infoLines p.notes ++ s.messageLine .error e.message⟩

/-- How to use the program. -/
def helpText : String :=
  "Usage: sdaf-hosts [OPTIONS] <generate|validate-network|validate-stage|format-entry> [ARGS]\n"

/-- What is left behind where a command line leads to no invocation. -/
def ofStop : Arguments.Stop → Outcome
  | .usage => ⟨2, "", "<usage error>\n"⟩
  | .help => ⟨0, helpText, ""⟩
  | .version verb =>
    let name := verb.elim programName fun v => programName ++ "-" ++ v.name
    ⟨0, name ++ " " ++ programVersion ++ "\n", ""⟩

end Outcome

/-- The settings of a run, and a warning if they could not be loaded. -/
def settingsOf (env : Environment) (files : Files) (named : Option String) : Settings × String :=
  match Settings.load env files named with
  | .ok s => (s, "")
  | .error e => (.standard, "Warning: Failed to load config: " ++ e.message ++ "\n")

/-- The style that the command line, the settings and the environment ask for. -/
def styleOf (env : Environment) (i : Invocation) (s : Settings) : Style where
  colored := !i.noColor && s.colors && (env "NO_COLOR").isNone
  format := i.format
  verbosity := i.verbosity

/-- The files of variables that an invocation may read. -/
def Invocation.variableFiles (i : Invocation) (s : Settings) : List String :=
  (i.command.varsFile? s.varsFile).toList ++ i.extra.filterMap Record.extraFile?

/-- Runs an invocation. -/
def Invocation.run (env : Environment) (files : Files) (i : Invocation) : Outcome :=
  let (settings, warning) := settingsOf env files i.config
  let outcome := Outcome.ofProgress (styleOf env i settings)
    (i.command.progress settings files i.extra)
  { outcome with errorOutput := warning ++ outcome.errorOutput }

/-- Runs the program. -/
def run (env : Environment) (files : Files) (args : List String) : Outcome :=
  match Arguments.parse (env "SDAF_HOSTS_CONFIG") args with
  | .ok i => i.run env files
  | .error stop => .ofStop stop

end HostsBlock
