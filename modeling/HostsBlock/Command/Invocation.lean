import HostsBlock.Entry

/-!
# Invocations

What a command line asks for. There are four commands; three of them work on a file of variables,
which may be changed by extra variables, and one only formats an entry.
-/

namespace HostsBlock

/-- The name of the program. -/
def programName : String := "sdaf-hosts"

/-- The version of the program. -/
def programVersion : String := "0.1.0"

/-- The form of the output. -/
inductive OutputFormat where
  | human
  | json
  | yaml
deriving DecidableEq

/-- The form of a name. -/
def OutputFormat.ofName? (name : String) : Option OutputFormat :=
  if name = "human" then some .human
  else if name = "json" then some .json
  else if name = "yaml" then some .yaml
  else none

/-- What a command does. -/
inductive Verb where
  | generate
  | validateNetwork
  | validateStage
  | formatEntry
deriving DecidableEq

namespace Verb

/-- All verbs. -/
def all : List Verb := [.generate, .validateNetwork, .validateStage, .formatEntry]

/-- The name of a verb on the command line. -/
def name : Verb → String
  | .generate => "generate"
  | .validateNetwork => "validate-network"
  | .validateStage => "validate-stage"
  | .formatEntry => "format-entry"

/-- The verb of a name. -/
def ofName? (s : String) : Option Verb := all.find? fun v => v.name == s

end Verb

/-- A command. -/
inductive Command where
  /-- Makes a block from a file of variables for a host. -/
  | generate (varsFile host : Option String)
  /-- Checks the subnets in a file of variables. -/
  | validateNetwork (varsFile : Option String)
  /-- Checks a stage of the deployment in a file of variables. -/
  | validateStage (varsFile stage : Option String)
  /-- Formats an entry. -/
  | formatEntry (entry : Entry)
deriving DecidableEq

/-- Everything that a command line says. -/
structure Invocation where
  command : Command
  /-- The extra variables, those before the command first. -/
  extra : List String
  /-- How much is reported about the run, from 0 to 3. -/
  verbosity : Nat
  format : OutputFormat
  /-- The file of settings that is named. -/
  config : Option String
  noColor : Bool
deriving DecidableEq

end HostsBlock
