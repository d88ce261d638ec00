import HostsBlock.Record.Loading
import HostsBlock.Report
import HostsBlock.Template.Text

/-!
# Filters for templates

A template can have a block made, an entry formatted and a record checked. A filter is applied to a
value, which may be undefined, with further arguments behind it. It first looks at how many there
are, then reads them, and only then does its work.
-/

namespace HostsBlock.Template

/-- A filter. -/
inductive Filter where
  | generate
  | formatEntry
  | validateNetwork
  | validateStage
deriving DecidableEq

/-- The filters that belong together. -/
inductive FilterGroup where
  | sapHosts
  | validation
deriving DecidableEq

/-- Why a filter gives no value. -/
inductive FilterError where
  | unknownFilter
  | missingArgument
  | tooManyArguments
  /-- An argument makes no sense, for a reason given in words. -/
  | invalidOperation (reason : String)
deriving DecidableEq

/-- The words for an error. -/
def FilterError.message : FilterError → String
  | .unknownFilter => "unknown filter"
  | .missingArgument => "missing argument"
  | .tooManyArguments => "too many arguments"
  | .invalidOperation reason => "invalid operation: " ++ reason

namespace Filter

/-- All filters. -/
def all : List Filter := [.generate, .formatEntry, .validateNetwork, .validateStage]

/-- The name by which a template calls a filter. -/
def name : Filter → String
  | .generate => "sdaf_generate_sap_hosts"
  | .formatEntry => "sdaf_format_hosts_entry"
  | .validateNetwork => "sdaf_validate_network_config"
  | .validateStage => "sdaf_validate_deployment_stage"

/-- The group of a filter. -/
def group : Filter → FilterGroup
  | .generate | .formatEntry => .sapHosts
  | .validateNetwork | .validateStage => .validation

/-- How many arguments a filter needs at least and takes at most. -/
def argumentCount : Filter → Nat × Nat
  | .generate => (0, 1)
  | .formatEntry => (2, 2)
  | .validateNetwork => (0, 0)
  | .validateStage => (0, 1)

/-- The record that a value stands for. -/
def record (v : Option Value) : Except FilterError Record :=
  (Record.ofValue (v.getD .null)).mapError fun e => .invalidOperation e.message

/-- The text of an optional argument; `null` stands for none. -/
def optionalText? (arguments : List Value) : Option String :=
  (arguments.head?.filter (!·.isNull)).map text

/-- The block of a record, for the host that is named unless the name is empty. -/
def generated (r : Record) (host : Option String) : List String :=
  match host.filter (!·.isEmpty) with
  | some name => ((Rendering.ofRecord r).withViewer name).lines
  | none => (Rendering.ofRecord r).lines

/-- The stage that an argument names. -/
def stage (s : Option String) : Except FilterError Stage :=
  match s with
  | none => .ok .preCluster
  | some s =>
    match Stage.parse? s with
    | some stage => .ok stage
    | none => .error (.invalidOperation (Stage.errorMessage s))

/-- Applies a filter to a value and arguments of the right number. -/
def run (f : Filter) (v : Option Value) (arguments : List Value) : Except FilterError Value :=
  match f with
  | .generate => do pure (.ofTexts (generated (← record v) (optionalText? arguments)))
  | .formatEntry =>
    let texts := arguments.map text
    pure (.string (Entry.line ⟨(v.map text).getD "", texts.headD "", texts.getD 1 ""⟩))
  | .validateNetwork => do pure (Report.ofNetwork (Subnets.ofRecord (← record v)).validate).toValue
  | .validateStage => do
    let r ← record v
    let stage ← stage (optionalText? arguments)
    pure (Report.ofStage ((Deployment.ofRecord r).validate stage)).toValue

/-- Applies the filter of a name, if it belongs to one of the groups, to a value and arguments. -/
def apply (groups : List FilterGroup) (filterName : String) (v : Option Value)
    (arguments : List Value) : Except FilterError Value :=
  match all.find? fun f => f.name == filterName && f.group ∈ groups with
  | none => .error .unknownFilter
  | some f =>
    if arguments.length < f.argumentCount.1 then .error .missingArgument
    else if f.argumentCount.2 < arguments.length then .error .tooManyArguments
    else f.run v arguments

end Filter

end HostsBlock.Template
