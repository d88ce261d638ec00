import HostsBlock.Json.Writer
import HostsBlock.Rendering
import HostsBlock.Validation.Network
import HostsBlock.Validation.Stage
import HostsBlock.Yaml.Writer

/-!
# Reports

What a run finds out, as fields in a fixed order, for other programs to read. A report can be
written in JSON and in YAML; both hold the same fields in the same order.
-/

namespace HostsBlock

/-- The value of a field. -/
inductive ReportField where
  | text (s : String)
  | flag (b : Bool)
  | absent
  | texts (lines : List String)

/-- Fields with their names, in the order in which they are written. -/
abbrev Report := List (String × ReportField)

namespace ReportField

/-- A text or its absence. -/
def ofText? (s : Option String) : ReportField := (s.map text).getD absent

/-- The value of a field. -/
def toValue : ReportField → Value
  | .text s => .string s
  | .flag b => .bool b
  | .absent => .null
  | .texts lines => .ofTexts lines

/-- What follows the name and the colon in YAML, up to the end of the line. -/
def yaml : ReportField → List Char
  | .text s => ' ' :: Yaml.closed (Yaml.written s)
  | .flag b => ' ' :: Yaml.closed (if b then "true" else "false").toList
  | .absent => ' ' :: Yaml.closed "null".toList
  | .texts [] => ' ' :: Yaml.closed "[]".toList
  | .texts lines => '\n' :: lines.flatMap fun s => '-' :: ' ' :: Yaml.closed (Yaml.written s)

end ReportField

namespace Report

/-- The object of a report. -/
def toValue (r : Report) : Value := .object (r.map fun (name, field) => (name, field.toValue))

/-- A report in JSON. -/
def json (r : Report) : String := Json.spread r.toValue ++ "\n"

/-- A report in YAML. -/
def yaml (r : Report) : String :=
  String.ofList (r.flatMap fun (name, field) => name.toList ++ ':' :: field.yaml)

/-- The report on a block. -/
def ofRendering (r : Rendering) : Report :=
  [ ("sid", .text r.deployment.sapSid),
    ("host", .ofText? (r.viewer.map (·.name))),
    ("isolation", .ofText? (r.isolation.map (·.name))),
    ("lines", .texts r.lines) ]

/-- The report on the subnets. -/
def ofNetwork (r : NetworkReport) : Report :=
  [ ("valid", .flag r.isValid),
    ("errors", .texts (r.errors.map (·.message))),
    ("warnings", .texts (r.warnings.map (·.message))) ]

/-- The report on a stage. -/
def ofStage (r : StageReport) : Report :=
  [ ("valid", .flag r.isValid),
    ("errors", .texts (r.errors.map (·.message))),
    ("warnings", .texts (r.warnings.map (·.message))),
    ("stage", .text r.stage.name) ]

/-- The report on an entry. -/
def ofEntry (e : Entry) : Report :=
  [("ip", .text e.address), ("fqdn", .text e.fqdn), ("hostname", .text e.hostname)]

end Report

end HostsBlock
