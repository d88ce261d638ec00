import HostsBlock.Section

/-!
# Rendering a block

The block of a landscape, made for one of its hosts or for nobody in particular. It always comes
out: addresses that are none and settings that are missing only leave out lines.
-/

namespace HostsBlock

/-- Everything that a block depends on. -/
structure Rendering where
  deployment : Deployment
  subnets : Subnets
  inventory : Inventory
  /-- The host for which the block is made. -/
  viewer : Option Viewer

namespace Rendering

/-- The rendering for a host. -/
def withViewer (r : Rendering) (name : String) : Rendering :=
  { r with viewer := some (.resolve r.inventory name) }

/-- The rendering for nobody in particular, in which all addresses are shown. -/
def withoutViewer (r : Rendering) : Rendering := { r with viewer := none }

/-- The rendering of a record, for the host that the record is about if it names one. -/
def ofRecord (vars : Record) : Rendering :=
  let r : Rendering := ⟨.ofRecord vars, .ofRecord vars, .ofRecord vars, none⟩
  match vars.nonBlank? .inventoryHostname with
  | some name => r.withViewer name
  | none => r

/-- How database hosts are shown. -/
def isolation (r : Rendering) : Option Isolation := Isolation.forViewer? r.deployment r.viewer

/-- The entries of the hosts. -/
def hostEntries (r : Rendering) : List Entry :=
  r.inventory.entries r.deployment r.subnets r.isolation

/-- The comments at the head of the block. -/
def header (r : Rendering) : List String :=
  Section.header r.deployment r.subnets r.inventory.playHostCount r.isolation

/-- The lines of the main section. -/
def mainLines (r : Rendering) : List String :=
  r.header ++ "" :: r.hostEntries.map Entry.line
    ++ [Section.endLine (Section.mainTitle r.deployment)]

/-- The lines of the sections of virtual host names. -/
def virtualLines (r : Rendering) : List String :=
  (Section.virtual r.deployment).flatMap fun s => "" :: s.lines

/-- The lines of the block. -/
def lines (r : Rendering) : List String := r.mainLines ++ r.virtualLines

end Rendering

end HostsBlock
