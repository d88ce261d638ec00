import HostsBlock.Deployment
import HostsBlock.Inventory

/-!
# Isolation

In a landscape whose database is spread over several hosts, a host that is no database host should
only know the addresses of database hosts in the client subnet. So it matters for which host a block
is made.
-/

namespace HostsBlock

/-- The host for which a block is made. -/
structure Viewer where
  name : String
  isHana : Bool
deriving DecidableEq

/-- The viewer of a name; a host that is not in the inventory is no database host. -/
def Viewer.resolve (i : Inventory) (name : String) : Viewer :=
  ⟨name, (i.find? name).any Host.isHana⟩

/-- How database hosts are shown to the viewer. -/
inductive Isolation where
  /-- Only with their addresses in the client subnet. -/
  | filtered
  /-- With all their addresses. -/
  | full
deriving DecidableEq

namespace Isolation

/-- The name of a way of isolation. -/
def name : Isolation → String
  | .filtered => "filtered"
  | .full => "full"

/-- The isolation for a viewer; there is none if the database is on one host or nobody views. -/
def forViewer? (d : Deployment) (viewer : Option Viewer) : Option Isolation :=
  if d.scaleOut then viewer.map fun v => if v.isHana then .full else .filtered else none

/-- Whether a host is shown with its addresses in the client subnet only. -/
def filters (i : Isolation) (h : Host) : Bool := i == .filtered && h.isHana

end Isolation

end HostsBlock
