import HostsBlock.Role

/-!
# Inventories

The hosts of a play as far as anything is known about them, in the order of their names. A host that
is named several times is there once, and one without variables is not there at all; but the number
of play hosts counts every name that was given.
-/

namespace HostsBlock

/-- A host. -/
structure Host where
  name : String
  /-- The addresses in the order given; the first one is the primary address. -/
  addresses : List String
  /-- What the host is used for, each tier once, in the order of first appearance. -/
  tiers : List String
  /-- The host names that are set for the roles of this host. -/
  custom : CustomNames
deriving DecidableEq

namespace Host

/-- The host of a name with a value for its variables; a value that is no object has none. -/
def ofVariables (name : String) (v : Value) : Host :=
  let r := (Record.ofValue? v).getD .empty
  { name
    addresses := r.texts .addresses
    tiers := (r.texts .tiers).eraseDups
    custom := .ofRecord r }

/-- Whether a host is used for something. -/
def hasTier (h : Host) (tier : String) : Bool := h.tiers.contains tier

/-- Whether a host is a database host. -/
def isHana (h : Host) : Bool := h.hasTier "hana"

end Host

/-- The hosts of a play. -/
structure Inventory where
  /-- How many names of play hosts were given. -/
  playHostCount : Nat
  /-- The hosts in the order of their names. -/
  hosts : List Host
deriving DecidableEq

namespace Inventory

/-- The inventory of hosts that are given directly; of several with one name the last counts. -/
def ofHosts (hosts : List Host) : Inventory :=
  let hosts := Keyed.ofList Host.name hosts
  ⟨hosts.length, hosts⟩

/-- The play hosts of a record that have variables. -/
def knownHosts (r : Record) : List Host :=
  (r.texts .playHosts).filterMap fun name =>
    ((r.find? .hostVariables).bind (·.member? name)).map (Host.ofVariables name)

/-- The inventory of a record. -/
def ofRecord (r : Record) : Inventory where
  playHostCount := (r.texts .playHosts).length
  hosts := Keyed.ofList Host.name (knownHosts r)

/-- The host of a name. -/
def find? (i : Inventory) (name : String) : Option Host := Keyed.find? Host.name name i.hosts

end Inventory

end HostsBlock
