import HostsBlock.Entry
import HostsBlock.Isolation
import HostsBlock.Subnets

/-!
# The entries of the hosts

Each host has an entry for its primary address, further entries of the same address for the roles it
plays under a name of their own, and, as a database host among several, entries for its other
addresses in the database and storage subnets under its name with a suffix.

A host that is shown with its addresses in the client subnet only has the first of these as its
primary address, or its own if there is none, and of its other addresses only those in the client
subnet count. A host whose primary address is none, or whose name is blank, has no entries.
-/

namespace HostsBlock

/-- The addresses of a host as they are shown. -/
structure ShownAddresses where
  primary : String
  others : List String

/-- The addresses of a host as they are shown; `filtered` tells whether only those in the client
subnet count. -/
def ShownAddresses.of? (subnets : Subnets) (filtered : Bool) : List String → Option ShownAddresses
  | [] => none
  | first :: rest =>
    let inClient := subnets.contains .client
    some <| if filtered then ⟨((first :: rest).find? inClient).getD first, rest.filter inClient⟩
      else ⟨first, rest⟩

/-- The suffix for an address of a database host: one for the database subnet, else one for the
storage subnet, else none. -/
def scaleOutSuffix? (d : Deployment) (subnets : Subnets) (address : String) : Option String :=
  if subnets.contains .database address then
    some (if d.dbHighAvailability then "-hsr" else "-hana")
  else if subnets.contains .storage address then
    some (if d.dbHighAvailability then "-inter" else "-storage")
  else none

namespace Host

variable (d : Deployment) (subnets : Subnets)

/-- The entry of an address and a name in the landscape's domain. -/
def entry (address name : String) : Entry := ⟨address, d.qualify name, name⟩

/-- The names under which a host plays its roles; one that is set for the whole run wins. -/
def roleNames (h : Host) : List String :=
  (h.tiers.filterMap Role.ofTier?).filterMap fun role =>
    (d.custom.get? role).or (h.custom.get? role)

/-- The entries for the roles of a host. -/
def roleEntries (h : Host) (primary : String) : List Entry :=
  (h.roleNames d).map (entry d primary)

/-- The entries of a database host for its other addresses. -/
def suffixedEntries (h : Host) (others : List String) : List Entry :=
  if d.scaleOut && h.isHana then
    others.filterMap fun address =>
      (scaleOutSuffix? d subnets address).map fun suffix => entry d address (h.name ++ suffix)
  else []

/-- The addresses of a host as they are shown. -/
def shown? (isolation : Option Isolation) (h : Host) : Option ShownAddresses :=
  ShownAddresses.of? subnets (isolation.any (·.filters h)) h.addresses

/-- The entry for the primary address of a host. -/
def ownLine? (isolation : Option Isolation) (h : Host) : Option Entry :=
  (h.shown? subnets isolation).bind fun shown => (entry d shown.primary h.name).checked?

/-- All entries of a host. -/
def entries (isolation : Option Isolation) (h : Host) : List Entry :=
  match h.shown? subnets isolation with
  | none => []
  | some shown =>
    match (entry d shown.primary h.name).checked? with
    | none => []
    | some first =>
      first :: h.roleEntries d shown.primary ++ h.suffixedEntries d subnets shown.others

end Host

/-- The entries of all hosts, in the order of the hosts' names. -/
def Inventory.entries (i : Inventory) (d : Deployment) (subnets : Subnets)
    (isolation : Option Isolation) : List Entry :=
  i.hosts.flatMap (·.entries d subnets isolation)

end HostsBlock
