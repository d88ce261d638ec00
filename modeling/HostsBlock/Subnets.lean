import HostsBlock.Network
import HostsBlock.Record.Key

/-!
# Subnets

A landscape has up to three subnets: one for the traffic between databases, one for their storage
and one for clients. Each is given by a network as a text, which may be missing or blank and may be
none at all; an address is then in no such subnet.
-/

namespace HostsBlock

/-- The subnets of a landscape. -/
inductive Subnet where
  | database
  | storage
  | client
deriving DecidableEq

namespace Subnet

/-- All subnets, in the order in which addresses are classified. -/
def all : List Subnet := [.database, .storage, .client]

/-- The key of a subnet's network. -/
def key : Subnet → Key
  | .database => .ofName "subnet_cidr_db"
  | .storage => .ofName "subnet_cidr_storage"
  | .client => .ofName "subnet_cidr_client"

/-- A subnet's short name in the head of a block. -/
def label : Subnet → String
  | .database => "DB"
  | .storage => "Storage"
  | .client => "Client"

/-- A subnet's name inside a sentence. -/
def description : Subnet → String
  | .database => "database"
  | .storage => "storage"
  | .client => "client"

/-- A subnet's name at the start of a sentence. -/
def title : Subnet → String
  | .database => "Database"
  | .storage => "Storage"
  | .client => "Client"

end Subnet

/-- The networks of the subnets as texts. -/
structure Subnets where
  database : Option String
  storage : Option String
  client : Option String
deriving DecidableEq

namespace Subnets

/-- No subnet at all. -/
def none : Subnets := ⟨.none, .none, .none⟩

/-- The subnets of a record. -/
def ofRecord (r : Record) : Subnets where
  database := r.nonBlank? Subnet.database.key
  storage := r.nonBlank? Subnet.storage.key
  client := r.nonBlank? Subnet.client.key

/-- What is given for a subnet, blank or not. -/
def given? (s : Subnets) : Subnet → Option String
  | .database => s.database
  | .storage => s.storage
  | .client => s.client

/-- The network of a subnet, unless it is blank. -/
def cidr? (s : Subnets) (kind : Subnet) : Option String :=
  (s.given? kind).filter (!Text.isBlankText ·)

/-- Whether there is a network for a subnet. -/
def isPresent (s : Subnets) (kind : Subnet) : Bool := (s.cidr? kind).isSome

/-- The place of an address with respect to a subnet; outside if there is no network for it. -/
def membership (s : Subnets) (kind : Subnet) (address : String) : Membership :=
  match s.cidr? kind with
  | some cidr => HostsBlock.membership address cidr
  | .none => .notMember

/-- Whether an address lies in a subnet. -/
def contains (s : Subnets) (kind : Subnet) (address : String) : Bool :=
  s.membership kind address == .member

end Subnets

end HostsBlock
