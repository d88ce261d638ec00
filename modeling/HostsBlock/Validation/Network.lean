import HostsBlock.Subnets

/-!
# Checking the subnets

A subnet whose network is none is an error; two subnets that share an address are worth a warning.
Every subnet and every pair is looked at, whatever is found before.
-/

namespace HostsBlock

/-- A subnet whose text is no network. -/
structure BadNetwork where
  subnet : Subnet
  cidr : String
deriving DecidableEq

/-- The words for an error. -/
def BadNetwork.message (e : BadNetwork) : String :=
  "Invalid " ++ e.subnet.key.name ++ ": " ++ e.cidr ++ " - " ++ Network.errorMessage e.cidr

/-- Two subnets that share an address. -/
structure Overlap where
  first : Subnet
  firstCidr : String
  second : Subnet
  secondCidr : String
deriving DecidableEq

/-- The words for a warning. -/
def Overlap.message (o : Overlap) : String :=
  o.first.title ++ " and " ++ o.second.description ++ " subnets overlap: " ++ o.firstCidr ++ " and "
    ++ o.secondCidr

/-- What is found about the subnets. -/
structure NetworkReport where
  /-- Whether no errors are found. -/
  isValid : Bool
  errors : List BadNetwork
  warnings : List Overlap
deriving DecidableEq

namespace NetworkReport

/-- The report that finds nothing. -/
def clean : NetworkReport := ⟨true, [], []⟩

/-- The report with another error. -/
def addError (r : NetworkReport) (e : BadNetwork) : NetworkReport :=
  { r with isValid := false, errors := r.errors ++ [e] }

end NetworkReport

/-- A subnet with the network that its text stands for. -/
structure ReadSubnet where
  subnet : Subnet
  cidr : String
  network : Network

namespace ReadSubnet

/-- The warning about two subnets. -/
def overlap? (a b : ReadSubnet) : Option Overlap :=
  if a.network.overlaps b.network then some ⟨a.subnet, a.cidr, b.subnet, b.cidr⟩ else none

/-- The warnings about each subnet and the ones behind it. -/
def overlaps : List ReadSubnet → List Overlap
  | [] => []
  | a :: rest => rest.filterMap a.overlap? ++ overlaps rest

end ReadSubnet

namespace Subnets

/-- Looks at one subnet: either its error goes into the report or its network to those that were
read. -/
def inspect (s : Subnets) (found : NetworkReport × List ReadSubnet) (kind : Subnet) :
    NetworkReport × List ReadSubnet :=
  match s.cidr? kind with
  | .none => found
  | some cidr =>
    match Network.parse? cidr with
    | some network => (found.1, found.2 ++ [⟨kind, cidr, network⟩])
    | .none => (found.1.addError ⟨kind, cidr⟩, found.2)

/-- Everything that is found about the subnets. -/
def validate (s : Subnets) : NetworkReport :=
  let (report, read) := Subnet.all.foldl s.inspect (.clean, [])
  { report with warnings := report.warnings ++ ReadSubnet.overlaps read }

end Subnets

end HostsBlock
