import HostsBlock.HostEntries

/-!
# Sections

A block consists of sections between comment lines that say where each begins and ends. The main
section has further comments at its head and holds the entries of the hosts. The sections of the
virtual host names, one for the central services and one for the database, follow behind a blank
line each.
-/

namespace HostsBlock

/-- A section of virtual host names. -/
structure Section where
  /-- What the comment lines at both ends say. -/
  title : String
  entries : List Entry
deriving DecidableEq

namespace Section

/-- The comment line in front of a section. -/
def beginLine (title : String) : String := "# BEGIN " ++ title

/-- The comment line behind a section. -/
def endLine (title : String) : String := "# END " ++ title

/-- The lines of a section. -/
def lines (s : Section) : List String :=
  beginLine s.title :: s.entries.map Entry.line ++ [endLine s.title]

/-- The entry of a load balancer, if its address is given and is one. -/
def balancerLine? (d : Deployment) (address : Option String) (name : String) : Option Entry :=
  address.bind fun address => (Host.entry d address name).checked?

/-- The section of the central services, which is there when they are highly available. -/
def scsErs? (d : Deployment) : Option Section :=
  if d.scsHighAvailability then
    some
      { title := "ASCS/ERS Entries " ++ d.scsName
        entries := (balancerLine? d d.scsLoadBalancer d.scsName).toList
          ++ (balancerLine? d d.ersLoadBalancer d.ersName).toList }
  else none

/-- The section of the database, which is there when it is highly available and its entry is. -/
def database? (d : Deployment) : Option Section :=
  if d.dbHighAvailability then
    (balancerLine? d d.dbLoadBalancer d.dbName).map fun entry =>
      { title := "DB Entries " ++ d.dbName, entries := [entry] }
  else none

/-- The sections of virtual host names. -/
def virtual (d : Deployment) : List Section := (scsErs? d).toList ++ (database? d).toList

/-! ## The main section -/

/-- What the comment lines at both ends of the main section say. -/
def mainTitle (d : Deployment) : String := "ANSIBLE MANAGED BLOCK - " ++ d.sapSid

/-- A truth value in a comment. -/
def flag (b : Bool) : String := if b then "True" else "False"

/-- The comment on the isolation. -/
def isolationLine : Isolation → String
  | .filtered => "# Network isolation: filtered view (client subnet only)"
  | .full => "# Network isolation: full view (database host)"

/-- The comments at the head of the main section. -/
def header (d : Deployment) (subnets : Subnets) (hostCount : Nat) (isolation : Option Isolation) :
    List String :=
  [ beginLine (mainTitle d),
    "# SID: " ++ d.sapSid,
    "# " ++ toString hostCount ++ " Hosts",
    "# Scale out: " ++ flag d.scaleOut,
    "# High availability: " ++ flag d.dbHighAvailability ]
    ++ Subnet.all.map (fun kind =>
      "# Subnet " ++ kind.label ++ " valid: " ++ flag (subnets.isPresent kind))
    ++ (isolation.map isolationLine).toList

end Section

end HostsBlock
