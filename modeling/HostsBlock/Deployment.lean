import HostsBlock.Role

/-!
# Deployments

What a landscape looks like apart from its hosts and subnets: its names, which parts are spread over
several hosts or highly available, and where the load balancers are. Highly available parts are
reached under a virtual host name, which follows a fixed pattern unless it is set.
-/

namespace HostsBlock

/-- The settings of a landscape. -/
structure Deployment where
  /-- The system's identifier, in upper case when it comes from a record. -/
  sapSid : String
  /-- The domain behind every host name. -/
  sapFqdn : String
  /-- The database's identifier, in upper case when it comes from a record. -/
  dbSid : String
  scaleOut : Bool
  dbHighAvailability : Bool
  dbInstanceNumber : String
  dbLoadBalancer : Option String
  scsHighAvailability : Bool
  scsInstanceNumber : String
  ersInstanceNumber : String
  scsLoadBalancer : Option String
  ersLoadBalancer : Option String
  /-- The host names that are set for the whole run. -/
  custom : CustomNames
deriving DecidableEq

namespace Deployment

/-- The settings of a record. -/
def ofRecord (r : Record) : Deployment where
  sapSid := Text.upper (r.text .sapSid "")
  sapFqdn := r.text .sapFqdn ""
  dbSid := Text.upper (r.text .dbSid "")
  scaleOut := r.bool .scaleOut false
  dbHighAvailability := r.bool .dbHighAvailability false
  dbInstanceNumber := r.instanceNumber .dbInstanceNumber "00"
  dbLoadBalancer := r.nonBlank? .dbLoadBalancer
  scsHighAvailability := r.bool .scsHighAvailability false
  scsInstanceNumber := r.instanceNumber .scsInstanceNumber "00"
  ersInstanceNumber := r.instanceNumber .ersInstanceNumber "01"
  scsLoadBalancer := r.nonBlank? .scsLoadBalancer
  ersLoadBalancer := r.nonBlank? .ersLoadBalancer
  custom := .ofRecord r

/-- A host name with the domain behind it. -/
def qualify (d : Deployment) (name : String) : String := name ++ "." ++ d.sapFqdn

/-- The host name of the central services. -/
def scsName (d : Deployment) : String :=
  (d.custom.get? .scs).getD (Text.lower d.sapSid ++ "scs" ++ d.scsInstanceNumber ++ "cl1")

/-- The host name of the enqueue replication. -/
def ersName (d : Deployment) : String :=
  (d.custom.get? .ers).getD (Text.lower d.sapSid ++ "ers" ++ d.ersInstanceNumber ++ "cl2")

/-- The host name of the database. -/
def dbName (d : Deployment) : String :=
  (d.custom.get? .db).getD
    (Text.lower d.sapSid ++ Text.lower d.dbSid ++ "db" ++ d.dbInstanceNumber ++ "cl")

end Deployment

end HostsBlock
