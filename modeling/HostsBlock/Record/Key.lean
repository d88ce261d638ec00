import HostsBlock.Record.Basic
import HostsBlock.Value.Reading

/-!
# Looking up settings

A setting is looked up by a key. Some keys have older names, which are tried in turn when the
current name has no value; a value that is there but makes no sense does not make way for an older
name.

All keys that the program knows are declared here, each once.
-/

namespace HostsBlock

/-- The names of a setting. -/
structure Key where
  /-- The current name. -/
  name : String
  /-- Older names, in the order in which they are tried. -/
  legacy : List String

namespace Key

/-- All names of a key in the order in which they are tried. -/
def names (k : Key) : List String := k.name :: k.legacy

/-- The key of a setting that has had one name only. -/
def ofName (name : String) : Key := ⟨name, []⟩

/-- The system's identifier. -/
def sapSid : Key := ofName "sap_sid"
/-- The domain behind every host name. -/
def sapFqdn : Key := ofName "sap_fqdn"
/-- The database's identifier. -/
def dbSid : Key := ofName "db_sid"
/-- Whether the database is spread over several hosts. -/
def scaleOut : Key := ofName "database_scale_out"
/-- Whether the database is highly available. -/
def dbHighAvailability : Key := ⟨"database_high_availability", ["db_high_availability"]⟩
/-- The database's instance number. -/
def dbInstanceNumber : Key := ofName "db_instance_number"
/-- The address of the database's load balancer. -/
def dbLoadBalancer : Key := ⟨"database_loadbalancer_ip", ["db_lb_ip"]⟩
/-- Whether the central services are highly available. -/
def scsHighAvailability : Key := ofName "scs_high_availability"
/-- The instance number of the central services. -/
def scsInstanceNumber : Key := ofName "scs_instance_number"
/-- The instance number of the enqueue replication. -/
def ersInstanceNumber : Key := ofName "ers_instance_number"
/-- The address of the load balancer of the central services. -/
def scsLoadBalancer : Key := ofName "scs_lb_ip"
/-- The address of the load balancer of the enqueue replication. -/
def ersLoadBalancer : Key := ofName "ers_lb_ip"
/-- The hosts of the play. -/
def playHosts : Key := ofName "ansible_play_hosts"
/-- The variables of each host. -/
def hostVariables : Key := ofName "hostvars"
/-- The host for which a run is made. -/
def inventoryHostname : Key := ofName "inventory_hostname"
/-- The addresses of a host. -/
def addresses : Key := ofName "ipadd"
/-- What a host is used for. -/
def tiers : Key := ofName "supported_tiers"

end Key

namespace Record

/-- The value of a setting: that of the first of its names that has one. -/
def find? (r : Record) (k : Key) : Option Value := k.names.findSome? r.get?

/-- A setting as a truth value, or `default` where it is missing or makes no sense. -/
def bool (r : Record) (k : Key) (default : Bool) : Bool :=
  ((r.find? k).bind Value.bool?).getD default

/-- A setting as a text, or `default` where it is missing. -/
def text (r : Record) (k : Key) (default : String) : String :=
  ((r.find? k).map Value.text).getD default

/-- A setting as a text that is not blank. -/
def nonBlank? (r : Record) (k : Key) : Option String := (r.find? k).bind Value.nonBlank?

/-- A setting as an instance number, or `default` where it is missing or makes no sense. -/
def instanceNumber (r : Record) (k : Key) (default : String) : String :=
  ((r.find? k).bind Value.instanceNumber?).getD default

/-- A setting as a list of texts. -/
def texts (r : Record) (k : Key) : List String := ((r.find? k).map Value.texts).getD []

end Record

end HostsBlock
