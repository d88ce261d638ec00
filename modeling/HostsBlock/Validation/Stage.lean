import HostsBlock.Deployment

/-!
# Checking a stage of the deployment

What can be said about the load balancers depends on how far the deployment is. Before the cluster
is up, their addresses must be set; once it is up, they should answer.
-/

namespace HostsBlock

/-- How far a deployment is. -/
inductive Stage where
  | preCluster
  | postCluster
  | production
deriving DecidableEq

namespace Stage

/-- The name of a stage. -/
def name : Stage → String
  | .preCluster => "pre_cluster"
  | .postCluster => "post_cluster"
  | .production => "production"

/-- The stage that a text names, in any case and with hyphens or underscores. -/
def parse? (s : String) : Option Stage :=
  let word := String.ofList
    ((Text.lower (Text.trim s)).toList.map fun c => if c = '-' then '_' else c)
  [.preCluster, .postCluster, .production].find? fun stage => stage.name == word

/-- What is said of a text that names no stage. -/
def errorMessage (s : String) : String :=
  "Unknown deployment stage '" ++ s ++ "': expected pre_cluster, post_cluster or production"

end Stage

/-- What is wrong at a stage. -/
inductive StageError where
  /-- The central services are highly available without both load balancers. -/
  | scsBalancerMissing
  /-- The database is highly available without load balancer. -/
  | dbBalancerMissing
deriving DecidableEq

/-- The words for an error. -/
def StageError.message : StageError → String
  | .scsBalancerMissing => "SCS HA enabled but load balancer IPs not configured"
  | .dbBalancerMissing => "Database HA enabled but load balancer IP not configured"

/-- What is worth knowing at a stage. -/
inductive StageWarning where
  /-- The load balancers of the central services cannot answer yet. -/
  | balancersNotActive
  /-- The load balancers should answer. -/
  | balancersShouldAnswer
deriving DecidableEq

/-- The words for a warning. -/
def StageWarning.message : StageWarning → String
  | .balancersNotActive =>
    "Load balancer IPs configured but not yet active (expected at pre-cluster stage)"
  | .balancersShouldAnswer =>
    "Post-cluster stage: Load balancer IPs should now be responsive"

/-- What is found about a deployment at a stage. -/
structure StageReport where
  errors : List StageError
  warnings : List StageWarning
  stage : Stage
deriving DecidableEq

/-- Whether no errors are found. -/
def StageReport.isValid (r : StageReport) : Bool := r.errors.isEmpty

namespace Deployment

/-- Whether both load balancers of the central services are set. -/
def hasScsBalancers (d : Deployment) : Bool := d.scsLoadBalancer.isSome && d.ersLoadBalancer.isSome

/-- Everything that is found at a stage. -/
def validate (d : Deployment) (stage : Stage) : StageReport :=
  match stage with
  | .preCluster =>
    { errors := (if d.scsHighAvailability && !d.hasScsBalancers then [.scsBalancerMissing] else [])
        ++ (if d.dbHighAvailability && d.dbLoadBalancer.isNone then [.dbBalancerMissing] else [])
      warnings := if d.scsHighAvailability && d.hasScsBalancers then [.balancersNotActive] else []
      stage }
  | .postCluster => { errors := [], warnings := [.balancersShouldAnswer], stage }
  | .production => { errors := [], warnings := [], stage }

end Deployment

end HostsBlock
