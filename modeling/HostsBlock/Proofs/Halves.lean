import HostsBlock.Proofs.Grammar
import HostsBlock.Proofs.Provenance
import HostsBlock.Proofs.Viewers

/-!
# The two halves of a block

A block has the entries of the hosts in its main section, and those of the load balancers in the
sections behind it. Both halves are made from one deployment. This file says how they share it: a
few settings are read by both, such as the domain, and every other one is read by one half only.

The halves are told apart in the lines themselves. Nothing in front of the line that closes the main
section can be taken for it, so it is where a reader looks for it, and `untilMainEnd_eq` and
`behindMainEnd_eq` say what is found on its two sides. **What concerns the load balancers alone does
not show up to this line, and what concerns the hosts or the viewer does not show behind it.**
-/

namespace HostsBlock

open Section

/-! ## What each half reads -/

/-- Agreement in everything that the main section reads. -/
structure Deployment.SameForHosts (d e : Deployment) : Prop where
  sapSid : d.sapSid = e.sapSid
  sapFqdn : d.sapFqdn = e.sapFqdn
  scaleOut : d.scaleOut = e.scaleOut
  dbHighAvailability : d.dbHighAvailability = e.dbHighAvailability
  custom : ∀ role ∈ [Role.pas, .app, .web], d.custom.get? role = e.custom.get? role

/-- Agreement in everything that the sections of the load balancers read. -/
structure Deployment.SameForBalancers (d e : Deployment) : Prop where
  sapSid : d.sapSid = e.sapSid
  sapFqdn : d.sapFqdn = e.sapFqdn
  dbSid : d.dbSid = e.dbSid
  dbHighAvailability : d.dbHighAvailability = e.dbHighAvailability
  scsHighAvailability : d.scsHighAvailability = e.scsHighAvailability
  dbInstanceNumber : d.dbInstanceNumber = e.dbInstanceNumber
  scsInstanceNumber : d.scsInstanceNumber = e.scsInstanceNumber
  ersInstanceNumber : d.ersInstanceNumber = e.ersInstanceNumber
  dbLoadBalancer : d.dbLoadBalancer = e.dbLoadBalancer
  scsLoadBalancer : d.scsLoadBalancer = e.scsLoadBalancer
  ersLoadBalancer : d.ersLoadBalancer = e.ersLoadBalancer
  custom : ∀ role ∈ [Role.scs, .ers, .db], d.custom.get? role = e.custom.get? role

theorem Host.entry_congr {d e : Deployment} (h : d.sapFqdn = e.sapFqdn) : entry d = entry e := by
  funext address name
  unfold entry Deployment.qualify
  rw [h]

namespace Deployment.SameForHosts

variable {d e : Deployment} {s : Subnets}

theorem isolation_eq (h : d.SameForHosts e) (viewer : Option Viewer) :
    Isolation.forViewer? d viewer = Isolation.forViewer? e viewer := by
  unfold Isolation.forViewer?
  rw [h.scaleOut]

theorem header_eq (h : d.SameForHosts e) (n : Nat) (isolation : Option Isolation) :
    header d s n isolation = header e s n isolation := by
  unfold header mainTitle
  rw [h.sapSid, h.scaleOut, h.dbHighAvailability]

theorem scaleOutSuffix?_eq (h : d.SameForHosts e) : scaleOutSuffix? d s = scaleOutSuffix? e s := by
  funext address
  unfold scaleOutSuffix?
  rw [h.dbHighAvailability]

/-- The tiers of a host stand for three of the six roles only. -/
theorem roleNames_eq (h : d.SameForHosts e) (k : Host) : k.roleNames d = k.roleNames e := by
  unfold Host.roleNames
  refine List.filterMap_congr ?_
  intro role hrole
  obtain ⟨tier, -, htier⟩ := List.mem_filterMap.mp hrole
  obtain ⟨hthree, -⟩ := Role.ofTier?_eq_some htier
  rw [h.custom role hthree]

theorem entries_eq (h : d.SameForHosts e) (isolation : Option Isolation) (k : Host) :
    k.entries d s isolation = k.entries e s isolation := by
  have hentry : Host.entry d = Host.entry e := Host.entry_congr h.sapFqdn
  have hroles : k.roleEntries d = k.roleEntries e := by
    funext primary
    unfold Host.roleEntries
    rw [h.roleNames_eq, hentry]
  have hsuffixed : k.suffixedEntries d s = k.suffixedEntries e s := by
    funext others
    unfold Host.suffixedEntries
    rw [h.scaleOut, h.scaleOutSuffix?_eq, hentry]
  unfold Host.entries
  rw [hentry, hroles, hsuffixed]

end Deployment.SameForHosts

namespace Deployment.SameForBalancers

variable {d e : Deployment}

theorem balancerLine?_eq (h : d.SameForBalancers e) : balancerLine? d = balancerLine? e := by
  funext address name
  unfold balancerLine?
  rw [Host.entry_congr h.sapFqdn]

theorem scsName_eq (h : d.SameForBalancers e) : d.scsName = e.scsName := by
  unfold scsName
  rw [h.custom .scs (by decide), h.sapSid, h.scsInstanceNumber]

theorem ersName_eq (h : d.SameForBalancers e) : d.ersName = e.ersName := by
  unfold ersName
  rw [h.custom .ers (by decide), h.sapSid, h.ersInstanceNumber]

theorem dbName_eq (h : d.SameForBalancers e) : d.dbName = e.dbName := by
  unfold dbName
  rw [h.custom .db (by decide), h.sapSid, h.dbSid, h.dbInstanceNumber]

theorem virtual_eq (h : d.SameForBalancers e) : Section.virtual d = Section.virtual e := by
  have hscsErs : scsErs? d = scsErs? e := by
    unfold scsErs?
    rw [h.scsHighAvailability, h.balancerLine?_eq, h.scsName_eq, h.ersName_eq, h.scsLoadBalancer,
      h.ersLoadBalancer]
  have hdatabase : database? d = database? e := by
    unfold database?
    rw [h.dbHighAvailability, h.balancerLine?_eq, h.dbName_eq, h.dbLoadBalancer]
  unfold Section.virtual
  rw [hscsErs, hdatabase]

end Deployment.SameForBalancers

/-! ## Where the main section ends -/

namespace Rendering

/-- The number of lines up to the first that closes the main section, that one included. -/
def mainLength (r : Rendering) : Nat := r.lines.idxOf (endLine (mainTitle r.deployment)) + 1

def untilMainEnd (r : Rendering) : List String := r.lines.take r.mainLength

def behindMainEnd (r : Rendering) : List String := r.lines.drop r.mainLength

theorem mainLines_eq_concat (r : Rendering) :
    r.mainLines = beginLine (mainTitle r.deployment) :: (r.header.tail ++ [""])
      ++ r.hostEntries.map Entry.line ++ [endLine (mainTitle r.deployment)] := r.mainLines_eq

theorem endLine_not_mem_front (r : Rendering) (title : String) :
    endLine title ∉ beginLine (mainTitle r.deployment) :: (r.header.tail ++ [""])
      ++ r.hostEntries.map Entry.line := by
  obtain ⟨hmain, -⟩ := List.forall_mem_cons.mp r.addressed_of_mem_sections
  intro hmem
  -- a line that closes a section is of a kind that none of these lines is of
  have hclosing := lineKind_endLine title
  rcases List.mem_append.mp hmem with hmem | hmem
  · rcases List.mem_cons.mp hmem with heq | hmem
    · rw [heq, lineKind_beginLine] at hclosing
      exact LineKind.noConfusion hclosing
    · have hskipped := r.isSkipped_before_entries _ hmem
      unfold IsSkipped at hskipped
      rw [hclosing] at hskipped
      exact hskipped.elim LineKind.noConfusion LineKind.noConfusion
  · rw [lineKind_of_mem_entries hmain _ hmem] at hclosing
    exact LineKind.noConfusion hclosing

/-- **The main section ends where a reader finds its end.** -/
theorem mainLength_eq (r : Rendering) : r.mainLength = r.mainLines.length := by
  have hfront := r.endLine_not_mem_front (mainTitle r.deployment)
  unfold mainLength lines
  rw [mainLines_eq_concat, List.append_assoc, List.idxOf_append_of_notMem hfront,
    List.singleton_append, List.idxOf_cons_self]
  simp only [List.length_append, List.length_singleton, Nat.add_zero]

theorem untilMainEnd_eq (r : Rendering) : r.untilMainEnd = r.mainLines := by
  unfold untilMainEnd lines
  rw [mainLength_eq, List.take_left]

theorem behindMainEnd_eq (r : Rendering) : r.behindMainEnd = r.virtualLines := by
  unfold behindMainEnd lines
  rw [mainLength_eq, List.drop_left]

theorem mainLines_congr {r t : Rendering} (hdeployment : r.deployment.SameForHosts t.deployment)
    (hsubnets : r.subnets = t.subnets) (hinventory : r.inventory = t.inventory)
    (hviewer : r.viewer = t.viewer) : r.mainLines = t.mainLines := by
  have hisolation : r.isolation = t.isolation := by
    unfold isolation
    rw [hdeployment.isolation_eq, hviewer]
  have hheader : r.header = t.header := by
    unfold header
    rw [hdeployment.header_eq, hsubnets, hinventory, hisolation]
  have hentries : r.hostEntries = t.hostEntries := by
    unfold hostEntries Inventory.entries
    rw [hsubnets, hinventory, hisolation]
    exact List.flatMap_congr fun k _ => hdeployment.entries_eq t.isolation k
  unfold mainLines mainTitle
  rw [hheader, hentries, hdeployment.sapSid]

end Rendering

/--
**The halves of a block are independent.** Take any two blocks.

If their deployments agree in the system's identifier and domain, in the two flags of the database
and in the names set for application servers, and if their subnets, hosts and viewers are the same,
they are the same up to the line that closes the main section. Whatever else their deployments
say, about the load balancers for instance, does not show there.

If their deployments agree in what is said of the load balancers, they are the same behind that
line, whatever hosts and subnets they have, whether the database is on several hosts, and whoever
the viewer is.
-/
theorem halves_independent (r t : Rendering) :
    (r.deployment.SameForHosts t.deployment → r.subnets = t.subnets → r.inventory = t.inventory →
      r.viewer = t.viewer → r.untilMainEnd = t.untilMainEnd)
    ∧ (r.deployment.SameForBalancers t.deployment → r.behindMainEnd = t.behindMainEnd)
    ∧ r.untilMainEnd.getLast?
      = some ("# END ANSIBLE MANAGED BLOCK - " ++ r.deployment.sapSid) := by
  refine ⟨fun hdeployment hsubnets hinventory hviewer => ?_, fun hdeployment => ?_, ?_⟩
  · rw [Rendering.untilMainEnd_eq, Rendering.untilMainEnd_eq]
    exact Rendering.mainLines_congr hdeployment hsubnets hinventory hviewer
  · rw [Rendering.behindMainEnd_eq, Rendering.behindMainEnd_eq]
    unfold Rendering.virtualLines
    rw [hdeployment.virtual_eq]
  · rw [Rendering.untilMainEnd_eq]
    exact List.getLast?_concat

/-- A landscape with a section for each kind of load balancer. -/
def balancedLandscape : Rendering :=
  { twoTierLandscape with
    deployment :=
      { sapSid := "X00", sapFqdn := "contoso.com", dbSid := "HDB", scaleOut := true,
        dbHighAvailability := true, dbInstanceNumber := "00", dbLoadBalancer := some "10.0.1.10",
        scsHighAvailability := true, scsInstanceNumber := "00", ersInstanceNumber := "01",
        scsLoadBalancer := some "10.0.2.10", ersLoadBalancer := some "10.0.2.11",
        custom := { CustomNames.none with ers := some "replica", app := some "dialog" } } }

/-- The landscape with other settings for its load balancers. -/
def rebalancedLandscape : Rendering :=
  { balancedLandscape with
    deployment :=
      { balancedLandscape.deployment with
        dbSid := "ORA", dbLoadBalancer := none, scsHighAvailability := false,
        custom := { CustomNames.none with scs := some "central", app := some "dialog" } } }

/-- The landscape with other hosts, and with its database on one of them. -/
def rehostedLandscape : Rendering where
  deployment :=
    { balancedLandscape.deployment with
      scaleOut := false
      custom := { CustomNames.none with ers := some "replica", web := some "portal" } }
  subnets := .none
  inventory := ⟨0, []⟩
  viewer := none

/-- The first change leaves the main section alone and shows behind it, the second one the other way
round. -/
theorem balancedLandscape_halves :
    balancedLandscape.deployment.SameForHosts rebalancedLandscape.deployment
      ∧ balancedLandscape.untilMainEnd = rebalancedLandscape.untilMainEnd
      ∧ balancedLandscape.behindMainEnd.length = 9
      ∧ rebalancedLandscape.behindMainEnd = []
      ∧ balancedLandscape.deployment.SameForBalancers rehostedLandscape.deployment
      ∧ balancedLandscape.behindMainEnd = rehostedLandscape.behindMainEnd
      ∧ balancedLandscape.untilMainEnd.length = 15
      ∧ rehostedLandscape.untilMainEnd.length = 10 := by
  have hhosts : balancedLandscape.deployment.SameForHosts rebalancedLandscape.deployment :=
    ⟨rfl, rfl, rfl, rfl, by decide⟩
  have hbalancers : balancedLandscape.deployment.SameForBalancers rehostedLandscape.deployment :=
    ⟨rfl, rfl, rfl, rfl, rfl, rfl, rfl, rfl, rfl, rfl, rfl, by decide⟩
  obtain ⟨hmain, -, -⟩ := halves_independent balancedLandscape rebalancedLandscape
  obtain ⟨-, hvirtual, -⟩ := halves_independent balancedLandscape rehostedLandscape
  refine ⟨hhosts, hmain hhosts rfl rfl rfl, ?_, ?_, hbalancers, hvirtual hbalancers, ?_, ?_⟩
  · rw [Rendering.behindMainEnd_eq]
    decide +kernel
  · rw [Rendering.behindMainEnd_eq]
    decide +kernel
  · rw [Rendering.untilMainEnd_eq]
    decide +kernel
  · rw [Rendering.untilMainEnd_eq]
    decide +kernel

end HostsBlock
