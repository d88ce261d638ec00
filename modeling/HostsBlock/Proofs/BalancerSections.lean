import HostsBlock.Proofs.Halves
import HostsBlock.Proofs.PlayHosts
import HostsBlock.Validation.Stage

/-!
# When the sections of the load balancers are complete

Two things look at the load balancers of a record without knowing of each other. The check of a
stage asks which addresses are set; the block leaves out entries one by one, if their address is
missing or is none or if their name is blank. This file says that they never drift apart.

What is complete is said from the outside: `Rendering.HasSection` reads the lines behind the main
section, and `BalancersComplete` asks there for the entries that the settings call for. In a record
no name of a load balancer is blank, `Deployment.virtualName_nonBlank`. So **what is missing is
exactly what the check for a stage before the cluster reports, and the addresses that are set but
are none**, about which the check says nothing.
-/

namespace HostsBlock

open Text Section

/-! ## Names of load balancers -/

theorem isBlankText_append_right (s : String) {t : String} (h : isBlankText t = false) :
    isBlankText (s ++ t) = false := by
  unfold isBlankText at h ⊢
  rw [String.toList_append, List.all_append, h, Bool.and_false]

theorem CustomNames.NonBlank.getD {names : CustomNames} (h : names.NonBlank) (role : Role)
    {usual : String} (husual : isBlankText usual = false) :
    isBlankText ((names.get? role).getD usual) = false := by
  cases hget : names.get? role with
  | none => exact husual
  | some name => exact h role name hget

/-- A name that is set is not blank, and any other has a fixed ending. -/
theorem Deployment.virtualName_nonBlank (vars : Record) :
    isBlankText (ofRecord vars).scsName = false ∧ isBlankText (ofRecord vars).ersName = false
      ∧ isBlankText (ofRecord vars).dbName = false := by
  have hnames := CustomNames.nonBlank_ofRecord vars
  refine ⟨?_, ?_, ?_⟩
  · exact hnames.getD .scs (isBlankText_append_right _ (by decide))
  · exact hnames.getD .ers (isBlankText_append_right _ (by decide))
  · exact hnames.getD .db (isBlankText_append_right _ (by decide))

/-! ## What a reader finds behind the main section -/

namespace Rendering

/-- Behind the main section there is a section of this title with exactly these lines. -/
def HasSection (r : Rendering) (title : String) (lines : List String) : Prop :=
  ∃ sections, readSections? r.behindMainEnd = some sections ∧ (title, lines) ∈ sections

theorem readSections?_behindMainEnd (r : Rendering) :
    readSections? r.behindMainEnd
      = some ((Section.virtual r.deployment).map fun s => (s.title, s.entries.map Entry.line)) := by
  obtain ⟨-, hvirtual⟩ := List.forall_mem_cons.mp r.addressed_of_mem_sections
  have hread := foldlM_step_flatMap hvirtual []
  unfold readSections?
  rw [behindMainEnd_eq, virtualLines, hread]
  rfl

theorem hasSection_iff {r : Rendering} {title : String} {lines : List String} :
    r.HasSection title lines ↔
      ∃ s ∈ Section.virtual r.deployment, s.title = title ∧ s.entries.map Entry.line = lines := by
  unfold HasSection
  rw [readSections?_behindMainEnd]
  simp only [Option.some.injEq, exists_eq_left', List.mem_map, Prod.mk.injEq]

end Rendering

namespace Section

variable {d : Deployment} {name : String} {lines : List String}

theorem scsTitle_ne_dbTitle (a b : String) : "ASCS/ERS Entries " ++ a ≠ "DB Entries " ++ b := by
  have hscs : "ASCS/ERS Entries ".toList = 'A' :: "SCS/ERS Entries ".toList := by decide
  have hdb : "DB Entries ".toList = 'D' :: "B Entries ".toList := by decide
  intro h
  have hlist := congrArg String.toList h
  rw [String.toList_append, String.toList_append, hscs, hdb] at hlist
  exact absurd (List.cons.inj hlist).1 (by decide)

/-- The section of the central services is found by its title. -/
theorem mem_virtual_scsErs_iff (hha : d.scsHighAvailability = true) :
    (∃ s ∈ virtual d, s.title = "ASCS/ERS Entries " ++ d.scsName
        ∧ s.entries.map Entry.line = lines) ↔
      ((balancerLine? d d.scsLoadBalancer d.scsName).toList
        ++ (balancerLine? d d.ersLoadBalancer d.ersName).toList).map Entry.line = lines := by
  rw [virtual_eq, if_pos hha, scsLine?, ersLine?, if_pos hha, if_pos hha]
  constructor
  · rintro ⟨s, hs, htitle, hlines⟩
    rcases List.mem_append.mp hs with hs | hs
    · obtain rfl := List.mem_singleton.mp hs
      exact hlines
    · -- the section of the database has another title
      obtain ⟨e, -, rfl⟩ := List.mem_map.mp hs
      exact absurd htitle.symm (scsTitle_ne_dbTitle _ _)
  · intro hlines
    exact ⟨_, List.mem_append_left _ List.mem_cons_self, rfl, hlines⟩

/-- So is that of the database, but only if it has its entry. -/
theorem mem_virtual_database_iff (hha : d.dbHighAvailability = true) :
    (∃ s ∈ virtual d, s.title = "DB Entries " ++ d.dbName ∧ s.entries.map Entry.line = lines) ↔
      ∃ e, balancerLine? d d.dbLoadBalancer d.dbName = some e ∧ [e.line] = lines := by
  rw [virtual_eq, dbLine?, if_pos hha]
  constructor
  · rintro ⟨s, hs, htitle, hlines⟩
    rcases List.mem_append.mp hs with hs | hs
    · split at hs
      · obtain rfl := List.mem_singleton.mp hs
        exact absurd htitle (scsTitle_ne_dbTitle _ _)
      · exact absurd hs (by simp)
    · obtain ⟨e, he, rfl⟩ := List.mem_map.mp hs
      exact ⟨e, Option.mem_toList.mp he, hlines⟩
  · rintro ⟨e, he, hlines⟩
    refine ⟨⟨"DB Entries " ++ d.dbName, [e]⟩, List.mem_append_right _ ?_, rfl, hlines⟩
    exact List.mem_map.mpr ⟨e, Option.mem_toList.mpr he, rfl⟩

/-- Two lines come from both load balancers, and not from one of them twice. -/
theorem map_line_eq_pair {a b : Option Entry} {x y : String}
    (h : (a.toList ++ b.toList).map Entry.line = [x, y]) : a.isSome = true ∧ b.isSome = true := by
  cases a with
  | none => cases b <;> exact absurd (congrArg List.length h) (by simp)
  | some a =>
      cases b with
      | none => exact absurd (congrArg List.length h) (by simp)
      | some b => exact ⟨rfl, rfl⟩

end Section

/-! ## Complete sections -/

/-- An address that is set and is one. -/
def GivesAddress (address : Option String) : Prop :=
  ∃ a, address = some a ∧ (Address.parse? a).isSome = true

theorem Section.isSome_balancerLine?_iff {d : Deployment} {address : Option String} {name : String}
    (hname : isBlankText name = false) :
    (balancerLine? d address name).isSome = true ↔ GivesAddress address := by
  rw [Option.isSome_iff_exists]
  simp only [balancerLine?_eq_some_iff]
  constructor
  · rintro ⟨e, a, haddress, hparse, -, -⟩
    exact ⟨a, haddress, hparse⟩
  · rintro ⟨a, haddress, hparse⟩
    exact ⟨_, a, haddress, hparse, hname, rfl⟩

namespace Rendering

/-- There is a section of the central services with two entries, one under their name and one under
that of the enqueue replication. -/
def HasScsErs (r : Rendering) : Prop :=
  ∃ scs ers : String, r.HasSection ("ASCS/ERS Entries " ++ r.deployment.scsName)
    [Entry.line ⟨scs, r.deployment.qualify r.deployment.scsName, r.deployment.scsName⟩,
      Entry.line ⟨ers, r.deployment.qualify r.deployment.ersName, r.deployment.ersName⟩]

/-- There is a section of the database with its entry. -/
def HasDatabase (r : Rendering) : Prop :=
  ∃ db : String, r.HasSection ("DB Entries " ++ r.deployment.dbName)
    [Entry.line ⟨db, r.deployment.qualify r.deployment.dbName, r.deployment.dbName⟩]

/-- There are all entries that the settings call for. -/
structure BalancersComplete (r : Rendering) : Prop where
  scsErs : r.deployment.scsHighAvailability = true → r.HasScsErs
  database : r.deployment.dbHighAvailability = true → r.HasDatabase

variable {r : Rendering}

theorem hasScsErs_iff (hha : r.deployment.scsHighAvailability = true)
    (hscs : isBlankText r.deployment.scsName = false)
    (hers : isBlankText r.deployment.ersName = false) :
    r.HasScsErs ↔
      GivesAddress r.deployment.scsLoadBalancer ∧ GivesAddress r.deployment.ersLoadBalancer := by
  unfold HasScsErs
  simp only [hasSection_iff, mem_virtual_scsErs_iff hha]
  rw [← isSome_balancerLine?_iff hscs, ← isSome_balancerLine?_iff hers]
  constructor
  · rintro ⟨scs, ers, hlines⟩
    exact map_line_eq_pair hlines
  · -- the entries differ from what is asked for in nothing but their addresses
    rintro ⟨hfirst, hsecond⟩
    obtain ⟨e, he⟩ := Option.isSome_iff_exists.mp hfirst
    obtain ⟨f, hf⟩ := Option.isSome_iff_exists.mp hsecond
    obtain ⟨scs, -, -, -, rfl⟩ := balancerLine?_eq_some_iff.mp he
    obtain ⟨ers, -, -, -, rfl⟩ := balancerLine?_eq_some_iff.mp hf
    refine ⟨scs, ers, ?_⟩
    rw [he, hf]
    rfl

theorem hasDatabase_iff (hha : r.deployment.dbHighAvailability = true)
    (hdb : isBlankText r.deployment.dbName = false) :
    r.HasDatabase ↔ GivesAddress r.deployment.dbLoadBalancer := by
  unfold HasDatabase
  simp only [hasSection_iff, mem_virtual_database_iff hha]
  rw [← isSome_balancerLine?_iff hdb]
  constructor
  · rintro ⟨db, e, he, -⟩
    exact Option.isSome_iff_exists.mpr ⟨e, he⟩
  · intro hsome
    obtain ⟨e, he⟩ := Option.isSome_iff_exists.mp hsome
    obtain ⟨db, -, -, -, rfl⟩ := balancerLine?_eq_some_iff.mp he
    exact ⟨db, _, he, rfl⟩

/-- **What it takes for the sections to be complete.** -/
theorem balancersComplete_iff (hscs : isBlankText r.deployment.scsName = false)
    (hers : isBlankText r.deployment.ersName = false)
    (hdb : isBlankText r.deployment.dbName = false) :
    r.BalancersComplete ↔
      (r.deployment.scsHighAvailability = true →
        GivesAddress r.deployment.scsLoadBalancer ∧ GivesAddress r.deployment.ersLoadBalancer)
      ∧ (r.deployment.dbHighAvailability = true → GivesAddress r.deployment.dbLoadBalancer) := by
  constructor
  · intro h
    exact ⟨fun hha => (hasScsErs_iff hha hscs hers).mp (h.scsErs hha),
      fun hha => (hasDatabase_iff hha hdb).mp (h.database hha)⟩
  · rintro ⟨hscsErs, hdatabase⟩
    exact ⟨fun hha => (hasScsErs_iff hha hscs hers).mpr (hscsErs hha),
      fun hha => (hasDatabase_iff hha hdb).mpr (hdatabase hha)⟩

end Rendering

/-! ## The check -/

namespace Deployment

/-- The check before the cluster is about what is set. -/
theorem isValid_preCluster_iff (d : Deployment) :
    (d.validate .preCluster).isValid = true ↔
      (d.scsHighAvailability = true →
        d.scsLoadBalancer.isSome = true ∧ d.ersLoadBalancer.isSome = true)
      ∧ (d.dbHighAvailability = true → d.dbLoadBalancer.isSome = true) := by
  unfold validate StageReport.isValid hasScsBalancers
  -- of the addresses the check sees no more than whether they are set
  cases d.scsHighAvailability <;> cases d.dbHighAvailability <;>
    cases d.scsLoadBalancer <;> cases d.ersLoadBalancer <;> cases d.dbLoadBalancer <;> simp

/-- The addresses that are set for the load balancers of highly available parts. -/
def activeBalancers (d : Deployment) : List String :=
  (if d.scsHighAvailability then d.scsLoadBalancer.toList ++ d.ersLoadBalancer.toList else [])
    ++ if d.dbHighAvailability then d.dbLoadBalancer.toList else []

theorem forall_mem_activeBalancers_iff {d : Deployment} {p : String → Prop} :
    (∀ a ∈ d.activeBalancers, p a) ↔
      (d.scsHighAvailability = true →
        (∀ a, d.scsLoadBalancer = some a → p a) ∧ ∀ a, d.ersLoadBalancer = some a → p a)
      ∧ (d.dbHighAvailability = true → ∀ a, d.dbLoadBalancer = some a → p a) := by
  unfold activeBalancers
  rw [List.forall_mem_append]
  refine and_congr ?_ ?_
  · split
    · rename_i hha
      simp only [List.forall_mem_append, Option.mem_toList, hha, true_implies]
    · rename_i hha
      simp [hha]
  · split
    · rename_i hha
      simp only [Option.mem_toList, hha, true_implies]
    · rename_i hha
      simp [hha]

theorem givesAddress_iff {address : Option String} :
    GivesAddress address ↔ address.isSome = true
      ∧ ∀ a, address = some a → (Address.parse? a).isSome = true := by
  unfold GivesAddress
  cases address with
  | none => simp
  | some a => simp

/-- An address that is set and is one passes two tests, of which the check before the cluster makes
the first. -/
theorem balancers_giveAddresses_iff (d : Deployment) :
    ((d.scsHighAvailability = true →
        GivesAddress d.scsLoadBalancer ∧ GivesAddress d.ersLoadBalancer)
      ∧ (d.dbHighAvailability = true → GivesAddress d.dbLoadBalancer)) ↔
      (d.validate .preCluster).isValid = true
      ∧ ∀ a ∈ d.activeBalancers, (Address.parse? a).isSome = true := by
  rw [isValid_preCluster_iff, forall_mem_activeBalancers_iff]
  simp only [givesAddress_iff]
  constructor
  · rintro ⟨hscsErs, hdatabase⟩
    refine ⟨⟨fun hha => ?_, fun hha => (hdatabase hha).1⟩, fun hha => ?_,
      fun hha => (hdatabase hha).2⟩
    · obtain ⟨⟨hscs, -⟩, hers, -⟩ := hscsErs hha
      exact ⟨hscs, hers⟩
    · obtain ⟨⟨-, hscs⟩, -, hers⟩ := hscsErs hha
      exact ⟨hscs, hers⟩
  · rintro ⟨⟨hset, hdbSet⟩, hread, hdbRead⟩
    refine ⟨fun hha => ?_, fun hha => ⟨hdbSet hha, hdbRead hha⟩⟩
    obtain ⟨hscsSet, hersSet⟩ := hset hha
    obtain ⟨hscsRead, hersRead⟩ := hread hha
    exact ⟨⟨hscsSet, hscsRead⟩, hersSet, hersRead⟩

end Deployment

/--
**The check before the cluster and the block agree.** Take any record and whoever its block is made
for. The sections of the load balancers are complete exactly if the check finds no error and every
address that is set for a load balancer of a highly available part is one. So a record that the
check rejects never has complete sections.
-/
theorem complete_iff_valid (vars : Record) (a : Audience) :
    ((Rendering.forAudience vars a).BalancersComplete ↔
      ((Deployment.ofRecord vars).validate .preCluster).isValid = true
      ∧ ∀ address ∈ (Deployment.ofRecord vars).activeBalancers,
        (Address.parse? address).isSome = true)
    ∧ (((Deployment.ofRecord vars).validate .preCluster).isValid = false →
      ¬ (Rendering.forAudience vars a).BalancersComplete) := by
  obtain ⟨hscs, hers, hdb⟩ := Deployment.virtualName_nonBlank vars
  have hdeployment : (Rendering.forAudience vars a).deployment = .ofRecord vars := by
    rw [Rendering.forAudience_eq]
  -- no load balancer of a record has a blank name, so only an address can be missing
  rw [← hdeployment] at hscs hers hdb
  have hagree := Rendering.balancersComplete_iff hscs hers hdb
  rw [hdeployment, Deployment.balancers_giveAddresses_iff] at hagree
  refine ⟨hagree, ?_⟩
  intro hinvalid hall
  obtain ⟨hvalid, -⟩ := hagree.mp hall
  rw [hinvalid] at hvalid
  exact absurd hvalid (by decide)

/-- A landscape whose central services are highly available, with any value for the address of the
second load balancer. -/
def halfBalancedRecord (ers : Value) : Record := .ofList
  [("sap_sid", .string "x00"), ("sap_fqdn", .string "contoso.com"),
    ("scs_high_availability", .string "Yes"), ("scs_lb_ip", .string "10.0.2.10"),
    ("ers_lb_ip", ers)]

/-- A missing address is found by the check, and an address that is none by the block alone. -/
theorem halfBalancedRecord_complete :
    ((Deployment.ofRecord (halfBalancedRecord (.string " "))).validate .preCluster).isValid = false
      ∧ ¬ (Rendering.forAudience (halfBalancedRecord (.string " ")) .nobody).BalancersComplete
      ∧ ((Deployment.ofRecord (halfBalancedRecord (.string "10.0.2.999"))).validate
          .preCluster).isValid = true
      ∧ ¬ (Rendering.forAudience (halfBalancedRecord (.string "10.0.2.999"))
          .nobody).BalancersComplete
      ∧ (Rendering.forAudience (halfBalancedRecord (.string "10.0.2.11")) .nobody).BalancersComplete
      := by
  have hinvalid : ((Deployment.ofRecord (halfBalancedRecord (.string " "))).validate
      .preCluster).isValid = false := by decide +kernel
  obtain ⟨-, hmissing⟩ := complete_iff_valid (halfBalancedRecord (.string " ")) .nobody
  obtain ⟨hbad, -⟩ := complete_iff_valid (halfBalancedRecord (.string "10.0.2.999")) .nobody
  obtain ⟨hgood, -⟩ := complete_iff_valid (halfBalancedRecord (.string "10.0.2.11")) .nobody
  refine ⟨hinvalid, hmissing hinvalid, by decide +kernel, fun hall => ?_, hgood.mpr ?_⟩
  · obtain ⟨-, hread⟩ := hbad.mp hall
    exact absurd (hread "10.0.2.999" (by decide +kernel)) (by decide)
  · exact ⟨by decide +kernel, by decide +kernel⟩

end HostsBlock
