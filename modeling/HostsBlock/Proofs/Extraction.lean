import HostsBlock.Proofs.Keyed
import HostsBlock.Proofs.Records
import HostsBlock.Rendering

/-!
# What is taken from a record

A record is read by key, and this file says what that leaves of it. Settings come from the keys
that are listed in `Deployment.keys` and from those of the roles and subnets; records in which the
same is found under these keys give the same deployment, names and subnets.

Hosts come from two keys together, the names of the play hosts and the variables of each. The
inventory is what `Inventory.find?_ofRecord` says: under a name there is a host exactly if the name
is that of a play host and has variables, and **the host depends on nothing but the name and these
variables**, however often and in whatever place the name is given.
-/

namespace HostsBlock

open Text

/-! ## Settings -/

namespace Record

variable {v w : Record}

theorem nonBlank?_congr {k : Key} (h : v.find? k = w.find? k) :
    v.nonBlank? k = w.nonBlank? k := by
  unfold nonBlank?
  rw [h]

theorem isBlankText_of_nonBlank? {k : Key} {s : String} (h : v.nonBlank? k = some s) :
    isBlankText s = false := by
  unfold nonBlank? at h
  obtain ⟨value, -, hvalue⟩ := Option.bind_eq_some_iff.mp h
  unfold Value.nonBlank? at hvalue
  split at hvalue
  · exact absurd hvalue (by simp)
  · rename_i hblank
    obtain rfl := Option.some.inj hvalue
    exact Bool.eq_false_iff.mpr hblank

end Record

theorem CustomNames.get?_ofRecord (vars : Record) (role : Role) :
    (ofRecord vars).get? role = vars.nonBlank? role.key := by
  cases role <;> rfl

theorem CustomNames.ofRecord_congr {v w : Record}
    (h : ∀ role : Role, v.nonBlank? role.key = w.nonBlank? role.key) :
    ofRecord v = ofRecord w := by
  unfold ofRecord
  simp only [h _]

theorem Subnets.ofRecord_congr {v w : Record}
    (h : ∀ kind : Subnet, v.find? kind.key = w.find? kind.key) : ofRecord v = ofRecord w := by
  unfold ofRecord
  simp only [Record.nonBlank?_congr (h _)]

/-- The keys of a landscape's settings, those of the roles apart. -/
def Deployment.keys : List Key :=
  [.sapSid, .sapFqdn, .dbSid, .scaleOut, .dbHighAvailability, .dbInstanceNumber, .dbLoadBalancer,
    .scsHighAvailability, .scsInstanceNumber, .ersInstanceNumber, .scsLoadBalancer,
    .ersLoadBalancer]

/-- The keys under which an instance number is read. -/
def Deployment.numberKeys : List Key :=
  [.scsInstanceNumber, .ersInstanceNumber, .dbInstanceNumber]

/-- Of an instance number only its reading matters, and of other settings the value. -/
theorem Deployment.ofRecord_congr_of_numbers {v w : Record}
    (h : ∀ k ∈ keys, k.name ∉ numberKeys.map Key.name → v.find? k = w.find? k)
    (hnumbers : ∀ k ∈ numberKeys,
      (v.find? k).bind Value.instanceNumber? = (w.find? k).bind Value.instanceNumber?)
    (hroles : ∀ role : Role, v.nonBlank? role.key = w.nonBlank? role.key) :
    ofRecord v = ofRecord w := by
  simp only [keys, List.forall_mem_cons] at h
  obtain ⟨hsid, hfqdn, hdbSid, hscale, hdbHa, -, hdbLb, hscsHa, -, -, hscsLb, hersLb, -⟩ := h
  simp only [numberKeys, List.forall_mem_cons] at hnumbers
  obtain ⟨hscsNumber, hersNumber, hdbNumber, -⟩ := hnumbers
  unfold ofRecord Record.text Record.bool Record.instanceNumber Record.nonBlank?
  rw [hsid (by decide), hfqdn (by decide), hdbSid (by decide), hscale (by decide),
    hdbHa (by decide), hdbNumber, hdbLb (by decide), hscsHa (by decide), hscsNumber, hersNumber,
    hscsLb (by decide), hersLb (by decide), CustomNames.ofRecord_congr hroles]

theorem Deployment.ofRecord_congr {v w : Record} (h : ∀ k ∈ keys, v.find? k = w.find? k)
    (hroles : ∀ role : Role, v.nonBlank? role.key = w.nonBlank? role.key) :
    ofRecord v = ofRecord w := by
  have hkeys : numberKeys ⊆ keys := by
    simp [numberKeys, keys]
  exact ofRecord_congr_of_numbers (fun k hk _ => h k hk)
    (fun k hk => congrArg (Option.bind · _) (h k (hkeys hk))) hroles

/-- The rendering of a record is made for the host that the record is about. -/
theorem Rendering.ofRecord_eq (vars : Record) :
    ofRecord vars =
      { deployment := .ofRecord vars, subnets := .ofRecord vars, inventory := .ofRecord vars,
        viewer := (vars.nonBlank? .inventoryHostname).map (Viewer.resolve (.ofRecord vars)) } := by
  unfold ofRecord
  cases vars.nonBlank? .inventoryHostname <;> rfl

/-! ## Hosts -/

/-- The variables of a host, whatever kind of value they are. -/
def Record.hostVariables? (vars : Record) (name : String) : Option Value :=
  (vars.find? .hostVariables).bind (·.member? name)

/-- A host of a record: its name is that of a play host, and it is made of the variables that the
record has for this name. -/
structure Host.InPlay (vars : Record) (h : Host) : Prop where
  named : h.name ∈ vars.texts .playHosts
  known : ∃ value, vars.hostVariables? h.name = some value ∧ h = ofVariables h.name value

namespace Inventory

variable {vars : Record}

theorem mem_knownHosts {h : Host} : h ∈ knownHosts vars ↔ h.InPlay vars := by
  unfold knownHosts
  rw [List.mem_filterMap]
  constructor
  · rintro ⟨name, hname, hmap⟩
    obtain ⟨value, hvalue, rfl⟩ := Option.map_eq_some_iff.mp hmap
    exact ⟨hname, value, hvalue, rfl⟩
  · rintro ⟨hnamed, value, hvalue, heq⟩
    exact ⟨h.name, hnamed, Option.map_eq_some_iff.mpr ⟨value, hvalue, heq.symm⟩⟩

theorem eq_of_inPlay {h k : Host} (hh : h.InPlay vars) (hk : k.InPlay vars)
    (hname : h.name = k.name) : h = k := by
  obtain ⟨value, hvalue, heq⟩ := hh.known
  obtain ⟨value', hvalue', heq'⟩ := hk.known
  rw [← hname] at hvalue' heq'
  obtain rfl := Option.some.inj (hvalue.symm.trans hvalue')
  rw [heq, heq']

/-- **What is found in the inventory of a record.** -/
theorem find?_ofRecord (vars : Record) (name : String) :
    (ofRecord vars).find? name
      = if name ∈ vars.texts .playHosts then
          (vars.hostVariables? name).map (Host.ofVariables name)
        else none := by
  unfold find? ofRecord
  rw [Keyed.find?_ofList]
  have hmem : ∀ {h}, h ∈ (knownHosts vars).reverse ↔ h.InPlay vars := by
    intro h
    rw [List.mem_reverse, mem_knownHosts]
  -- a name has one host at most, so it does not matter which of several is found
  have hfound : ∀ {h : Host}, h.InPlay vars →
      Keyed.find? Host.name h.name (knownHosts vars).reverse = some h := fun hh =>
    Keyed.find?_of_mem_unique (hmem.mpr hh) fun k hk hname => eq_of_inPlay (hmem.mp hk) hh hname
  have hnone : (∀ h : Host, h.InPlay vars → h.name ≠ name) →
      Keyed.find? Host.name name (knownHosts vars).reverse = none := fun h =>
    Keyed.find?_eq_none_iff.mpr fun k hk => h k (hmem.mp hk)
  split
  · rename_i hnamed
    cases hvalue : vars.hostVariables? name with
    | none =>
        refine hnone ?_
        rintro h hh rfl
        obtain ⟨value, hvalue', -⟩ := hh.known
        exact absurd (hvalue.symm.trans hvalue') (by simp)
    | some value =>
        have hh : (Host.ofVariables name value).InPlay vars := ⟨hnamed, value, hvalue, rfl⟩
        exact hfound hh
  · rename_i hunnamed
    refine hnone ?_
    rintro h hh rfl
    exact hunnamed hh.named

theorem sorted_ofRecord (vars : Record) : Keyed.Sorted Host.name (ofRecord vars).hosts :=
  Keyed.sorted_ofList _

theorem mem_hosts_ofRecord {h : Host} : h ∈ (ofRecord vars).hosts ↔ h.InPlay vars := by
  rw [(sorted_ofRecord vars).mem_iff]
  show (ofRecord vars).find? h.name = some h ↔ _
  rw [find?_ofRecord]
  constructor
  · intro hfind
    split at hfind
    · rename_i hnamed
      obtain ⟨value, hvalue, heq⟩ := Option.map_eq_some_iff.mp hfind
      exact ⟨hnamed, value, hvalue, heq.symm⟩
    · exact absurd hfind (by simp)
  · rintro ⟨hnamed, value, hvalue, heq⟩
    rw [if_pos hnamed, hvalue, Option.map_some, ← heq]

end Inventory

end HostsBlock
