import HostsBlock.Proofs.Groups
import HostsBlock.Proofs.PlayHosts
import HostsBlock.Validation.Network
import HostsBlock.Validation.Stage

/-!
# What comes out of a record

A record is good for three things: a block for anybody, the report on its subnets and the report on
each stage. `Record.SameOutcome` holds of records for which all three are the same.

A block asks a record for its settings, for the list of play hosts and for the host of each of them;
there `Record.host` takes a play host without variables for one that has nothing. Only the second
kind of host is in the inventory, but neither has entries and neither is a database host. So the
entries of a block are those of the play hosts in the order of their names,
`Rendering.hostEntries_eq_flatMap_playNames`, and **a host may be exchanged for one between which no
block makes a difference**, `Record.sameOutcome_of_interchangeable`.

`Record.ReadAlike` holds of records in which the same is read: the same settings, the same list of
play hosts, and the same host for each of them. What is read decides what comes out,
`Record.ReadAlike.sameOutcome`, although the inventories may differ.
-/

namespace HostsBlock

namespace Record

/-- The keys of everything that a record says of itself and not of its hosts. -/
def settingKeys : List Key :=
  Deployment.keys ++ Role.all.map Role.key ++ Subnet.all.map Subnet.key ++ [.inventoryHostname]

/-- The keys of everything that is read of a record. -/
def keys : List Key := settingKeys ++ [.playHosts, .hostVariables]

/-- The host of a name. One without variables has no addresses and no tiers. -/
def host (vars : Record) (name : String) : Host :=
  Host.ofVariables name ((vars.hostVariables? name).getD .null)

/-- The names of the play hosts, each once and in order. -/
def playNames (vars : Record) : List String := Keyed.ofList id (vars.texts .playHosts)

/-- The same settings are found in both records. -/
def SameSettings (v w : Record) : Prop := ∀ k ∈ settingKeys, v.find? k = w.find? k

/-- The same is read in both records. -/
structure ReadAlike (v w : Record) : Prop where
  settings : ∀ k ∈ settingKeys, v.find? k = w.find? k
  playHosts : v.texts .playHosts = w.texts .playHosts
  hosts : ∀ name ∈ v.texts .playHosts, v.host name = w.host name

/-- Nobody who sees blocks and reports can tell the records apart. -/
structure SameOutcome (v w : Record) : Prop where
  block : ∀ a, (Rendering.forAudience v a).lines = (Rendering.forAudience w a).lines
  network : (Subnets.ofRecord v).validate = (Subnets.ofRecord w).validate
  stage : ∀ stage, (Deployment.ofRecord v).validate stage = (Deployment.ofRecord w).validate stage

end Record

/-- Hosts between which no block makes a difference. -/
structure Host.Interchangeable (d : Deployment) (s : Subnets) (h k : Host) : Prop where
  isHana : h.isHana = k.isHana
  entries : ∀ isolation, h.entries d s isolation = k.entries d s isolation

/-! ## The hosts of a record -/

theorem Host.entries_of_no_addresses {d : Deployment} {s : Subnets} {isolation : Option Isolation}
    {h : Host} (haddresses : h.addresses = []) : h.entries d s isolation = [] := by
  unfold entries shown?
  rw [haddresses]
  rfl

theorem Record.mem_playNames {vars : Record} {name : String} :
    name ∈ vars.playNames ↔ name ∈ vars.texts .playHosts :=
  Keyed.mem_ofList Function.injective_id

theorem Inventory.hosts_ofRecord (vars : Record) :
    (ofRecord vars).hosts
      = vars.playNames.filterMap fun name =>
          (vars.hostVariables? name).map (Host.ofVariables name) := by
  have hsorted : Keyed.Sorted Host.name (vars.playNames.filterMap fun name =>
      (vars.hostVariables? name).map (Host.ofVariables name)) := by
    refine List.pairwise_filterMap.mpr ((Keyed.sorted_ofList _).imp ?_)
    intro m n hlt h hh k hk
    obtain ⟨_, -, rfl⟩ := Option.map_eq_some_iff.mp hh
    obtain ⟨_, -, rfl⟩ := Option.map_eq_some_iff.mp hk
    exact hlt
  refine (sorted_ofRecord vars).eq_of_mem_iff hsorted fun h => ?_
  rw [mem_hosts_ofRecord, ← mem_knownHosts, knownHosts, List.mem_filterMap, List.mem_filterMap]
  simp only [Record.mem_playNames]
  rfl

theorem Viewer.isHana_resolve_ofRecord (vars : Record) (name : String) :
    (resolve (.ofRecord vars) name).isHana
      = (decide (name ∈ vars.texts .playHosts) && (vars.host name).isHana) := by
  unfold resolve Record.host
  rw [Inventory.find?_ofRecord]
  by_cases hnamed : name ∈ vars.texts .playHosts
  · rw [if_pos hnamed, decide_eq_true hnamed, Bool.true_and]
    cases vars.hostVariables? name with
    | none => rfl
    | some value => rfl
  · rw [if_neg hnamed, decide_eq_false hnamed, Bool.false_and]
    rfl

theorem Viewer.resolve_ofRecord_congr {v w : Record}
    (hplay : v.texts .playHosts = w.texts .playHosts)
    (hhosts : ∀ name ∈ v.texts .playHosts, (v.host name).isHana = (w.host name).isHana) :
    resolve (.ofRecord v) = resolve (.ofRecord w) := by
  funext name
  have hhana : (resolve (.ofRecord v) name).isHana = (resolve (.ofRecord w) name).isHana := by
    rw [isHana_resolve_ofRecord, isHana_resolve_ofRecord, ← hplay]
    -- a viewer that is not in play is no database host, whatever its variables are
    by_cases hnamed : name ∈ v.texts .playHosts
    · rw [hhosts name hnamed]
    · rw [decide_eq_false hnamed, Bool.false_and, Bool.false_and]
  exact congrArg (Viewer.mk name) hhana

namespace Rendering

theorem lines_congr {r t : Rendering} (hdeployment : r.deployment = t.deployment)
    (hsubnets : r.subnets = t.subnets)
    (hcount : r.inventory.playHostCount = t.inventory.playHostCount)
    (hviewer : r.viewer = t.viewer) (hentries : r.hostEntries = t.hostEntries) :
    r.lines = t.lines := by
  unfold lines mainLines virtualLines header isolation
  rw [hdeployment, hsubnets, hcount, hviewer, hentries]

@[simp] theorem deployment_forAudience (vars : Record) (a : Audience) :
    (forAudience vars a).deployment = .ofRecord vars := by
  rw [forAudience_eq]

@[simp] theorem subnets_forAudience (vars : Record) (a : Audience) :
    (forAudience vars a).subnets = .ofRecord vars := by
  rw [forAudience_eq]

@[simp] theorem inventory_forAudience (vars : Record) (a : Audience) :
    (forAudience vars a).inventory = .ofRecord vars := by
  rw [forAudience_eq]

@[simp] theorem viewer_forAudience (vars : Record) (a : Audience) :
    (forAudience vars a).viewer = (a.name? vars).map (Viewer.resolve (.ofRecord vars)) := by
  rw [forAudience_eq]

/-- The entries of one host in a block. -/
def group (r : Rendering) (h : Host) : List Entry := h.entries r.deployment r.subnets r.isolation

theorem hostEntries_eq_flatMap_group (vars : Record) (a : Audience) :
    (forAudience vars a).hostEntries
      = (Inventory.ofRecord vars).hosts.flatMap (forAudience vars a).group := by
  rw [← inventory_forAudience vars a]
  rfl

/-- **The entries of a block are those of the play hosts**, in the order of their names. -/
theorem hostEntries_eq_flatMap_playNames (vars : Record) (a : Audience) :
    (forAudience vars a).hostEntries
      = vars.playNames.flatMap fun name => (forAudience vars a).group (vars.host name) := by
  rw [hostEntries_eq_flatMap_group, Inventory.hosts_ofRecord, List.filterMap_eq_flatMap_toList,
    List.flatMap_assoc]
  refine List.flatMap_congr fun name _ => ?_
  unfold Record.host
  cases vars.hostVariables? name with
  | none => exact (Host.entries_of_no_addresses rfl).symm
  | some value => exact List.append_nil _

end Rendering

/-! ## What is read decides what comes out -/

namespace Record

variable {v w : Record}

theorem texts_congr {k : Key} (h : v.find? k = w.find? k) : v.texts k = w.texts k := by
  unfold texts
  rw [h]

theorem host_congr (h : v.find? .hostVariables = w.find? .hostVariables) (name : String) :
    v.host name = w.host name := by
  unfold host hostVariables?
  rw [h]

theorem mem_settingKeys_of_deployment {k : Key} (hk : k ∈ Deployment.keys) : k ∈ settingKeys := by
  unfold settingKeys
  simp only [List.mem_append]
  exact Or.inl (Or.inl (Or.inl hk))

theorem role_key_mem_settingKeys (role : Role) : role.key ∈ settingKeys := by
  have hrole : role ∈ Role.all := by cases role <;> decide
  unfold settingKeys
  simp only [List.mem_append]
  exact Or.inl (Or.inl (Or.inr (List.mem_map_of_mem hrole)))

theorem subnet_key_mem_settingKeys (kind : Subnet) : kind.key ∈ settingKeys := by
  have hkind : kind ∈ Subnet.all := by cases kind <;> decide
  unfold settingKeys
  simp only [List.mem_append]
  exact Or.inl (Or.inr (List.mem_map_of_mem hkind))

theorem inventoryHostname_mem_settingKeys : Key.inventoryHostname ∈ settingKeys :=
  List.mem_append_right _ List.mem_cons_self

/-- No setting is looked up where the hosts are described. -/
theorem ne_of_mem_settingKeys : ∀ k ∈ settingKeys, ∀ name ∈ k.names,
    name ≠ "ansible_play_hosts" ∧ name ≠ "hostvars" := by
  decide

theorem sameSettings_of_get?_eq
    (h : ∀ name, name ≠ "ansible_play_hosts" → name ≠ "hostvars" → v.get? name = w.get? name) :
    v.SameSettings w := by
  refine fun k hk => find?_congr fun name hname => ?_
  obtain ⟨hplay, hhosts⟩ := ne_of_mem_settingKeys k hk name hname
  exact h name hplay hhosts

namespace SameSettings

theorem deployment_eq (h : v.SameSettings w) : Deployment.ofRecord v = Deployment.ofRecord w :=
  Deployment.ofRecord_congr (fun k hk => h k (mem_settingKeys_of_deployment hk))
    fun role => nonBlank?_congr (h _ (role_key_mem_settingKeys role))

theorem subnets_eq (h : v.SameSettings w) : Subnets.ofRecord v = Subnets.ofRecord w :=
  Subnets.ofRecord_congr fun kind => h _ (subnet_key_mem_settingKeys kind)

theorem own_eq (h : v.SameSettings w) :
    v.nonBlank? .inventoryHostname = w.nonBlank? .inventoryHostname :=
  nonBlank?_congr (h _ inventoryHostname_mem_settingKeys)

end SameSettings

theorem name?_congr (h : v.nonBlank? .inventoryHostname = w.nonBlank? .inventoryHostname)
    (a : Audience) : a.name? v = a.name? w := by
  cases a with
  | own => exact h
  | host name => rfl
  | nobody => rfl

/-- **Hosts between which no block makes a difference may be exchanged.** -/
theorem sameOutcome_of_interchangeable (hdeployment : Deployment.ofRecord v = Deployment.ofRecord w)
    (hsubnets : Subnets.ofRecord v = Subnets.ofRecord w)
    (hown : v.nonBlank? .inventoryHostname = w.nonBlank? .inventoryHostname)
    (hplay : v.texts .playHosts = w.texts .playHosts)
    (hhosts : ∀ name ∈ v.texts .playHosts,
      (v.host name).Interchangeable (.ofRecord v) (.ofRecord v) (w.host name)) :
    v.SameOutcome w := by
  -- of a viewer, a block depends on its name and on whether it is a database host
  have hresolve := Viewer.resolve_ofRecord_congr hplay fun name hname => (hhosts name hname).isHana
  have hviewer : ∀ a, (Rendering.forAudience v a).viewer = (Rendering.forAudience w a).viewer := by
    intro a
    rw [Rendering.viewer_forAudience, Rendering.viewer_forAudience, name?_congr hown, hresolve]
  have hgroup : ∀ a, ∀ name ∈ v.playNames,
      (Rendering.forAudience v a).group (v.host name)
        = (Rendering.forAudience w a).group (w.host name) := by
    intro a name hname
    unfold Rendering.group Rendering.isolation
    simp only [Rendering.deployment_forAudience, Rendering.subnets_forAudience, ← hdeployment,
      ← hsubnets, ← hviewer a]
    exact (hhosts name (mem_playNames.mp hname)).entries _
  have hentries : ∀ a,
      (Rendering.forAudience v a).hostEntries = (Rendering.forAudience w a).hostEntries := by
    intro a
    have hnames : w.playNames = v.playNames := congrArg (Keyed.ofList id) hplay.symm
    rw [Rendering.hostEntries_eq_flatMap_playNames, Rendering.hostEntries_eq_flatMap_playNames,
      hnames]
    exact List.flatMap_congr (hgroup a)
  refine ⟨fun a => Rendering.lines_congr ?_ ?_ ?_ (hviewer a) (hentries a),
    congrArg Subnets.validate hsubnets, fun stage => congrArg (·.validate stage) hdeployment⟩
  · rw [Rendering.deployment_forAudience, Rendering.deployment_forAudience, hdeployment]
  · rw [Rendering.subnets_forAudience, Rendering.subnets_forAudience, hsubnets]
  · rw [Rendering.inventory_forAudience, Rendering.inventory_forAudience]
    exact congrArg List.length hplay

/-- Where hosts and subnets have the same variables, the other settings count as they are read. -/
theorem sameOutcome_of_deployment (hdeployment : Deployment.ofRecord v = Deployment.ofRecord w)
    (hothers : ∀ k ∈ Subnet.all.map Subnet.key ++ [.inventoryHostname, .playHosts, .hostVariables],
      v.find? k = w.find? k) : v.SameOutcome w := by
  have hsubnets : Subnets.ofRecord v = Subnets.ofRecord w :=
    Subnets.ofRecord_congr fun kind => hothers _ (by cases kind <;> simp [Subnet.all])
  have hhosts : v.find? .hostVariables = w.find? .hostVariables := hothers _ (by simp)
  refine sameOutcome_of_interchangeable hdeployment hsubnets
    (nonBlank?_congr (hothers _ (by simp))) (texts_congr (hothers _ (by simp))) fun name _ => ?_
  rw [host_congr hhosts name]
  exact ⟨rfl, fun _ => rfl⟩

namespace ReadAlike

theorem refl (v : Record) : v.ReadAlike v := ⟨fun _ _ => rfl, rfl, fun _ _ => rfl⟩

theorem symm (h : v.ReadAlike w) : w.ReadAlike v := by
  refine ⟨fun k hk => (h.settings k hk).symm, h.playHosts.symm, ?_⟩
  intro name hname
  rw [← h.playHosts] at hname
  exact (h.hosts name hname).symm

theorem trans {x : Record} (h : v.ReadAlike w) (h' : w.ReadAlike x) : v.ReadAlike x := by
  have hplayHosts : v.texts .playHosts = x.texts .playHosts := h.playHosts.trans h'.playHosts
  refine ⟨fun k hk => (h.settings k hk).trans (h'.settings k hk), hplayHosts, ?_⟩
  intro name hname
  have hname' : name ∈ w.texts .playHosts := h.playHosts ▸ hname
  exact (h.hosts name hname).trans (h'.hosts name hname')

/-- **Records in which the same is read have the same outcome.** -/
theorem sameOutcome (h : v.ReadAlike w) : v.SameOutcome w := by
  have hsettings : v.SameSettings w := h.settings
  refine sameOutcome_of_interchangeable hsettings.deployment_eq hsettings.subnets_eq
    hsettings.own_eq h.playHosts fun name hname => ?_
  rw [h.hosts name hname]
  exact ⟨rfl, fun _ => rfl⟩

end ReadAlike

end Record

end HostsBlock
