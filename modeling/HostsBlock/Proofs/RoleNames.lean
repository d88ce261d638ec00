import HostsBlock.Proofs.Isolation
import HostsBlock.Proofs.Rewording

/-!
# Names for roles, of a run and of a host

A role can have a name for the whole run, and each host can have a name of its own for it. This file
says which of the two counts, for all roles at once.

An entry is made with the name for the run, and only without one with the host's own. And a host
plays three of the six roles only; for the others, nobody asks it. So **what hosts say of a role
does not matter if the role has a name for the run, or if it is one that hosts do not play**,
`Record.RenamesRoles.sameOutcome`.

A name that is blank is none. It does not stand in the way of anything, and whether it is `null`, a
text of blanks or missing shows nowhere.
-/

namespace HostsBlock

theorem Role.key_name_injective : Function.Injective fun role : Role => role.key.name := by
  intro a b
  cases a <;> cases b <;> decide

/-- The names of roles have keys of their own. -/
theorem Role.key_name_not_mem (role : Role) :
    ∀ k ∈ Deployment.keys ++ Subnet.all.map Subnet.key
        ++ [.inventoryHostname, .playHosts, .hostVariables, .addresses, .tiers],
      role.key.name ∉ k.names := by
  cases role <;> decide

theorem Role.ofTier?_name {role : Role} (h : role ∈ [Role.pas, .app, .web]) :
    ofTier? role.name = some role := by
  have hall : ∀ role ∈ [Role.pas, .app, .web], ofTier? role.name = some role := by decide
  exact hall role h

/-! ## Hosts that differ in such names -/

namespace Host

variable {d : Deployment} {s : Subnets} {isolation : Option Isolation} {h k : Host}

/-- Only the name that counts for a role makes a difference, and that only for the roles of
application servers. -/
theorem interchangeable_of_names (hname : h.name = k.name) (haddresses : h.addresses = k.addresses)
    (htiers : h.tiers = k.tiers)
    (hcounts : ∀ role ∈ [Role.pas, .app, .web],
      (d.custom.get? role).or (h.custom.get? role) = (d.custom.get? role).or (k.custom.get? role)) :
    h.Interchangeable d s k := by
  have hhana : h.isHana = k.isHana := isHana_congr htiers
  have hnames : h.roleNames d = k.roleNames d := by
    unfold roleNames
    rw [htiers]
    -- a tier stands for one of the three roles, so no other name is asked for
    refine List.filterMap_congr fun role hrole => ?_
    obtain ⟨tier, -, htier⟩ := List.mem_filterMap.mp hrole
    obtain ⟨hthree, -⟩ := Role.ofTier?_eq_some htier
    exact hcounts role hthree
  refine ⟨hhana, fun isolation => ?_⟩
  have hshown : h.shown? s isolation = k.shown? s isolation := by
    unfold shown? Isolation.filters
    rw [haddresses, hhana]
  unfold entries roleEntries
  rw [hshown, hname, hnames]
  simp only [suffixedEntries_congr hname htiers]

/-- A role that a host plays has an entry under the name that counts, with the address of the host's
first entry. -/
theorem mem_entries_of_role {e : Entry} (he : (h.entries d s isolation).head? = some e)
    {role : Role} (hrole : role ∈ [Role.pas, .app, .web]) (htier : role.name ∈ h.tiers)
    {name : String} (hname : (d.custom.get? role).or (h.custom.get? role) = some name) :
    entry d e.address name ∈ h.entries d s isolation := by
  rcases entries_cases d s isolation h with hnil | ⟨shown, -, -, -, hentries⟩
  · rw [hnil] at he
    exact absurd he (by simp)
  · rw [hentries] at he
    obtain rfl := Option.some.inj he
    have hmem : name ∈ h.roleNames d :=
      List.mem_filterMap.mpr
        ⟨role, List.mem_filterMap.mpr ⟨role.name, htier, Role.ofTier?_name hrole⟩, hname⟩
    rw [hentries]
    exact List.mem_append_left _ (List.mem_cons_of_mem _ (List.mem_map_of_mem hmem))

end Host

namespace Record

variable {v w : Record} {roles : List Role} {role : Role}

/-- The variables of a host as a record, which is empty if there are none. -/
def variablesOf (vars : Record) (name : String) : Record :=
  (ofValue? ((vars.hostVariables? name).getD .null)).getD .empty

/-- No name is set for a role: there is no value for it, or one that is `null` or blank. -/
def Unnamed (vars : Record) (role : Role) : Prop :=
  ∀ x, vars.raw? role.key.name = some x → Text.isBlankText x.text = true

/-- The second record is the first one with anything done to the names of some roles in the
variables of hosts. -/
structure RenamesRoles (roles : List Role) (v w : Record) : Prop where
  elsewhere : v.AgreeBesides w "hostvars"
  hosts : ∀ name n, (∀ role ∈ roles, role.key.name ≠ n) →
    (v.variablesOf name).raw? n = (w.variablesOf name).raw? n

theorem find?_role_key (v : Record) (role : Role) : v.find? role.key = v.get? role.key.name :=
  find?_ofName v _

theorem nonBlank?_role_key_congr (h : v.raw? role.key.name = w.raw? role.key.name) :
    v.nonBlank? role.key = w.nonBlank? role.key := by
  refine nonBlank?_congr ?_
  rw [find?_role_key, find?_role_key, get?_congr h]

theorem nonBlank?_of_unnamed (h : v.Unnamed role) : v.nonBlank? role.key = none := by
  unfold nonBlank?
  rw [find?_role_key, Option.bind_eq_none_iff]
  intro x hx
  obtain ⟨hraw, -⟩ := Option.filter_eq_some_iff.mp hx
  unfold Value.nonBlank?
  rw [if_pos (h x hraw)]

theorem custom_host (name : String) :
    (v.host name).custom.get? role = (v.variablesOf name).nonBlank? role.key :=
  CustomNames.get?_ofRecord _ role

theorem sameSettings_of_hosts (h : v.AgreeBesides w "hostvars") : v.SameSettings w :=
  sameSettings_of_get?_eq fun _ _ hname => h.get?_eq hname

namespace RenamesRoles

theorem find?_eq (h : RenamesRoles roles v w) {k : Key}
    (hk : ∀ role ∈ roles, role.key.name ∉ k.names) (name : String) :
    (v.variablesOf name).find? k = (w.variablesOf name).find? k := by
  refine find?_congr fun n hn => get?_congr (h.hosts name n fun role hrole => ?_)
  rintro rfl
  exact hk role hrole hn

/-- The hosts of the two records have the same addresses and tiers, and the same names for other
roles. -/
theorem host_eq (h : RenamesRoles roles v w) (name : String) :
    (v.host name).addresses = (w.host name).addresses
    ∧ (v.host name).tiers = (w.host name).tiers
    ∧ ∀ role, role ∉ roles → (v.host name).custom.get? role = (w.host name).custom.get? role := by
  have haddresses : (v.variablesOf name).find? .addresses = (w.variablesOf name).find? .addresses :=
    h.find?_eq (fun role _ => role.key_name_not_mem _ (by simp)) name
  have htiers : (v.variablesOf name).find? .tiers = (w.variablesOf name).find? .tiers :=
    h.find?_eq (fun role _ => role.key_name_not_mem _ (by simp)) name
  refine ⟨texts_congr haddresses, congrArg List.eraseDups (texts_congr htiers),
    fun role hrole => ?_⟩
  rw [custom_host, custom_host]
  refine nonBlank?_congr (h.find?_eq (fun edited hedited hmem => hrole ?_) name)
  have hsame : edited.key.name = role.key.name := List.mem_singleton.mp hmem
  exact Role.key_name_injective hsame ▸ hedited

/-- **Names of hosts do not matter where none of them counts**, and where they count it does not
matter how they are written. -/
theorem sameOutcome (h : RenamesRoles roles v w)
    (hcounts : ∀ role ∈ roles, role ∈ [Role.pas, .app, .web] → v.nonBlank? role.key = none →
      ∀ name, (v.variablesOf name).nonBlank? role.key = (w.variablesOf name).nonBlank? role.key) :
    v.SameOutcome w := by
  have hsettings := sameSettings_of_hosts h.elsewhere
  have hplay : v.texts .playHosts = w.texts .playHosts :=
    texts_congr (h.elsewhere.find?_eq (by decide))
  refine sameOutcome_of_interchangeable hsettings.deployment_eq hsettings.subnets_eq
    hsettings.own_eq hplay fun name _ => ?_
  obtain ⟨haddresses, htiers, hcustom⟩ := h.host_eq name
  refine Host.interchangeable_of_names rfl haddresses htiers fun role hthree => ?_
  by_cases hrole : role ∈ roles
  · -- a name for the run hides what hosts say, and without one they say the same
    show ((CustomNames.ofRecord v).get? role).or _ = ((CustomNames.ofRecord v).get? role).or _
    rw [CustomNames.get?_ofRecord]
    cases hrun : v.nonBlank? role.key with
    | some run => rw [Option.some_or, Option.some_or]
    | none =>
        rw [Option.none_or, Option.none_or, custom_host, custom_host]
        exact hcounts role hrole hthree hrun name
  · -- the names for this role were not touched
    rw [hcustom role hrole]

end RenamesRoles

/-- How it is written that a role has no name for the run shows nowhere. -/
theorem sameOutcome_of_unnamed (h : v.AgreeBesides w role.key.name) (hv : v.Unnamed role)
    (hw : w.Unnamed role) : v.SameOutcome w := by
  have hothers : ∀ k ∈ Deployment.keys ++ Subnet.all.map Subnet.key
      ++ [.inventoryHostname, .playHosts, .hostVariables, .addresses, .tiers],
      v.find? k = w.find? k := fun k hk => h.find?_eq (role.key_name_not_mem k hk)
  have hnames : ∀ other : Role, v.nonBlank? other.key = w.nonBlank? other.key := by
    intro other
    by_cases hother : other = role
    · -- no name is found in either record, however that is written
      rw [hother, nonBlank?_of_unnamed hv, nonBlank?_of_unnamed hw]
    · refine nonBlank?_congr (h.find?_eq fun hmem => hother ?_)
      exact Role.key_name_injective (List.mem_singleton.mp hmem).symm
  have hdeployment : Deployment.ofRecord v = Deployment.ofRecord w := by
    refine Deployment.ofRecord_congr (fun k hk => hothers k ?_) hnames
    exact List.mem_append_left _ (List.mem_append_left _ hk)
  refine sameOutcome_of_deployment hdeployment fun k hk => hothers k ?_
  rcases List.mem_append.mp hk with hsubnet | hrest
  · exact List.mem_append_left _ (List.mem_append_right _ hsubnet)
  · exact List.mem_append_right _ (List.mem_append_left [Key.addresses, Key.tiers] hrest)

/-- A play host has an entry for each role it plays, under the name that counts. -/
theorem mem_hostEntries_of_role {a : Audience} {name : String} (hplay : name ∈ v.texts .playHosts)
    {e : Entry} (he : ((Rendering.forAudience v a).group (v.host name)).head? = some e)
    (hthree : role ∈ [Role.pas, .app, .web]) (htier : role.name ∈ (v.host name).tiers)
    {shown : String}
    (hshown : (v.nonBlank? role.key).or ((v.variablesOf name).nonBlank? role.key) = some shown) :
    Host.entry (.ofRecord v) e.address shown ∈ (Rendering.forAudience v a).hostEntries := by
  rw [Rendering.hostEntries_eq_flatMap_playNames]
  refine List.mem_flatMap.mpr ⟨name, mem_playNames.mpr hplay, ?_⟩
  unfold Rendering.group at he ⊢
  rw [Rendering.deployment_forAudience] at he ⊢
  refine Host.mem_entries_of_role he hthree htier ?_
  rw [custom_host, ← hshown]
  exact congrArg (Option.or · _) (CustomNames.get?_ofRecord v role)

end Record

/--
**Names for the run come first, then names of hosts, and a blank one is none.** Take any record.

Hosts may say anything of a role, if the role has a name for the run or is not one of the three that
hosts play: the blocks stay the same, whoever they are made for, and so do the report on the subnets
and the report on each stage. A name that is missing, `null` or blank may be exchanged for another
such name, in the variables of hosts as well as in the record itself.

A host in play with an entry has one for each role it plays, under the name for the run if there is
one. If there is none, or it is blank, the entry is under the host's own name.
-/
theorem run_names_shadow_host_names (v w : Record) :
    (∀ roles : List Role, Record.RenamesRoles roles v w →
      (∀ role ∈ roles, role ∈ [Role.scs, .ers, .db] ∨ (v.nonBlank? role.key).isSome) →
        v.SameOutcome w)
    ∧ (∀ roles : List Role, Record.RenamesRoles roles v w →
      (∀ role ∈ roles, ∀ name,
        (v.variablesOf name).raw? role.key.name = (w.variablesOf name).raw? role.key.name
        ∨ (v.variablesOf name).Unnamed role ∧ (w.variablesOf name).Unnamed role) →
          v.SameOutcome w)
    ∧ (∀ role : Role, v.AgreeBesides w role.key.name → v.Unnamed role → w.Unnamed role →
        v.SameOutcome w)
    ∧ ∀ a, ∀ name ∈ v.texts .playHosts, ∀ role ∈ [Role.pas, .app, .web],
        role.name ∈ (v.host name).tiers →
          ∀ e, ((Rendering.forAudience v a).group (v.host name)).head? = some e →
            (∀ run, v.nonBlank? role.key = some run →
              Host.entry (.ofRecord v) e.address run ∈ (Rendering.forAudience v a).hostEntries)
            ∧ (v.Unnamed role → ∀ own, (v.variablesOf name).nonBlank? role.key = some own →
              Host.entry (.ofRecord v) e.address own
                ∈ (Rendering.forAudience v a).hostEntries) := by
  refine ⟨fun roles h hshadowed => h.sameOutcome fun role hrole hthree hrun => ?_,
    fun roles h hrewritten => h.sameOutcome fun role hrole _ _ name => ?_,
    fun role h hv hw => Record.sameOutcome_of_unnamed h hv hw,
    fun a name hplay role hthree htier e he => ?_⟩
  · -- no host is asked for its own name for such a role
    exfalso
    rcases hshadowed role hrole with hother | hset
    · have hapart : ∀ role ∈ [Role.scs, .ers, .db], role ∉ [Role.pas, .app, .web] := by decide
      exact hapart role hother hthree
    · rw [hrun] at hset
      exact absurd hset (by simp)
  · rcases hrewritten role hrole name with hsame | ⟨hv, hw⟩
    · exact Record.nonBlank?_role_key_congr hsame
    · rw [Record.nonBlank?_of_unnamed hv, Record.nonBlank?_of_unnamed hw]
  · refine ⟨fun run hrun => Record.mem_hostEntries_of_role hplay he hthree htier ?_,
      fun hunnamed own hown => Record.mem_hostEntries_of_role hplay he hthree htier ?_⟩
    · rw [hrun, Option.some_or]
    · rw [Record.nonBlank?_of_unnamed hunnamed, hown, Option.none_or]

/-- Settings with a name for one role and a blank one for another. -/
def dialogSettings : List Variable :=
  [("sap_fqdn", .string "contoso.com"), ("custom_app_virtual_hostname", .string "dialog"),
    ("custom_web_virtual_hostname", .string " "), ("ansible_play_hosts", .ofTexts ["app0"])]

/-- What an application server says that has a name for the second of these roles. -/
def dialogVariables : List Variable :=
  [("ipadd", .string "10.0.0.5"), ("supported_tiers", .ofTexts ["pas", "app", "web"]),
    ("custom_web_virtual_hostname", .string "portal")]

/-- A landscape with these settings and this host, which may say more. -/
def dialogRecord (more : List Variable) : Record := (Record.ofList dialogSettings).insert "hostvars"
  (.object [("app0", .object (dialogVariables ++ more))])

theorem variablesOf_dialogRecord_of_ne (more : List Variable) {name : String}
    (hname : name ≠ "app0") : (dialogRecord more).variablesOf name = .empty := by
  have hnobody : (dialogRecord more).hostVariables? name = none :=
    Value.member?_append_cons [] [] _ hname
  unfold Record.variablesOf
  rw [hnobody]
  rfl

theorem dialogRecord_renamesRoles {roles : List Role} {more edited : List Variable}
    (hmore : ∀ x ∈ more, ∃ role ∈ roles, role.key.name = x.1)
    (hedited : ∀ x ∈ edited, ∃ role ∈ roles, role.key.name = x.1) :
    Record.RenamesRoles roles (dialogRecord more) (dialogRecord edited) where
  elsewhere := Record.agreeBesides_insert_insert _ _ _ _
  hosts := by
    intro name n hn
    have hnone : ∀ xs : List Variable, (∀ x ∈ xs, ∃ role ∈ roles, role.key.name = x.1) →
        xs.reverse.lookup n = none := by
      intro xs hxs
      refine List.lookup_eq_none_iff.mpr fun x hx => ?_
      obtain ⟨role, hrole, hname⟩ := hxs x (List.mem_reverse.mp hx)
      rw [bne_iff_ne, ← hname]
      exact (hn role hrole).symm
    by_cases hname : name = "app0"
    · subst hname
      show (Record.empty.insertAll (dialogVariables ++ _)).raw? n
        = (Record.empty.insertAll (dialogVariables ++ _)).raw? n
      rw [Record.raw?_insertAll, Record.raw?_insertAll, List.reverse_append, List.reverse_append,
        List.lookup_append, List.lookup_append, hnone more hmore, hnone edited hedited]
    · rw [variablesOf_dialogRecord_of_ne more hname, variablesOf_dialogRecord_of_ne edited hname]

/-- The name for the run is shown whatever the host says, and the host's own name where that for the
run is blank. -/
theorem dialogRecord_shadows :
    Record.RenamesRoles [.app, .scs]
        (dialogRecord [("custom_app_virtual_hostname", .string "worker")])
        (dialogRecord [("custom_scs_virtual_hostname", .string "central")])
      ∧ (dialogRecord [("custom_app_virtual_hostname", .string "worker")]).SameOutcome
        (dialogRecord [("custom_scs_virtual_hostname", .string "central")])
      ∧ (dialogRecord [("custom_pas_virtual_hostname", .string " ")]).SameOutcome (dialogRecord [])
      ∧ (dialogRecord []).SameOutcome
        ((dialogRecord []).insert "custom_web_virtual_hostname" .null)
      ∧ ⟨"10.0.0.5", "dialog.contoso.com", "dialog"⟩
        ∈ (Rendering.forAudience (dialogRecord []) .nobody).hostEntries
      ∧ ⟨"10.0.0.5", "portal.contoso.com", "portal"⟩
        ∈ (Rendering.forAudience (dialogRecord []) .nobody).hostEntries := by
  have hrenames : Record.RenamesRoles [.app, .scs]
      (dialogRecord [("custom_app_virtual_hostname", .string "worker")])
      (dialogRecord [("custom_scs_virtual_hostname", .string "central")]) :=
    dialogRecord_renamesRoles (by decide) (by decide)
  have hblank : Record.RenamesRoles [.pas]
      (dialogRecord [("custom_pas_virtual_hostname", .string " ")]) (dialogRecord []) :=
    dialogRecord_renamesRoles (by decide) (by decide)
  have hspaces : (dialogRecord []).Unnamed .web := by
    rintro _ ⟨rfl⟩
    rfl
  obtain ⟨hshadowed, -⟩ := run_names_shadow_host_names
    (dialogRecord [("custom_app_virtual_hostname", .string "worker")])
    (dialogRecord [("custom_scs_virtual_hostname", .string "central")])
  obtain ⟨-, hrewritten, -⟩ := run_names_shadow_host_names
    (dialogRecord [("custom_pas_virtual_hostname", .string " ")]) (dialogRecord [])
  obtain ⟨-, -, hunnamed, hshown⟩ := run_names_shadow_host_names (dialogRecord [])
    ((dialogRecord []).insert "custom_web_virtual_hostname" .null)
  refine ⟨hrenames, hshadowed _ hrenames ?_, hrewritten _ hblank ?_, hunnamed .web ?_ hspaces ?_,
    ?_, ?_⟩
  · decide +kernel
  · intro role hrole name
    obtain rfl := List.mem_singleton.mp hrole
    by_cases hname : name = "app0"
    · subst hname
      refine Or.inr ⟨?_, nofun⟩
      rintro _ ⟨rfl⟩
      rfl
    · refine Or.inl ?_
      rw [variablesOf_dialogRecord_of_ne _ hname, variablesOf_dialogRecord_of_ne _ hname]
  · exact Record.agreeBesides_insert _ _ _
  · rintro _ ⟨rfl⟩
    rfl
  · refine (hshown .nobody "app0" ?_ .app (by decide) ?_ ⟨"10.0.0.5", "app0.contoso.com", "app0"⟩
      ?_).1 "dialog" ?_
    all_goals decide +kernel
  · refine (hshown .nobody "app0" ?_ .web (by decide) ?_ ⟨"10.0.0.5", "app0.contoso.com", "app0"⟩
      ?_).2 hspaces "portal" ?_
    all_goals decide +kernel

end HostsBlock
