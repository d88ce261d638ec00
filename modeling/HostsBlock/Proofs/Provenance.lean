import HostsBlock.Proofs.Extraction
import HostsBlock.Proofs.HostEntries

/-!
# Where an entry comes from

An entry in a block can be traced back to a host that the record names and describes. This file does
it for every entry: `Host.Accounts` lists the four reasons that a host can have for one, and
`entry_accounted` finds a host with one of them behind each.

Of a host's entries only the one under its own name is checked, so the others are sound for other
reasons. They have an address that was checked before or that lies in a subnet, which only addresses
do; and their names are names for roles, of which a record keeps none that is blank, or go on behind
a name that was checked.
-/

namespace HostsBlock

open Text

/-- What can be said of an entry without looking at hosts. -/
structure Entry.Sound (d : Deployment) (e : Entry) : Prop where
  address : (Address.parse? e.address).isSome = true
  hostname : isBlankText e.hostname = false
  fqdn : e.fqdn = e.hostname ++ "." ++ d.sapFqdn

/-- Why a host has an entry. -/
inductive Host.Accounts (d : Deployment) (s : Subnets) (h : Host) (e : Entry) : Prop where
  /-- The entry is that of the host's own name. -/
  | own (hname : e.hostname = h.name)
  /-- It is that of a role which one of the host's tiers stands for. A name for the whole run comes
  before the host's own. -/
  | role (role : Role) (hrole : role ∈ [.pas, .app, .web]) (htier : role.name ∈ h.tiers)
      (hname : (d.custom.get? role).or (h.custom.get? role) = some e.hostname)
  /-- The host is a database host among several, and has another address in the database subnet. -/
  | database (hscale : d.scaleOut = true) (htier : "hana" ∈ h.tiers)
      (hother : e.address ∈ h.addresses.tail) (hin : s.contains .database e.address = true)
      (hname : e.hostname = h.name ++ if d.dbHighAvailability then "-hsr" else "-hana")
  /-- The host is a database host among several, and has another address in the storage subnet and
  not in the database subnet. -/
  | storage (hscale : d.scaleOut = true) (htier : "hana" ∈ h.tiers)
      (hother : e.address ∈ h.addresses.tail) (hin : s.contains .storage e.address = true)
      (hout : s.contains .database e.address = false)
      (hname : e.hostname = h.name ++ if d.dbHighAvailability then "-inter" else "-storage")

def CustomNames.NonBlank (names : CustomNames) : Prop :=
  ∀ role name, names.get? role = some name → isBlankText name = false

theorem CustomNames.nonBlank_ofRecord (vars : Record) : (ofRecord vars).NonBlank := by
  intro role name hname
  rw [get?_ofRecord] at hname
  exact Record.isBlankText_of_nonBlank? hname

theorem isBlankText_append {s : String} (h : isBlankText s = false) (t : String) :
    isBlankText (s ++ t) = false := by
  unfold isBlankText at h ⊢
  rw [String.toList_append, List.all_append, h, Bool.false_and]

theorem Role.ofTier?_eq_some {tier : String} {role : Role} (h : ofTier? tier = some role) :
    role ∈ [Role.pas, .app, .web] ∧ tier = role.name := by
  unfold ofTier? at h
  split at h
  · rename_i htier
    obtain rfl := Option.some.inj h
    exact ⟨by decide, htier⟩
  · split at h
    · rename_i htier
      obtain rfl := Option.some.inj h
      exact ⟨by decide, htier⟩
    · split at h
      · rename_i htier
        obtain rfl := Option.some.inj h
        exact ⟨by decide, htier⟩
      · exact absurd h (by simp)

namespace Host

variable {d : Deployment} {s : Subnets} {isolation : Option Isolation} {h : Host}

/-! ## Addresses -/

/-- In either view, the primary address is one of the host's, and the others are among those
behind the first. -/
theorem mem_addresses_of_shown {filtered : Bool} {addresses : List String}
    {shown : ShownAddresses} (hshown : ShownAddresses.of? s filtered addresses = some shown) :
    shown.primary ∈ addresses ∧ ∀ a ∈ shown.others, a ∈ addresses.tail := by
  cases addresses with
  | nil => exact absurd hshown (by simp [ShownAddresses.of?])
  | cons first rest =>
      obtain rfl := Option.some.inj hshown
      cases filtered with
      | false => exact ⟨List.mem_cons_self, fun a ha => ha⟩
      | true =>
          refine ⟨?_, fun a ha => (List.mem_filter.mp ha).1⟩
          show ((first :: rest).find? (s.contains .client)).getD first ∈ first :: rest
          cases hfind : (first :: rest).find? (s.contains .client) with
          | none => exact List.mem_cons_self
          | some a => exact List.mem_of_find?_eq_some hfind

/-! ## Reasons -/

theorem mem_tiers_of_isHana (hhana : h.isHana = true) : "hana" ∈ h.tiers :=
  List.contains_iff_mem.mp hhana

theorem accounts_of_mem_roleEntries {primary : String} {e : Entry}
    (he : e ∈ h.roleEntries d primary) :
    ∃ role name, e = entry d primary name
      ∧ (d.custom.get? role).or (h.custom.get? role) = some name ∧ h.Accounts d s e := by
  unfold roleEntries roleNames at he
  obtain ⟨name, hname, rfl⟩ := List.mem_map.mp he
  obtain ⟨role, hrole, hor⟩ := List.mem_filterMap.mp hname
  obtain ⟨tier, htier, hof⟩ := List.mem_filterMap.mp hrole
  obtain ⟨hthree, rfl⟩ := Role.ofTier?_eq_some hof
  exact ⟨role, name, rfl, hor, .role role hthree htier hor⟩

theorem accounts_of_mem_suffixedEntries {others : List String} {e : Entry}
    (hothers : ∀ a ∈ others, a ∈ h.addresses.tail) (he : e ∈ h.suffixedEntries d s others) :
    h.Accounts d s e := by
  obtain ⟨hmem, -, suffix, hsuffix, heq⟩ := mem_suffixedEntries he
  have hname : e.hostname = h.name ++ suffix := by
    rw [heq]
    rfl
  unfold suffixedEntries at he
  split at he
  · rename_i hcond
    obtain ⟨hscale, hhana⟩ := Bool.and_eq_true_iff.mp hcond
    have htier := mem_tiers_of_isHana hhana
    rcases scaleOutSuffix?_cases hsuffix with ⟨hin, rfl⟩ | ⟨hin, hout, rfl⟩
    · exact .database hscale htier (hothers _ hmem) hin hname
    · exact .storage hscale htier (hothers _ hmem) hin hout hname
  · exact absurd he (by simp)

/-- **Every entry of a host is accounted for**, and has one of the host's addresses. -/
theorem accounts_of_mem_entries {e : Entry} (he : e ∈ h.entries d s isolation) :
    e.address ∈ h.addresses ∧ h.Accounts d s e := by
  rcases entries_cases d s isolation h with hnil | ⟨shown, hshown, -, -, hentries⟩
  · rw [hnil] at he; exact absurd he (by simp)
  · obtain ⟨hprimary, hothers⟩ := mem_addresses_of_shown hshown
    rw [hentries] at he
    rcases List.mem_append.mp he with he | he
    · rcases List.mem_cons.mp he with rfl | he
      · exact ⟨hprimary, .own rfl⟩
      · obtain ⟨role, name, rfl, -, haccounts⟩ := accounts_of_mem_roleEntries (s := s) he
        exact ⟨hprimary, haccounts⟩
    · have hmem := hothers _ (mem_suffixedEntries he).1
      exact ⟨List.mem_of_mem_tail hmem, accounts_of_mem_suffixedEntries hothers he⟩

/-! ## Soundness -/

theorem entry_sound {address name : String} (haddress : (Address.parse? address).isSome = true)
    (hname : isBlankText name = false) : (entry d address name).Sound d where
  address := haddress
  hostname := hname
  fqdn := rfl

/-- **Every entry of a host is sound**, if none of the names for roles is blank. -/
theorem sound_of_mem_entries (hd : d.custom.NonBlank) (hh : h.custom.NonBlank) {e : Entry}
    (he : e ∈ h.entries d s isolation) : e.Sound d := by
  have hparse := parse?_isSome_of_mem_entries he
  rcases entries_cases d s isolation h with hnil | ⟨shown, -, hblank, -, hentries⟩
  · rw [hnil] at he; exact absurd he (by simp)
  · rw [hentries] at he
    rcases List.mem_append.mp he with he | he
    · rcases List.mem_cons.mp he with rfl | he
      · exact entry_sound hparse hblank
      · -- nobody has checked the name, but it cannot be blank
        obtain ⟨role, name, rfl, hor, -⟩ := accounts_of_mem_roleEntries (s := s) he
        refine entry_sound hparse ?_
        rcases Option.or_eq_some_iff.mp hor with hrun | ⟨-, hown⟩
        · exact hd role name hrun
        · exact hh role name hown
    · obtain ⟨-, -, suffix, -, heq⟩ := mem_suffixedEntries he
      rw [heq]
      exact entry_sound hparse (isBlankText_append hblank suffix)

end Host

/-! ## Entries of a record -/

theorem Host.InPlay.custom_nonBlank {vars : Record} {h : Host} (hplay : h.InPlay vars) :
    h.custom.NonBlank := by
  obtain ⟨value, -, heq⟩ := hplay.known
  rw [heq]
  exact CustomNames.nonBlank_ofRecord _

theorem Rendering.hostEntries_ofRecord (vars : Record) (viewer : Option Viewer) :
    { Rendering.ofRecord vars with viewer := viewer : Rendering }.hostEntries
      = (Inventory.ofRecord vars).hosts.flatMap
          (·.entries (.ofRecord vars) (.ofRecord vars)
            (Isolation.forViewer? (.ofRecord vars) viewer)) := by
  rw [Rendering.ofRecord_eq]
  rfl

/--
**Every entry is accounted for.** Take any record and any viewer. Each entry of a host has an
address, a name that is not blank, and the name with the domain behind it as its full name. And
there is a host that the record names among the play hosts and has variables for, such that the
entry's address is one of the host's, letter by letter, and the host has a reason for the entry.
-/
theorem entry_accounted (vars : Record) (viewer : Option Viewer) :
    ∀ e ∈ { Rendering.ofRecord vars with viewer := viewer : Rendering }.hostEntries,
      (Address.parse? e.address).isSome = true
      ∧ isBlankText e.hostname = false
      ∧ e.fqdn = e.hostname ++ "." ++ vars.text .sapFqdn ""
      ∧ ∃ h : Host, h.InPlay vars ∧ e.address ∈ h.addresses
        ∧ h.Accounts (.ofRecord vars) (.ofRecord vars) e := by
  intro e he
  rw [Rendering.hostEntries_ofRecord] at he
  obtain ⟨h, hmem, he⟩ := List.mem_flatMap.mp he
  have hplay := Inventory.mem_hosts_ofRecord.mp hmem
  have hsound := Host.sound_of_mem_entries (CustomNames.nonBlank_ofRecord vars)
    hplay.custom_nonBlank he
  obtain ⟨haddress, haccounts⟩ := Host.accounts_of_mem_entries he
  exact ⟨hsound.address, hsound.hostname, hsound.fqdn, h, hplay, haddress, haccounts⟩

/-- A landscape with an application server and a database host that has an address in each
subnet. -/
def scaleOutRecord : Record := .ofList
  [("sap_fqdn", .string "contoso.com"), ("database_scale_out", .bool true),
    ("subnet_cidr_db", .string "10.0.1.0/24"), ("subnet_cidr_storage", .string "10.0.2.0/24"),
    ("subnet_cidr_client", .string "10.0.3.0/24"),
    ("custom_pas_virtual_hostname", .string "pas"),
    ("ansible_play_hosts", .ofTexts ["db0", "app0"]),
    ("hostvars", .object
      [("app0", .object
          [("ipadd", .string "10.0.3.10"), ("supported_tiers", .ofTexts ["pas", "web"])]),
        ("db0", .object
          [("ipadd", .ofTexts ["10.0.3.4", "10.0.1.4", "10.0.2.4"]),
            ("supported_tiers", .string "hana")])])]

/-- A host has each of the four reasons for some entry, and the last of them is accounted for. -/
theorem scaleOutRecord_entry_accounted :
    { Rendering.ofRecord scaleOutRecord with viewer := none : Rendering }.hostEntries
        = [⟨"10.0.3.10", "app0.contoso.com", "app0"⟩, ⟨"10.0.3.10", "pas.contoso.com", "pas"⟩,
          ⟨"10.0.3.4", "db0.contoso.com", "db0"⟩,
          ⟨"10.0.1.4", "db0-hana.contoso.com", "db0-hana"⟩,
          ⟨"10.0.2.4", "db0-storage.contoso.com", "db0-storage"⟩]
      ∧ ∃ h : Host, h.InPlay scaleOutRecord ∧ "10.0.2.4" ∈ h.addresses
        ∧ h.Accounts (.ofRecord scaleOutRecord) (.ofRecord scaleOutRecord)
          ⟨"10.0.2.4", "db0-storage.contoso.com", "db0-storage"⟩ := by
  have hentries : { Rendering.ofRecord scaleOutRecord with viewer := none : Rendering }.hostEntries
      = [⟨"10.0.3.10", "app0.contoso.com", "app0"⟩, ⟨"10.0.3.10", "pas.contoso.com", "pas"⟩,
        ⟨"10.0.3.4", "db0.contoso.com", "db0"⟩, ⟨"10.0.1.4", "db0-hana.contoso.com", "db0-hana"⟩,
        ⟨"10.0.2.4", "db0-storage.contoso.com", "db0-storage"⟩] := by decide +kernel
  obtain ⟨-, -, -, hhost⟩ := entry_accounted scaleOutRecord none
    ⟨"10.0.2.4", "db0-storage.contoso.com", "db0-storage"⟩ (by rw [hentries]; simp)
  exact ⟨hentries, hhost⟩

end HostsBlock
