import HostsBlock.Proofs.Octets
import HostsBlock.Proofs.Provenance

/-!
# The groups of a block

The entries of a block come in groups, one for each host, and the groups in the order of the hosts'
names. This file says which hosts have a group: `groups_of_hosts` gives the exact set of their
names, in terms of the record alone.

A host is left out if its name is blank, if it has no addresses or if the address it is to be shown
with is none. Which address that is depends on the viewer, and `Host.shownFirst?` says so without
the rest of what is shown. Nothing else can remove a host, and nothing can bring one in twice, since
no two hosts of an inventory have one name.
-/

namespace HostsBlock

open Text

/-- The address with which a host is shown under its own name: its first one, but for a database
host among several and a viewer outside the database the first one in the client subnet, if there is
one. -/
def Host.shownFirst? (d : Deployment) (s : Subnets) (viewer : Option Viewer) (h : Host) :
    Option String :=
  if d.scaleOut && viewer.any (!·.isHana) && h.isHana then
    (h.addresses.find? (s.contains .client)).or h.addresses.head?
  else h.addresses.head?

namespace Host

variable {d : Deployment} {s : Subnets} {isolation : Option Isolation} {h : Host}

/-! ## One host -/

theorem filters_forViewer (d : Deployment) (viewer : Option Viewer) (h : Host) :
    (Isolation.forViewer? d viewer).any (·.filters h)
      = (d.scaleOut && viewer.any (!·.isHana) && h.isHana) := by
  unfold Isolation.forViewer?
  cases d.scaleOut with
  | false => rfl
  | true =>
      cases viewer with
      | none => rfl
      | some v => cases hv : v.isHana <;> simp [Isolation.filters, hv]

/-- The primary address of what is shown is the one that the viewer calls for. -/
theorem map_primary_shown? (d : Deployment) (s : Subnets) (viewer : Option Viewer) (h : Host) :
    (h.shown? s (Isolation.forViewer? d viewer)).map (·.primary) = h.shownFirst? d s viewer := by
  unfold shown? shownFirst?
  rw [filters_forViewer]
  cases haddresses : h.addresses with
  | nil => split <;> rfl
  | cons first rest =>
      cases d.scaleOut && viewer.any (!·.isHana) && h.isHana with
      | false => rfl
      | true =>
          show some (((first :: rest).find? (s.contains .client)).getD first) = _
          rw [if_pos rfl]
          cases (first :: rest).find? (s.contains .client) <;> rfl

/-- What a host needs to have a group. -/
structure Shown (d : Deployment) (s : Subnets) (viewer : Option Viewer) (h : Host)
    (primary : String) : Prop where
  name : isBlankText h.name = false
  first : h.shownFirst? d s viewer = some primary
  address : (Address.parse? primary).isSome = true

theorem Shown.entries_eq {viewer : Option Viewer} {primary : String}
    (hneeds : h.Shown d s viewer primary) :
    ∃ rest, h.entries d s (Isolation.forViewer? d viewer) = entry d primary h.name :: rest := by
  have hfirst := hneeds.first
  rw [← map_primary_shown?] at hfirst
  obtain ⟨shown, hshown, rfl⟩ := Option.map_eq_some_iff.mp hfirst
  exact entries_of_checked hshown hneeds.name hneeds.address

/-- **A host has a group exactly if it has what it needs.** -/
theorem entries_ne_nil_iff (viewer : Option Viewer) :
    h.entries d s (Isolation.forViewer? d viewer) ≠ [] ↔
      ∃ primary, h.Shown d s viewer primary := by
  constructor
  · intro hne
    rcases entries_cases d s (Isolation.forViewer? d viewer) h with
      hnil | ⟨shown, hshown, hblank, haddress, -⟩
    · exact absurd hnil hne
    · have hfirst : h.shownFirst? d s viewer = some shown.primary := by
        rw [← map_primary_shown?, hshown]
        rfl
      exact ⟨shown.primary, hblank, hfirst, haddress⟩
  · rintro ⟨primary, hneeds⟩
    obtain ⟨rest, hrest⟩ := hneeds.entries_eq
    rw [hrest]
    exact List.cons_ne_nil _ _

theorem addresses_ne_nil_of_shownFirst? {viewer : Option Viewer} {primary : String}
    (hfirst : h.shownFirst? d s viewer = some primary) : h.addresses ≠ [] := by
  intro hnil
  unfold shownFirst? at hfirst
  rw [hnil] at hfirst
  split at hfirst <;> exact absurd hfirst (by simp)

end Host

/-! ## All hosts -/

/-- Parts that are empty may be left out of a concatenation. -/
theorem flatMap_filter_isEmpty {α β : Type} (f : α → List β) (xs : List α) :
    (xs.filter fun x => !(f x).isEmpty).flatMap f = xs.flatMap f := by
  induction xs with
  | nil => rfl
  | cons x xs ih =>
      cases hx : (f x).isEmpty with
      | true =>
          rw [List.filter_cons_of_neg (by simp [hx]), ih, List.flatMap_cons,
            List.isEmpty_iff.mp hx, List.nil_append]
      | false =>
          rw [List.filter_cons_of_pos (by simp [hx]), List.flatMap_cons, List.flatMap_cons, ih]

namespace Record

variable {vars : Record} {viewer : Option Viewer}

/-- The hosts of a record that have a group, in their order. -/
def shownHosts (vars : Record) (viewer : Option Viewer) : List Host :=
  (Inventory.ofRecord vars).hosts.filter fun h =>
    !(h.entries (.ofRecord vars) (.ofRecord vars)
      (Isolation.forViewer? (.ofRecord vars) viewer)).isEmpty

theorem sorted_shownHosts : Keyed.Sorted Host.name (vars.shownHosts viewer) :=
  (Inventory.sorted_ofRecord vars).sublist List.filter_sublist

theorem mem_shownHosts {h : Host} :
    h ∈ vars.shownHosts viewer ↔
      h.InPlay vars ∧ ∃ primary, h.Shown (.ofRecord vars) (.ofRecord vars) viewer primary := by
  unfold shownHosts
  rw [List.mem_filter, Inventory.mem_hosts_ofRecord, ← Host.entries_ne_nil_iff,
    Bool.not_eq_true', List.isEmpty_eq_false_iff]

/-- What a name needs to be that of a host with a group, as far as a record and a viewer tell. -/
structure Lists (vars : Record) (viewer : Option Viewer) (name : String) : Prop where
  /-- The name is that of a play host. -/
  named : name ∈ vars.texts .playHosts
  /-- It is not blank. -/
  nonBlank : isBlankText name = false
  /-- It has variables with addresses, and the one to be shown is an address. -/
  described : ∃ value, vars.hostVariables? name = some value
    ∧ (Host.ofVariables name value).addresses ≠ []
    ∧ ∃ primary, (Host.ofVariables name value).shownFirst? (.ofRecord vars) (.ofRecord vars) viewer
        = some primary
      ∧ (Address.parse? primary).isSome = true

theorem mem_map_name_shownHosts {name : String} :
    name ∈ (vars.shownHosts viewer).map Host.name ↔ vars.Lists viewer name := by
  rw [List.mem_map]
  constructor
  · rintro ⟨h, hmem, rfl⟩
    obtain ⟨⟨hnamed, value, hvalue, heq⟩, primary, hblank, hfirst, haddress⟩ :=
      mem_shownHosts.mp hmem
    rw [heq] at hfirst
    exact ⟨hnamed, hblank, value, hvalue, Host.addresses_ne_nil_of_shownFirst? hfirst, primary,
      hfirst, haddress⟩
  · rintro ⟨hnamed, hblank, value, hvalue, -, primary, hfirst, haddress⟩
    refine ⟨Host.ofVariables name value, mem_shownHosts.mpr ⟨?_, primary, ?_⟩, rfl⟩
    · exact ⟨hnamed, value, hvalue, rfl⟩
    · exact ⟨hblank, hfirst, haddress⟩

end Record

/--
**No host is lost, there twice or out of order.** Take any record and any viewer. The entries of
hosts are the entries of one host after the other, for hosts of the record whose names are strictly
increasing in the order of their octets. There is one of a name exactly if the name is that of a
play host with variables, is not blank, and among the host's addresses the one to be shown is an
address. The group of a host starts with this address under the host's own name, and the host has a
reason for every entry behind it.
-/
theorem groups_of_hosts (vars : Record) (viewer : Option Viewer) :
    ∃ hosts : List Host,
      { Rendering.ofRecord vars with viewer := viewer : Rendering }.hostEntries
        = hosts.flatMap (·.entries (.ofRecord vars) (.ofRecord vars)
            (Isolation.forViewer? (.ofRecord vars) viewer))
      ∧ (hosts.Pairwise fun h k => octets h.name < octets k.name)
      ∧ (∀ name, name ∈ hosts.map Host.name ↔ vars.Lists viewer name)
      ∧ ∀ h ∈ hosts, h.InPlay vars ∧ ∃ primary rest,
        h.shownFirst? (.ofRecord vars) (.ofRecord vars) viewer = some primary
        ∧ h.entries (.ofRecord vars) (.ofRecord vars)
            (Isolation.forViewer? (.ofRecord vars) viewer)
          = ⟨primary, h.name ++ "." ++ vars.text .sapFqdn "", h.name⟩ :: rest
        ∧ ∀ e ∈ rest, e.address ∈ h.addresses
          ∧ h.Accounts (.ofRecord vars) (.ofRecord vars) e := by
  refine ⟨vars.shownHosts viewer, ?_, ?_, fun name => Record.mem_map_name_shownHosts, ?_⟩
  · -- a host without a group adds nothing
    rw [Rendering.hostEntries_ofRecord]
    exact (flatMap_filter_isEmpty _ _).symm
  · exact Record.sorted_shownHosts.imp octets_lt_iff.mpr
  · intro h hmem
    obtain ⟨hplay, primary, hneeds⟩ := Record.mem_shownHosts.mp hmem
    obtain ⟨rest, hrest⟩ := hneeds.entries_eq
    refine ⟨hplay, primary, rest, hneeds.first, hrest, fun e he => ?_⟩
    have hgroup : e ∈ h.entries (.ofRecord vars) (.ofRecord vars)
        (Isolation.forViewer? (.ofRecord vars) viewer) := by
      rw [hrest]
      exact List.mem_cons_of_mem _ he
    exact Host.accounts_of_mem_entries hgroup

end HostsBlock
