import HostsBlock.Proofs.Malformed
import HostsBlock.Proofs.Viewers

/-!
# The restricted view beside the full one

`Host.entries` makes the restricted view of a database host in its own way: it picks addresses in
the client subnet first and classifies them afterwards, and it takes a primary address from the
whole list. So it is not obvious how the two views go together.

The entries under the host's own name and under the names of its roles are there in both views, one
by one, and may differ in their address only. Behind them, **the restricted view is the full one,
filtered**: an entry with a suffix stays exactly if its address lies in the client subnet. The
reason is `Host.suffixedEntries_filter`, since the suffix of an address does not depend on the
addresses around it.

The first address must be one. If it is not, the full view has nothing at all, while the restricted
one may have entries for addresses in the client subnet.
-/

namespace HostsBlock

/-- The two names of an entry. -/
def Entry.names (e : Entry) : String × String := (e.fqdn, e.hostname)

namespace Host

variable {d : Deployment} {s : Subnets} {isolation : Option Isolation} {h : Host}

/-- The entries of a host under its own name and under the names of its roles. -/
def leadingEntries (d : Deployment) (s : Subnets) (isolation : Option Isolation) (h : Host) :
    List Entry :=
  (h.entries d s isolation).take (1 + (h.roleNames d).length)

theorem leadingEntries_of_checked {shown : ShownAddresses}
    (hshown : h.shown? s isolation = some shown) (hblank : Text.isBlankText h.name = false)
    (haddress : (Address.parse? shown.primary).isSome = true) :
    h.leadingEntries d s isolation
      = entry d shown.primary h.name :: h.roleEntries d shown.primary := by
  unfold leadingEntries
  rw [entries_eq_of_checked hshown hblank haddress]
  exact List.take_left' (length_unsuffixed shown.primary)

/-- The names of the leading entries do not depend on the address that is shown. -/
theorem names_of_checked {shown : ShownAddresses}
    (hshown : h.shown? s isolation = some shown) (hblank : Text.isBlankText h.name = false)
    (haddress : (Address.parse? shown.primary).isSome = true) :
    (h.leadingEntries d s isolation).map Entry.names
      = (h.name :: h.roleNames d).map fun name => (d.qualify name, name) := by
  rw [leadingEntries_of_checked hshown hblank haddress, roleEntries, ← List.map_cons,
    List.map_map]
  rfl

theorem entries_of_blank (hblank : Text.isBlankText h.name = true) :
    h.entries d s isolation = [] := by
  rcases entries_cases d s isolation h with hnil | ⟨_, -, hname, -⟩
  · exact hnil
  · rw [hblank] at hname
    exact absurd hname (by simp)

/-- **Choosing addresses and choosing entries is the same**, as long as the choice goes by the
address. -/
theorem suffixedEntries_filter (keep : String → Bool) (others : List String) :
    h.suffixedEntries d s (others.filter keep)
      = (h.suffixedEntries d s others).filter fun e => keep e.address := by
  unfold suffixedEntries
  split
  · rw [List.filterMap_filter, List.filter_filterMap]
    refine List.filterMap_congr fun address _ => ?_
    cases scaleOutSuffix? d s address with
    | none => rw [Option.map_none, Option.filter_none, ite_self]
    | some suffix => rw [Option.map_some, Option.filter_some]; rfl
  · rfl

/-- The primary address of the restricted view is one if the host's first address is. -/
theorem primary_isSome {first : String} {rest : List String}
    (haddress : (Address.parse? first).isSome = true) :
    (Address.parse? (((first :: rest).find? (s.contains .client)).getD first)).isSome = true := by
  cases hfind : (first :: rest).find? (s.contains .client) with
  | none => exact haddress
  | some address => exact Subnets.parse?_isSome_of_contains (List.find?_some hfind)

theorem shown?_none {first : String} {rest : List String}
    (haddresses : h.addresses = first :: rest) :
    h.shown? s none = some ⟨first, rest⟩ := by
  unfold shown?
  rw [haddresses]
  rfl

/-- What the restricted view shows of a host has a primary address that is one, and its other
addresses have the entries that are left of those of the full view. -/
theorem exists_shown_filtered {first : String} {rest : List String}
    (haddresses : h.addresses = first :: rest) (haddress : (Address.parse? first).isSome = true) :
    ∃ shown, h.shown? s (some .filtered) = some shown
      ∧ (Address.parse? shown.primary).isSome = true
      ∧ h.suffixedEntries d s shown.others
        = (h.suffixedEntries d s rest).filter fun e => s.contains .client e.address := by
  cases hhana : h.isHana with
  | true =>
      rw [shown?_filtered hhana, haddresses]
      exact ⟨_, rfl, primary_isSome haddress, suffixedEntries_filter _ rest⟩
  | false =>
      -- other hosts are shown as they are, and have no entries with a suffix in any view
      refine ⟨⟨first, rest⟩, ?_, haddress, ?_⟩
      · unfold shown? Isolation.filters
        rw [haddresses, Option.any_some, hhana, Bool.and_false]
        rfl
      · rw [suffixedEntries_of_outside hhana, List.filter_nil]

end Host

/--
**The restricted view is the full one, filtered.** Take a host whose first address is one, in any
landscape. Both views have the same leading entries, except for the address: one under the host's
own name and one under each name of its roles. And behind them the restricted view has exactly those
entries of the full one whose address lies in the client subnet, in the same order; all of these are
entries with the suffix of their address.
-/
theorem filtered_view_is_filter (d : Deployment) (s : Subnets) (h : Host) {first : String}
    (hfirst : h.addresses.head? = some first)
    (haddress : (Address.parse? first).isSome = true) :
    (h.leadingEntries d s (some .filtered)).map Entry.names
      = (h.leadingEntries d s none).map Entry.names
    ∧ (h.leadingEntries d s none).map Entry.names
      = (if Text.isBlankText h.name then [] else h.name :: h.roleNames d).map
          (fun name => (d.qualify name, name))
    ∧ h.otherEntries d s (some .filtered)
      = (h.otherEntries d s none).filter (fun e => s.contains .client e.address)
    ∧ ∀ e ∈ h.otherEntries d s none, ∃ suffix, scaleOutSuffix? d s e.address = some suffix
      ∧ e = Host.entry d e.address (h.name ++ suffix) := by
  obtain ⟨rest, haddresses⟩ := List.head?_eq_some_iff.mp hfirst
  have hshown : h.shown? s none = some ⟨first, rest⟩ := Host.shown?_none haddresses
  obtain ⟨shown, hshown', haddress', hsuffixed⟩ :=
    Host.exists_shown_filtered (d := d) (s := s) haddresses haddress
  cases hblank : Text.isBlankText h.name with
  | true =>
      -- a host without a name has no entries in any view
      unfold Host.leadingEntries Host.otherEntries
      rw [Host.entries_of_blank hblank, Host.entries_of_blank hblank]
      simp
  | false =>
      have hothers := Host.otherEntries_of_checked (d := d) hshown hblank haddress
      have hothers' := Host.otherEntries_of_checked (d := d) hshown' hblank haddress'
      rw [hothers, hothers', Host.names_of_checked hshown hblank haddress,
        Host.names_of_checked hshown' hblank haddress']
      refine ⟨rfl, rfl, hsuffixed, fun e he => ?_⟩
      obtain ⟨-, -, suffix, hsuffix, hentry⟩ := Host.mem_suffixedEntries he
      exact ⟨suffix, hsuffix, hentry⟩

/-- The overlapping host with further addresses, which also is the first application server. -/
def busyHost : Host where
  name := "db0"
  addresses := ["10.0.1.4", "10.0.3.20", "10.0.2.9", "unknown", "10.0.3.5"]
  tiers := ["hana", "pas"]
  custom := { CustomNames.none with pas := some "pas0" }

/-- Of its two entries with a suffix one is in the restricted view. The two entries in front of them
are in both views, with an address of each view. -/
theorem busyHost_filtered_view :
    busyHost.addresses.head? = some "10.0.1.4"
      ∧ (Address.parse? "10.0.1.4").isSome = true
      ∧ (busyHost.leadingEntries overlappingLandscape.deployment overlappingLandscape.subnets
          (some .filtered)).map Entry.names
        = [("db0.contoso.com", "db0"), ("pas0.contoso.com", "pas0")]
      ∧ busyHost.otherEntries overlappingLandscape.deployment overlappingLandscape.subnets none
        = [⟨"10.0.2.9", "db0-storage.contoso.com", "db0-storage"⟩,
          ⟨"10.0.3.5", "db0-hana.contoso.com", "db0-hana"⟩]
      ∧ busyHost.otherEntries overlappingLandscape.deployment overlappingLandscape.subnets
          (some .filtered)
        = [⟨"10.0.3.5", "db0-hana.contoso.com", "db0-hana"⟩] := by
  have haddress : (Address.parse? "10.0.1.4").isSome = true := by decide
  have hfull : busyHost.otherEntries overlappingLandscape.deployment overlappingLandscape.subnets
      none = [⟨"10.0.2.9", "db0-storage.contoso.com", "db0-storage"⟩,
        ⟨"10.0.3.5", "db0-hana.contoso.com", "db0-hana"⟩] := by
    decide +kernel
  obtain ⟨hnames, hleading, hothers, -⟩ := filtered_view_is_filter
    overlappingLandscape.deployment overlappingLandscape.subnets busyHost rfl haddress
  refine ⟨rfl, haddress, ?_, hfull, ?_⟩
  · rw [hnames, hleading]
    decide +kernel
  · rw [hothers, hfull]
    decide +kernel

end HostsBlock
