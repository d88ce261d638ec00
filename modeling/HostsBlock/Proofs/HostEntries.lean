import HostsBlock.Rendering

/-!
# Where the entries of a host come from

`Host.entries` is a cascade: the addresses that are shown, the check of the primary one, and then
three producers. The theorems about blocks should not take that cascade apart again, so this file
says once what a host's entries are. `Host.entries_cases` is the statement that the others start
from: either there are none, or they are the entry of the primary address, those of the roles and
those with a suffix, in this order, and the primary address and the host's name have been checked.

An address that got an entry with a suffix was not checked there. It is one all the same, since it
lies in a subnet and only addresses do.
-/

namespace HostsBlock

/-- A check lets exactly the entries with an address and a name that is not blank pass. -/
theorem Entry.checked?_eq_some_iff {e e' : Entry} :
    e.checked? = some e' ↔
      e' = e ∧ Text.isBlankText e.hostname = false ∧ (Address.parse? e.address).isSome = true := by
  unfold checked?
  cases hblank : Text.isBlankText e.hostname <;> cases hparse : Address.parse? e.address <;>
    simp [eq_comm]

/-- Only an address lies in a subnet. -/
theorem Subnets.parse?_isSome_of_contains {s : Subnets} {kind : Subnet} {address : String}
    (h : s.contains kind address = true) : (Address.parse? address).isSome = true := by
  unfold contains membership HostsBlock.membership at h
  cases hcidr : s.cidr? kind with
  | none => simp [hcidr] at h
  | some cidr =>
      rw [hcidr] at h
      cases hparse : Address.parse? address with
      | none => simp [hparse] at h
      | some a => rfl

/-- A subnet whose text is missing or stands for no network holds nothing. -/
theorem Subnets.contains_eq_false_of_unreadable {s : Subnets} {kind : Subnet}
    (h : ∀ cidr, s.cidr? kind = some cidr → Network.parse? cidr = Option.none) (address : String) :
    s.contains kind address = false := by
  unfold contains membership HostsBlock.membership
  cases hcidr : s.cidr? kind with
  | none => rfl
  | some cidr =>
      dsimp only
      rw [h cidr hcidr]
      cases Address.parse? address <;> rfl

/-- The suffix of an address tells in which subnet the address lies. -/
theorem scaleOutSuffix?_cases {d : Deployment} {s : Subnets} {address suffix : String}
    (h : scaleOutSuffix? d s address = some suffix) :
    (s.contains .database address = true
      ∧ suffix = if d.dbHighAvailability then "-hsr" else "-hana")
    ∨ (s.contains .storage address = true ∧ s.contains .database address = false
      ∧ suffix = if d.dbHighAvailability then "-inter" else "-storage") := by
  unfold scaleOutSuffix? at h
  split at h
  · rename_i hdatabase
    exact Or.inl ⟨hdatabase, (Option.some.inj h).symm⟩
  · rename_i hdatabase
    split at h
    · rename_i hstorage
      exact Or.inr ⟨hstorage, Bool.eq_false_iff.mpr hdatabase, (Option.some.inj h).symm⟩
    · exact absurd h (by simp)

namespace Host

variable {d : Deployment} {s : Subnets} {isolation : Option Isolation} {h k : Host}

/-- **What a host's entries are.** -/
theorem entries_cases (d : Deployment) (s : Subnets) (isolation : Option Isolation) (h : Host) :
    h.entries d s isolation = [] ∨
      ∃ shown, h.shown? s isolation = some shown
        ∧ Text.isBlankText h.name = false
        ∧ (Address.parse? shown.primary).isSome = true
        ∧ h.entries d s isolation = entry d shown.primary h.name
            :: h.roleEntries d shown.primary ++ h.suffixedEntries d s shown.others := by
  unfold entries
  cases hshown : h.shown? s isolation with
  | none => exact Or.inl rfl
  | some shown =>
      dsimp only
      cases hchecked : (entry d shown.primary h.name).checked? with
      | none => exact Or.inl rfl
      | some first =>
          obtain ⟨rfl, hname, haddress⟩ := Entry.checked?_eq_some_iff.mp hchecked
          exact Or.inr ⟨shown, rfl, hname, haddress, rfl⟩

/-- A host whose name and primary address pass the check has all three kinds of entries. -/
theorem entries_eq_of_checked {shown : ShownAddresses} (hshown : h.shown? s isolation = some shown)
    (hblank : Text.isBlankText h.name = false)
    (haddress : (Address.parse? shown.primary).isSome = true) :
    h.entries d s isolation = entry d shown.primary h.name
      :: h.roleEntries d shown.primary ++ h.suffixedEntries d s shown.others := by
  have hchecked : (entry d shown.primary h.name).checked? = some (entry d shown.primary h.name) :=
    Entry.checked?_eq_some_iff.mpr ⟨rfl, hblank, haddress⟩
  unfold entries
  rw [hshown]
  dsimp only
  rw [hchecked]

theorem entries_of_checked {shown : ShownAddresses} (hshown : h.shown? s isolation = some shown)
    (hblank : Text.isBlankText h.name = false)
    (haddress : (Address.parse? shown.primary).isSome = true) :
    ∃ rest, h.entries d s isolation = entry d shown.primary h.name :: rest :=
  ⟨_, entries_eq_of_checked hshown hblank haddress⟩

/-- Entries for roles all have the primary address. -/
theorem address_of_mem_roleEntries {primary : String} {e : Entry}
    (he : e ∈ h.roleEntries d primary) : e.address = primary := by
  unfold roleEntries at he
  obtain ⟨name, -, rfl⟩ := List.mem_map.mp he
  rfl

/-- An entry with a suffix has one of the other addresses, and that lies in the database or in the
storage subnet. -/
theorem mem_suffixedEntries {others : List String} {e : Entry}
    (he : e ∈ h.suffixedEntries d s others) :
    e.address ∈ others ∧
      (s.contains .database e.address = true ∨ s.contains .storage e.address = true) ∧
      ∃ suffix, scaleOutSuffix? d s e.address = some suffix
        ∧ e = entry d e.address (h.name ++ suffix) := by
  unfold suffixedEntries at he
  split at he
  · obtain ⟨address, hmem, hsome⟩ := List.mem_filterMap.mp he
    obtain ⟨suffix, hsuffix, rfl⟩ := Option.map_eq_some_iff.mp hsome
    refine ⟨hmem, ?_, suffix, hsuffix, rfl⟩
    rcases scaleOutSuffix?_cases hsuffix with ⟨hdatabase, -⟩ | ⟨hstorage, -, -⟩
    · exact Or.inl hdatabase
    · exact Or.inr hstorage
  · exact absurd he (by simp)

/-- Every entry of a host has an address, also those that nobody has checked. -/
theorem parse?_isSome_of_mem_entries {e : Entry} (he : e ∈ h.entries d s isolation) :
    (Address.parse? e.address).isSome = true := by
  rcases entries_cases d s isolation h with hnil | ⟨shown, -, -, haddress, hentries⟩
  · rw [hnil] at he; exact absurd he (by simp)
  · rw [hentries] at he
    rcases List.mem_append.mp he with he | he
    · rcases List.mem_cons.mp he with rfl | he
      · exact haddress
      · rw [address_of_mem_roleEntries he]; exact haddress
    · -- the address is not checked, but what lies in a subnet is one
      obtain ⟨-, hcontains, -⟩ := mem_suffixedEntries he
      exact hcontains.elim Subnets.parse?_isSome_of_contains Subnets.parse?_isSome_of_contains

/-- Without other addresses there are no entries with a suffix. -/
theorem suffixedEntries_nil : h.suffixedEntries d s [] = [] := by
  unfold suffixedEntries
  split <;> rfl

/-- A host outside the database has no entries with a suffix. -/
theorem suffixedEntries_of_outside (hout : h.isHana = false) (others : List String) :
    h.suffixedEntries d s others = [] := by
  unfold suffixedEntries
  rw [hout, Bool.and_false, if_neg Bool.false_ne_true]

theorem roleEntries_congr (htiers : h.tiers = k.tiers) (hcustom : h.custom = k.custom)
    (primary : String) : h.roleEntries d primary = k.roleEntries d primary := by
  unfold roleEntries roleNames
  rw [htiers, hcustom]

theorem suffixedEntries_congr (hname : h.name = k.name) (htiers : h.tiers = k.tiers)
    (others : List String) : h.suffixedEntries d s others = k.suffixedEntries d s others := by
  unfold suffixedEntries isHana hasTier
  rw [hname, htiers]

/-- A host's entries depend on its addresses through the primary one and through the entries with a
suffix, and through nothing else. -/
theorem entries_congr_suffixed (hname : h.name = k.name) (htiers : h.tiers = k.tiers)
    (hcustom : h.custom = k.custom) {a b : ShownAddresses}
    (ha : h.shown? s isolation = some a) (hb : k.shown? s isolation = some b)
    (hprimary : a.primary = b.primary)
    (hsuffixed : h.suffixedEntries d s a.others = k.suffixedEntries d s b.others) :
    h.entries d s isolation = k.entries d s isolation := by
  unfold entries
  rw [ha, hb]
  dsimp only
  rw [hprimary, hname, hsuffixed, roleEntries_congr htiers hcustom]

/-- A host's entries depend on the addresses only as far as these are shown. -/
theorem entries_congr (hname : h.name = k.name) (htiers : h.tiers = k.tiers)
    (hcustom : h.custom = k.custom) (hshown : h.shown? s isolation = k.shown? s isolation) :
    h.entries d s isolation = k.entries d s isolation := by
  cases hk : k.shown? s isolation with
  | none =>
      unfold entries
      rw [hshown, hk]
  | some shown =>
      rw [hk] at hshown
      exact entries_congr_suffixed hname htiers hcustom hshown hk rfl
        (suffixedEntries_congr hname htiers shown.others)

end Host

end HostsBlock
