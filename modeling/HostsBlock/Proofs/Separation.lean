import HostsBlock.Proofs.Isolation
import HostsBlock.Proofs.SubnetReport

/-!
# What a report without warnings is worth

The check of the subnets and the making of a block know nothing of each other. The check compares
networks in pairs; the block asks for one address at a time in which subnet it lies. This file joins
them: if the check has no warnings, **no text is an address in two of the subnets**. Errors do no
harm, since a subnet whose text stands for no network holds nothing.

Two things follow that whoever sets up a landscape relies on. The order in which an address is
looked up in the subnets does not matter, so a suffix depends on the address alone. And a viewer
outside the database sees no suffixes at all: of a database host's other addresses only those in the
client subnet are shown, and these now lie neither in the database nor in the storage subnet.
-/

namespace HostsBlock

namespace Subnets

variable {s : Subnets}

/-! ## From warnings to addresses -/

/-- An address lies in a subnet if the subnet's text stands for a network that holds it. -/
theorem contains_iff {kind : Subnet} {address : String} :
    s.contains kind address = true ↔
      ∃ x cidr n, Address.parse? address = some x ∧ s.Reads kind cidr n
        ∧ n.contains x = true := by
  unfold contains membership HostsBlock.membership Reads
  rw [beq_iff_eq]
  constructor
  · intro h
    cases hcidr : s.cidr? kind with
    | none => rw [hcidr] at h; exact absurd h (by simp)
    | some cidr =>
        rw [hcidr] at h
        dsimp only at h
        split at h
        · rename_i x n hx hn
          split at h
          · rename_i hin
            exact ⟨x, cidr, n, hx, ⟨rfl, hn⟩, hin⟩
          · exact absurd h (by simp)
        · exact absurd h (by simp)
  · rintro ⟨x, cidr, n, hx, ⟨hcidr, hn⟩, hin⟩
    rw [hcidr]
    dsimp only
    rw [hx, hn]
    exact if_pos hin

theorem not_shares_of_no_warnings (hclean : s.validate.warnings = []) {first second : Subnet}
    (hpair : (first, second) ∈ laterPairs Subnet.all) (firstCidr secondCidr : String) :
    ¬ s.Shares first firstCidr second secondCidr := by
  intro hshares
  obtain ⟨-, -, hwarnings⟩ := validate_eq s
  have hnone : s.overlap? (first, second) = Option.none :=
    List.filterMap_eq_nil_iff.mp (hwarnings.symm.trans hclean) _ hpair
  have hsome : s.overlap? (first, second) = some ⟨first, firstCidr, second, secondCidr⟩ :=
    overlap?_eq_some_iff.mpr ⟨rfl, hshares⟩
  rw [hnone] at hsome
  exact absurd hsome (by simp)

theorem Shares.symm {first second : Subnet} {firstCidr secondCidr : String}
    (h : s.Shares first firstCidr second secondCidr) :
    s.Shares second secondCidr first firstCidr := by
  obtain ⟨m, n, hm, hn, x, hxm, hxn⟩ := h
  exact ⟨n, m, hn, hm, x, hxn, hxm⟩

theorem compared_of_ne {kind kind' : Subnet} (h : kind ≠ kind') :
    (kind, kind') ∈ laterPairs Subnet.all ∨ (kind', kind) ∈ laterPairs Subnet.all := by
  cases kind <;> cases kind' <;> simp_all [laterPairs, Subnet.all]

/-- **Without warnings an address lies in one subnet at most.** -/
theorem eq_of_contains (hclean : s.validate.warnings = []) {kind kind' : Subnet}
    {address : String} (h : s.contains kind address = true)
    (h' : s.contains kind' address = true) : kind = kind' := by
  by_contra hne
  obtain ⟨x, cidr, m, hx, hm, hxm⟩ := contains_iff.mp h
  obtain ⟨x', cidr', n, hx', hn, hxn⟩ := contains_iff.mp h'
  -- a text is one address at most, and so the two networks share it
  obtain rfl : x = x' := Option.some.inj (hx.symm.trans hx')
  have hshares : s.Shares kind cidr kind' cidr' := ⟨m, n, hm, hn, x, hxm, hxn⟩
  rcases compared_of_ne hne with hpair | hpair
  · exact not_shares_of_no_warnings hclean hpair cidr cidr' hshares
  · exact not_shares_of_no_warnings hclean hpair cidr' cidr hshares.symm

end Subnets

/-! ## The order of the subnets -/

/-- The suffix for an address of a database host if the storage subnet came first. -/
def storageFirstSuffix? (d : Deployment) (subnets : Subnets) (address : String) :
    Option String :=
  if subnets.contains .storage address then
    some (if d.dbHighAvailability then "-inter" else "-storage")
  else if subnets.contains .database address then
    some (if d.dbHighAvailability then "-hsr" else "-hana")
  else none

theorem scaleOutSuffix?_eq_storageFirst {d : Deployment} {s : Subnets} {address : String}
    (h : ¬(s.contains .database address = true ∧ s.contains .storage address = true)) :
    scaleOutSuffix? d s address = storageFirstSuffix? d s address := by
  unfold scaleOutSuffix? storageFirstSuffix?
  by_cases hdatabase : s.contains .database address = true
  · have hstorage : ¬ s.contains .storage address = true := fun hstorage =>
      h ⟨hdatabase, hstorage⟩
    rw [if_pos hdatabase, if_neg hstorage, if_pos hdatabase]
  · rw [if_neg hdatabase, if_neg hdatabase]

/-! ## Entries without suffixes -/

namespace Host

variable {d : Deployment} {s : Subnets} {isolation : Option Isolation} {h : Host}

/-- The entries of a host under its own name and under the names of its roles. -/
def unsuffixedEntries (d : Deployment) (s : Subnets) (isolation : Option Isolation) (h : Host) :
    List Entry :=
  match h.ownLine? d s isolation with
  | none => []
  | some own => own :: h.roleEntries d own.address

/-- Without suffixed entries for what is shown, a host's other entries are all there is. -/
theorem entries_eq_unsuffixedEntries
    (hnone : ∀ shown, h.shown? s isolation = some shown →
      h.suffixedEntries d s shown.others = []) :
    h.entries d s isolation = h.unsuffixedEntries d s isolation := by
  unfold entries unsuffixedEntries ownLine?
  cases hshown : h.shown? s isolation with
  | none => rfl
  | some shown =>
      rw [Option.bind_some]
      dsimp only
      cases hchecked : (entry d shown.primary h.name).checked? with
      | none => rfl
      | some first =>
          obtain ⟨rfl, -, -⟩ := Entry.checked?_eq_some_iff.mp hchecked
          dsimp only
          rw [hnone shown hshown, List.append_nil]
          rfl

/-- An address in a third subnet has no suffix, if it is in one subnet only. -/
theorem scaleOutSuffix?_of_client {address : String} (hclean : s.validate.warnings = [])
    (hclient : s.contains .client address = true) : scaleOutSuffix? d s address = none := by
  have hdatabase : ¬ s.contains .database address = true := fun hdatabase =>
    absurd (Subnets.eq_of_contains hclean hdatabase hclient) (by decide)
  have hstorage : ¬ s.contains .storage address = true := fun hstorage =>
    absurd (Subnets.eq_of_contains hclean hstorage hclient) (by decide)
  unfold scaleOutSuffix?
  rw [if_neg hdatabase, if_neg hstorage]

/-- The restricted view has no suffixed entries if no address lies in two subnets. -/
theorem suffixedEntries_filtered (hclean : s.validate.warnings = []) {shown : ShownAddresses}
    (hshown : h.shown? s (some .filtered) = some shown) :
    h.suffixedEntries d s shown.others = [] := by
  unfold suffixedEntries
  split
  · rename_i hcond
    obtain ⟨-, hhana⟩ := Bool.and_eq_true_iff.mp hcond
    rw [shown?_filtered hhana] at hshown
    -- the other addresses that are shown lie in the client subnet, and so in no other
    refine List.filterMap_eq_nil_iff.mpr fun address haddress => ?_
    rw [scaleOutSuffix?_of_client hclean (others_in_client hshown address haddress)]
    rfl
  · rfl

end Host

/--
**What a report without warnings guarantees.** If the check of the subnets has no warnings, whatever
errors it has, every text is an address in one of the subnets at most, and so the suffix of an
address is the same whether the database or the storage subnet comes first. And in a landscape whose
database is on several hosts, a block for a viewer outside the database has no suffixed entries:
no address that is shown of a host has one, and the entries of the block are those under the hosts'
own names and under the names of their roles.
-/
theorem no_suffixes_without_warnings (s : Subnets) (hclean : s.validate.warnings = []) :
    (∀ address kind kind', s.contains kind address = true → s.contains kind' address = true →
      kind = kind')
    ∧ (∀ d address, scaleOutSuffix? d s address = storageFirstSuffix? d s address)
    ∧ ∀ (d : Deployment) (i : Inventory) (v : Viewer), d.scaleOut = true → v.isHana = false →
      (∀ h ∈ i.hosts, ∀ shown, h.shown? s (Isolation.forViewer? d (some v)) = some shown →
        h.suffixedEntries d s shown.others = [])
      ∧ (Rendering.mk d s i (some v)).hostEntries
        = i.hosts.flatMap (·.unsuffixedEntries d s (Isolation.forViewer? d (some v))) := by
  refine ⟨fun address kind kind' h h' => Subnets.eq_of_contains hclean h h', ?_, ?_⟩
  · intro d address
    refine scaleOutSuffix?_eq_storageFirst fun ⟨hdatabase, hstorage⟩ => ?_
    exact absurd (Subnets.eq_of_contains hclean hdatabase hstorage) (by decide)
  · intro d i v hscale hv
    have hnone : ∀ h : Host, ∀ shown,
        h.shown? s (Isolation.forViewer? d (some v)) = some shown →
          h.suffixedEntries d s shown.others = [] := by
      intro h shown hshown
      rw [Isolation.forViewer?_eq_filtered hscale hv] at hshown
      exact Host.suffixedEntries_filtered hclean hshown
    refine ⟨fun h _ => hnone h, ?_⟩
    unfold Rendering.hostEntries Rendering.isolation Inventory.entries
    exact List.flatMap_congr fun h _ => Host.entries_eq_unsuffixedEntries (hnone h)

/-- Subnets that are apart; the text of one of them stands for no network. -/
def apartSubnets : Subnets := ⟨some "10.0.1.0/24", some "10.0.2.0/99", some "10.0.3.0/24"⟩

/-- The database host of the landscape from above now has one address in the database subnet, whose
suffix a database host would be shown, and two in the client subnet. A viewer outside the database
is shown one entry. -/
theorem apartSubnets_no_suffixes :
    apartSubnets.validate.warnings = [] ∧ apartSubnets.validate.isValid = false
      ∧ (∀ kind, apartSubnets.contains .database "10.0.1.4" = true →
        apartSubnets.contains kind "10.0.1.4" = true → .database = kind)
      ∧ storageFirstSuffix? overlappingLandscape.deployment apartSubnets "10.0.1.4"
        = some "-hana"
      ∧ (Rendering.mk overlappingLandscape.deployment apartSubnets ⟨1, [overlappingHost]⟩
          (some ⟨"app0", false⟩)).hostEntries
        = [⟨"10.0.3.20", "db0.contoso.com", "db0"⟩] := by
  have hclean : apartSubnets.validate.warnings = [] := by decide
  obtain ⟨hone, horder, hblock⟩ := no_suffixes_without_warnings apartSubnets hclean
  obtain ⟨-, hentries⟩ :=
    hblock overlappingLandscape.deployment ⟨1, [overlappingHost]⟩ ⟨"app0", false⟩ rfl rfl
  refine ⟨hclean, by decide, fun kind => hone "10.0.1.4" .database kind, ?_, ?_⟩
  · rw [← horder]
    decide
  · rw [hentries]
    decide

end HostsBlock
