import HostsBlock.Proofs.FilteredView

/-!
# The two flags of the database

A deployment says of its database whether it is highly available and whether it is on several hosts.
This file compares the entries of the hosts before and after one of these flags is turned, with
everything else left as it is.

Neither flag has a say in which hosts have entries, since the name and the primary address that are
checked do not depend on the deployment at all, `Host.entries_eq_nil_or_checked`. Neither changes
the entries under a host's own name and under the names of its roles. What is left are the entries
with a suffix. **High availability gives them other suffixes, one by one, and several hosts are what
brings them in.**
-/

namespace HostsBlock

namespace Deployment

/-- The deployment with a highly available database, or with one that is not. -/
def withHighAvailability (d : Deployment) (available : Bool) : Deployment :=
  { d with dbHighAvailability := available }

theorem scaleOut_withHighAvailability (d : Deployment) (available : Bool) :
    (d.withHighAvailability available).scaleOut = d.scaleOut := rfl

/-- The deployment with its database on several hosts, or on one. -/
def withScaleOut (d : Deployment) (several : Bool) : Deployment := { d with scaleOut := several }

end Deployment

namespace Host

variable {d : Deployment} {s : Subnets} {isolation : Option Isolation} {h : Host}

/-- **Whether a host has entries is not for the deployment to say.** -/
theorem entries_eq_nil_or_checked (s : Subnets) (isolation : Option Isolation) (h : Host) :
    (∀ d, h.entries d s isolation = []) ∨
      ∃ shown, h.shown? s isolation = some shown
        ∧ Text.isBlankText h.name = false
        ∧ (Address.parse? shown.primary).isSome = true := by
  by_cases hchecked : ∃ shown, h.shown? s isolation = some shown
      ∧ Text.isBlankText h.name = false
      ∧ (Address.parse? shown.primary).isSome = true
  · exact Or.inr hchecked
  · refine Or.inl fun d => ?_
    rcases entries_cases d s isolation h with hnil | ⟨shown, hshown, hblank, haddress, -⟩
    · exact hnil
    · exact absurd ⟨shown, hshown, hblank, haddress⟩ hchecked

/-! ## High availability -/

/-- An entry of a database host for another address, as it is with a highly available database and
as it is with one that is not. -/
inductive Renamed (d : Deployment) (s : Subnets) (h : Host) : Entry → Entry → Prop
  | database (address : String) (hin : s.contains .database address = true) :
      Renamed d s h (entry d address (h.name ++ "-hsr")) (entry d address (h.name ++ "-hana"))
  | storage (address : String) (hin : s.contains .storage address = true)
      (hout : s.contains .database address = false) :
      Renamed d s h (entry d address (h.name ++ "-inter"))
        (entry d address (h.name ++ "-storage"))

theorem Renamed.address_eq {e e' : Entry} (hrenamed : h.Renamed d s e e') :
    e.address = e'.address := by
  cases hrenamed with
  | database address hin => rfl
  | storage address hin hout => rfl

/-- Both deployments give an address a suffix or neither does. -/
theorem renamed_scaleOutSuffix? (d : Deployment) (s : Subnets) (h : Host) (address : String) :
    Option.Rel (h.Renamed d s)
      ((scaleOutSuffix? (d.withHighAvailability true) s address).map fun suffix =>
        entry d address (h.name ++ suffix))
      ((scaleOutSuffix? (d.withHighAvailability false) s address).map fun suffix =>
        entry d address (h.name ++ suffix)) := by
  unfold scaleOutSuffix?
  -- which case applies is for the subnets to say, and the flag only chooses the suffix
  by_cases hdatabase : s.contains .database address = true
  · rw [if_pos hdatabase, if_pos hdatabase]
    exact .some (.database address hdatabase)
  · rw [if_neg hdatabase, if_neg hdatabase]
    by_cases hstorage : s.contains .storage address = true
    · rw [if_pos hstorage, if_pos hstorage]
      exact .some (.storage address hstorage (Bool.eq_false_iff.mpr hdatabase))
    · rw [if_neg hstorage, if_neg hstorage]
      exact .none

theorem renamed_suffixedEntries (d : Deployment) (s : Subnets) (h : Host)
    (others : List String) :
    List.Forall₂ (h.Renamed d s)
      (h.suffixedEntries (d.withHighAvailability true) s others)
      (h.suffixedEntries (d.withHighAvailability false) s others) := by
  unfold suffixedEntries
  rw [Deployment.scaleOut_withHighAvailability, Deployment.scaleOut_withHighAvailability]
  split
  · refine List.rel_filterMap (R := Eq) ?_ (List.forall₂_same.mpr fun _ _ => rfl)
    rintro address _ rfl
    exact renamed_scaleOutSuffix? d s h address
  · exact .nil

/-- **A host keeps its leading entries, and each of the others gets another suffix.** -/
theorem renamed_entries (d : Deployment) (s : Subnets) (isolation : Option Isolation) (h : Host) :
    h.leadingEntries (d.withHighAvailability true) s isolation
      = h.leadingEntries (d.withHighAvailability false) s isolation
    ∧ List.Forall₂ (h.Renamed d s) (h.otherEntries (d.withHighAvailability true) s isolation)
      (h.otherEntries (d.withHighAvailability false) s isolation) := by
  rcases entries_eq_nil_or_checked s isolation h with hnil | ⟨shown, hshown, hblank, haddress⟩
  · -- the host has no entries under either deployment
    unfold leadingEntries otherEntries
    rw [hnil, hnil, List.take_nil, List.take_nil, List.drop_nil, List.drop_nil]
    exact ⟨rfl, .nil⟩
  · rw [leadingEntries_of_checked hshown hblank haddress,
      leadingEntries_of_checked hshown hblank haddress,
      otherEntries_of_checked hshown hblank haddress,
      otherEntries_of_checked hshown hblank haddress]
    exact ⟨rfl, renamed_suffixedEntries d s h shown.others⟩

theorem leading_append_other (d : Deployment) (s : Subnets) (isolation : Option Isolation)
    (h : Host) :
    h.leadingEntries d s isolation ++ h.otherEntries d s isolation = h.entries d s isolation :=
  List.take_append_drop _ _

end Host

/--
**High availability renames suffixes and does nothing else.** Take any hosts, any subnets and any
isolation, and any deployment once with a highly available database and once with one that is not.

The entries of the block correspond one by one, with the same addresses. Two that correspond are the
same, or they are entries of one host under its name with a suffix: `-hsr` beside `-hana` for an
address in the database subnet, `-inter` beside `-storage` for one in the storage subnet only.

Of each host, the entries under its own name and under the names of its roles are the same, and all
entries behind them are renamed in this way.
-/
theorem high_availability_renames (i : Inventory) (d : Deployment) (s : Subnets)
    (isolation : Option Isolation) :
    List.Forall₂ (fun e e' => e = e' ∨ ∃ h ∈ i.hosts, h.Renamed d s e e')
      (i.entries (d.withHighAvailability true) s isolation)
      (i.entries (d.withHighAvailability false) s isolation)
    ∧ (i.entries (d.withHighAvailability true) s isolation).map Entry.address
      = (i.entries (d.withHighAvailability false) s isolation).map Entry.address
    ∧ ∀ h : Host,
      h.entries (d.withHighAvailability true) s isolation
        = h.leadingEntries (d.withHighAvailability true) s isolation
          ++ h.otherEntries (d.withHighAvailability true) s isolation
      ∧ h.leadingEntries (d.withHighAvailability true) s isolation
        = h.leadingEntries (d.withHighAvailability false) s isolation
      ∧ List.Forall₂ (h.Renamed d s) (h.otherEntries (d.withHighAvailability true) s isolation)
        (h.otherEntries (d.withHighAvailability false) s isolation) := by
  have hgroup : ∀ h : Host, List.Forall₂ (fun e e' => e = e' ∨ h.Renamed d s e e')
      (h.entries (d.withHighAvailability true) s isolation)
      (h.entries (d.withHighAvailability false) s isolation) := by
    intro h
    obtain ⟨hleading, hothers⟩ := Host.renamed_entries d s isolation h
    have hkept : List.Forall₂ (fun e e' => e = e' ∨ h.Renamed d s e e')
        (h.leadingEntries (d.withHighAvailability true) s isolation)
        (h.leadingEntries (d.withHighAvailability false) s isolation) := by
      rw [hleading]
      exact List.forall₂_same.mpr fun _ _ => Or.inl rfl
    rw [← Host.leading_append_other, ← Host.leading_append_other]
    exact List.rel_append hkept (hothers.imp fun _ _ => Or.inr)
  have hblock : List.Forall₂ (fun e e' => e = e' ∨ ∃ h ∈ i.hosts, h.Renamed d s e e')
      (i.entries (d.withHighAvailability true) s isolation)
      (i.entries (d.withHighAvailability false) s isolation) := by
    -- the hosts are the same, so the blocks are compared group by group
    refine List.rel_flatMap (R := fun h k => h = k ∧ h ∈ i.hosts)
      (List.forall₂_same.mpr fun h hmem => ⟨rfl, hmem⟩) ?_
    rintro h _ ⟨rfl, hmem⟩
    exact (hgroup h).imp fun _ _ => Or.imp_right fun hrenamed => ⟨h, hmem, hrenamed⟩
  refine ⟨hblock, ?_, fun h => ⟨(h.leading_append_other _ s isolation).symm,
    h.renamed_entries d s isolation⟩⟩
  rw [← List.forall₂_eq_eq_eq, List.forall₂_map_left_iff, List.forall₂_map_right_iff]
  refine hblock.imp fun e e' hpair => ?_
  rcases hpair with rfl | ⟨h, -, hrenamed⟩
  · rfl
  · exact hrenamed.address_eq

/-- The busy host is renamed under its two suffixes, and its other two entries stay. -/
example :
    busyHost.entries (overlappingLandscape.deployment.withHighAvailability true)
        overlappingLandscape.subnets none
      = [⟨"10.0.1.4", "db0.contoso.com", "db0"⟩, ⟨"10.0.1.4", "pas0.contoso.com", "pas0"⟩,
        ⟨"10.0.2.9", "db0-inter.contoso.com", "db0-inter"⟩,
        ⟨"10.0.3.5", "db0-hsr.contoso.com", "db0-hsr"⟩]
    ∧ (busyHost.entries (overlappingLandscape.deployment.withHighAvailability false)
        overlappingLandscape.subnets none).drop 2
      = [⟨"10.0.2.9", "db0-storage.contoso.com", "db0-storage"⟩,
        ⟨"10.0.3.5", "db0-hana.contoso.com", "db0-hana"⟩] := by
  decide +kernel

/-! ## Several hosts -/

namespace Host

variable {d : Deployment} {s : Subnets} {isolation : Option Isolation} {h : Host}

/-- Nobody in particular is shown all addresses of a host in their order. -/
theorem addresses_of_shown?_none {shown : ShownAddresses} (hshown : h.shown? s none = some shown) :
    h.addresses = shown.primary :: shown.others := by
  cases haddresses : h.addresses with
  | nil =>
      unfold shown? at hshown
      rw [haddresses] at hshown
      exact absurd hshown (by simp [ShownAddresses.of?])
  | cons first rest =>
      rw [shown?_none haddresses] at hshown
      obtain rfl := Option.some.inj hshown
      rfl

/-- Each of the other addresses has one entry if it has a suffix, and none if it has not. -/
theorem map_address_suffixedEntries (hscale : d.scaleOut = true) (hhana : h.isHana = true)
    (others : List String) :
    (h.suffixedEntries d s others).map Entry.address
      = others.filter fun a => (scaleOutSuffix? d s a).isSome := by
  unfold suffixedEntries
  rw [hscale, hhana, Bool.and_self, if_pos rfl, List.map_filterMap, ← List.filterMap_eq_filter]
  refine List.filterMap_congr fun a _ => ?_
  cases hsuffix : scaleOutSuffix? d s a with
  | none => simp [Option.guard, hsuffix]
  | some suffix => simp [Option.guard, hsuffix, entry]

/-- What several hosts bring in comes behind what there is on one. -/
theorem entries_withScaleOut {shown : ShownAddresses} (hshown : h.shown? s isolation = some shown)
    (hblank : Text.isBlankText h.name = false)
    (haddress : (Address.parse? shown.primary).isSome = true) :
    h.entries (d.withScaleOut false) s isolation
      = entry d shown.primary h.name :: h.roleEntries d shown.primary
    ∧ h.entries (d.withScaleOut true) s isolation
      = h.entries (d.withScaleOut false) s isolation
        ++ h.suffixedEntries (d.withScaleOut true) s shown.others := by
  have honOne : h.entries (d.withScaleOut false) s isolation
      = entry d shown.primary h.name :: h.roleEntries d shown.primary := by
    rw [entries_eq_of_checked hshown hblank haddress]
    exact List.append_nil _
  refine ⟨honOne, ?_⟩
  rw [honOne, entries_eq_of_checked hshown hblank haddress]
  rfl

/-- The entries without suffixes have the primary address. -/
theorem address_of_mem_unsuffixed {primary : String} {e : Entry}
    (he : e ∈ entry d primary h.name :: h.roleEntries d primary) : e.address = primary := by
  rcases List.mem_cons.mp he with rfl | he
  · rfl
  · exact address_of_mem_roleEntries he

theorem sublist_map_address_suffixedEntries (d : Deployment) (s : Subnets) (h : Host)
    (others : List String) :
    ((h.suffixedEntries (d.withScaleOut true) s others).map Entry.address).Sublist others := by
  cases hhana : h.isHana with
  | true =>
      rw [map_address_suffixedEntries rfl hhana]
      exact List.filter_sublist
  | false =>
      rw [suffixedEntries_of_outside hhana]
      exact List.nil_sublist _

end Host

/--
**A database on several hosts only adds suffixed entries of database hosts.** Take any hosts, any
subnets and any deployment, once with its database on several hosts and once on one, and the blocks
that are made for nobody in particular.

The entries that a host has with the database on one host all have the host's first address. On
several hosts, the host has these entries first, and what comes behind them is nothing for a host
outside the database. For a database host it is at most one entry for each address behind the first,
in the order of these addresses, and each is the entry of its address under the host's name with the
suffix of that address. No address with a suffix is left out, if the host has entries at all.
-/
theorem scale_out_appends (i : Inventory) (d : Deployment) (s : Subnets) :
    (∀ several, (Rendering.mk (d.withScaleOut several) s i none).hostEntries
      = i.hosts.flatMap (·.entries (d.withScaleOut several) s none))
    ∧ ∀ h : Host, ∃ added : List Entry,
      h.entries (d.withScaleOut true) s none = h.entries (d.withScaleOut false) s none ++ added
      ∧ (h.isHana = false → added = [])
      ∧ (∀ e ∈ added, ∃ suffix, scaleOutSuffix? d s e.address = some suffix
        ∧ e = Host.entry d e.address (h.name ++ suffix))
      ∧ (added.map Entry.address).Sublist h.addresses.tail
      ∧ (h.isHana = true → h.entries (d.withScaleOut false) s none ≠ [] →
        added.map Entry.address
          = h.addresses.tail.filter fun a => (scaleOutSuffix? d s a).isSome)
      ∧ ∀ e ∈ h.entries (d.withScaleOut false) s none, h.addresses.head? = some e.address := by
  refine ⟨fun several => ?_, fun h => ?_⟩
  · unfold Rendering.hostEntries Rendering.isolation Isolation.forViewer?
    rw [Option.map_none, ite_self]
    rfl
  · rcases Host.entries_eq_nil_or_checked s none h with
      hnil | ⟨shown, hshown, hblank, haddress⟩
    · -- a host without entries has none on several hosts either
      rw [hnil, hnil]
      exact ⟨[], by simp⟩
    · have haddresses := Host.addresses_of_shown?_none hshown
      obtain ⟨honOne, honSeveral⟩ := Host.entries_withScaleOut (d := d) hshown hblank haddress
      rw [honSeveral, haddresses, List.tail_cons, List.head?_cons]
      refine ⟨_, rfl, fun hout => Host.suffixedEntries_of_outside hout _, fun e he => ?_,
        Host.sublist_map_address_suffixedEntries d s h shown.others,
        fun hhana _ => Host.map_address_suffixedEntries rfl hhana shown.others, fun e he => ?_⟩
      · obtain ⟨-, -, hsuffix⟩ := Host.mem_suffixedEntries he
        exact hsuffix
      · rw [honOne] at he
        rw [Host.address_of_mem_unsuffixed he]

/-- Of the four addresses behind the first one of the busy host, two have a suffix. -/
example :
    busyHost.entries (overlappingLandscape.deployment.withScaleOut false)
        overlappingLandscape.subnets none
      = [⟨"10.0.1.4", "db0.contoso.com", "db0"⟩, ⟨"10.0.1.4", "pas0.contoso.com", "pas0"⟩]
    ∧ (busyHost.entries (overlappingLandscape.deployment.withScaleOut true)
        overlappingLandscape.subnets none).drop 2
      = [⟨"10.0.2.9", "db0-storage.contoso.com", "db0-storage"⟩,
        ⟨"10.0.3.5", "db0-hana.contoso.com", "db0-hana"⟩] := by
  decide +kernel

end HostsBlock
