import HostsBlock.Proofs.HostEntries
import Mathlib.Data.List.Forall2

/-!
# What a viewer outside the database gets to see

In a landscape whose database is spread over several hosts, a viewer that is no database host is
shown database hosts with their addresses in the client subnet only. This file makes that precise
in two ways.

**Confinement** is about one block. Everything that it says about a database host with an address in
the client subnet, under the host's own name, under the name of a role or under a name with a
suffix, has an address in the client subnet. A host without such an address is not left out but
shown with its first address, and then nothing about its other addresses is said.

**Noninterference** is about two blocks. Replace the addresses of database hosts that lie outside
the client subnet by any others that do, be they addresses or not: the block does not change. It
needs more than confinement, since a hidden address could also show in which entries are left out
or in which order they come.

Both rest on one fact, `shown?_filtered`: for such a viewer, a host's addresses enter through a
search and a filter for addresses in the client subnet, and otherwise only as a first address to
fall back on.
-/

namespace HostsBlock

/-- In a database on several hosts, a viewer outside it gets the restricted view. -/
theorem Isolation.forViewer?_eq_filtered {d : Deployment} {v : Viewer}
    (hscale : d.scaleOut = true) (hv : v.isHana = false) :
    Isolation.forViewer? d (some v) = some .filtered := by
  unfold forViewer?
  rw [if_pos hscale, Option.map_some, hv]
  rfl

/-- A viewer that the inventory does not know is outside the database. -/
theorem Viewer.isHana_resolve_of_unknown {i : Inventory} {name : String}
    (h : i.find? name = none) : (Viewer.resolve i name).isHana = false := by
  unfold resolve
  rw [h]
  rfl

namespace Host

variable {d : Deployment} {s : Subnets} {h k : Host}

/-- The addresses that the restricted view shows of a database host. -/
theorem shown?_filtered (hhana : h.isHana = true) :
    h.shown? s (some .filtered) = ShownAddresses.of? s true h.addresses := by
  unfold shown?
  rw [Option.any_some, Isolation.filters, hhana]
  rfl

/-! ## Confinement -/

/-- In the restricted view all other addresses lie in the client subnet. -/
theorem others_in_client {addresses : List String} {shown : ShownAddresses}
    (hshown : ShownAddresses.of? s true addresses = some shown) :
    ∀ a ∈ shown.others, s.contains .client a = true := by
  intro a ha
  cases addresses with
  | nil => exact absurd hshown (by simp [ShownAddresses.of?])
  | cons first rest =>
      obtain rfl := Option.some.inj hshown
      exact (List.mem_filter.mp ha).2

/-- If there is an address in the client subnet, all that is shown lies there. -/
theorem shown_of_client {shown : ShownAddresses}
    (hshown : ShownAddresses.of? s true h.addresses = some shown)
    (hclient : ∃ a ∈ h.addresses, s.contains .client a = true) :
    s.contains .client shown.primary = true ∧
      ∀ a ∈ shown.others, s.contains .client a = true := by
  refine ⟨?_, others_in_client hshown⟩
  cases haddresses : h.addresses with
  | nil => rw [haddresses] at hshown; exact absurd hshown (by simp [ShownAddresses.of?])
  | cons first rest =>
      rw [haddresses] at hshown hclient
      obtain rfl := Option.some.inj hshown
      obtain ⟨a, hfind⟩ := Option.isSome_iff_exists.mp (List.find?_isSome.mpr hclient)
      show s.contains .client (((first :: rest).find? (s.contains .client)).getD first) = true
      rw [hfind]
      exact List.find?_some hfind

/-- If there is none, the first address is shown and no other. -/
theorem shown_of_no_client {shown : ShownAddresses}
    (hshown : ShownAddresses.of? s true h.addresses = some shown)
    (hclient : ∀ a ∈ h.addresses, s.contains .client a = false) :
    h.addresses.head? = some shown.primary ∧ shown.others = [] := by
  cases haddresses : h.addresses with
  | nil => rw [haddresses] at hshown; exact absurd hshown (by simp [ShownAddresses.of?])
  | cons first rest =>
      rw [haddresses] at hshown hclient
      obtain rfl := Option.some.inj hshown
      have hfind : (first :: rest).find? (s.contains .client) = none :=
        List.find?_eq_none.mpr fun a ha => by simp [hclient a ha]
      have hfilter : rest.filter (s.contains .client) = [] :=
        List.filter_eq_nil_iff.mpr fun a ha => by simp [hclient a (List.mem_cons_of_mem _ ha)]
      refine ⟨?_, hfilter⟩
      show some first = some (((first :: rest).find? (s.contains .client)).getD first)
      rw [hfind]
      rfl

/-- All entries of a database host with an address in the client subnet have such an address. -/
theorem contains_client_of_mem_entries (hhana : h.isHana = true)
    (hclient : ∃ a ∈ h.addresses, s.contains .client a = true) {e : Entry}
    (he : e ∈ h.entries d s (some .filtered)) : s.contains .client e.address = true := by
  rcases entries_cases d s (some .filtered) h with hnil | ⟨shown, hshown, -, -, hentries⟩
  · rw [hnil] at he; exact absurd he (by simp)
  · rw [shown?_filtered hhana] at hshown
    obtain ⟨hprimary, hothers⟩ := shown_of_client hshown hclient
    rw [hentries] at he
    rcases List.mem_append.mp he with he | he
    · -- the host's own name and the names of its roles go with the primary address
      rcases List.mem_cons.mp he with rfl | he
      · exact hprimary
      · rw [address_of_mem_roleEntries he]; exact hprimary
    · exact hothers _ (mem_suffixedEntries he).1

/-- A database host without an address in the client subnet has entries for its first address only:
under its own name and under those of its roles. -/
theorem entries_of_no_client (hhana : h.isHana = true)
    (hclient : ∀ a ∈ h.addresses, s.contains .client a = false) :
    h.entries d s (some .filtered) = [] ∨
      ∃ first, h.addresses.head? = some first ∧
        h.entries d s (some .filtered) = entry d first h.name :: h.roleEntries d first := by
  rcases entries_cases d s (some .filtered) h with hnil | ⟨shown, hshown, -, -, hentries⟩
  · exact Or.inl hnil
  · rw [shown?_filtered hhana] at hshown
    obtain ⟨hfirst, hothers⟩ := shown_of_no_client hshown hclient
    refine Or.inr ⟨shown.primary, hfirst, ?_⟩
    rw [hentries, hothers, suffixedEntries_nil, List.append_nil]

end Host

/--
**Isolation is safe.** Take a landscape whose database is on several hosts, and any viewer outside
it. For a database host with an address in the client subnet, every entry of the block has an
address in the client subnet. For one without, there are only entries under its own name and the
names of its roles, and all of them have its first address.

The client subnet may be missing or stand for no network: then it holds no address. And a viewer
need not be known to the inventory: then it is outside the database.
-/
theorem hana_entries_confined (r : Rendering) {v : Viewer}
    (hscale : r.deployment.scaleOut = true) (hviewer : r.viewer = some v)
    (hv : v.isHana = false) :
    (∀ h ∈ r.inventory.hosts, h.isHana = true →
      ((∃ a ∈ h.addresses, r.subnets.contains .client a = true) →
        ∀ e ∈ h.entries r.deployment r.subnets r.isolation,
          r.subnets.contains .client e.address = true)
      ∧ ((∀ a ∈ h.addresses, r.subnets.contains .client a = false) →
        (∀ e ∈ h.entries r.deployment r.subnets r.isolation,
          h.addresses.head? = some e.address)
        ∧ (h.entries r.deployment r.subnets r.isolation = [] ∨
          ∃ first, h.entries r.deployment r.subnets r.isolation
            = Host.entry r.deployment first h.name :: h.roleEntries r.deployment first)))
    ∧ ((∀ cidr, r.subnets.cidr? .client = some cidr → Network.parse? cidr = none) →
      ∀ a, r.subnets.contains .client a = false)
    ∧ ∀ name, r.inventory.find? name = none →
      (Viewer.resolve r.inventory name).isHana = false := by
  have hisolation : r.isolation = some .filtered := by
    unfold Rendering.isolation
    rw [hviewer]
    exact Isolation.forViewer?_eq_filtered hscale hv
  refine ⟨fun h _ hhana => ⟨fun hclient e he => ?_, fun hclient => ?_⟩,
    fun hcidr a => Subnets.contains_eq_false_of_unreadable hcidr a,
    fun name hname => Viewer.isHana_resolve_of_unknown hname⟩
  · rw [hisolation] at he
    exact Host.contains_client_of_mem_entries hhana hclient he
  · rw [hisolation]
    rcases Host.entries_of_no_client (d := r.deployment) hhana hclient with
      hnil | ⟨first, hfirst, hentries⟩
    · exact ⟨by rw [hnil]; simp, Or.inl hnil⟩
    · refine ⟨fun e he => ?_, Or.inr ⟨first, hentries⟩⟩
      rw [hfirst]
      rw [hentries] at he
      rcases List.mem_cons.mp he with rfl | he
      · rfl
      · rw [Host.address_of_mem_roleEntries he]

/-- A database host whose second and third addresses are in the client subnet; the third one is in
the database subnet too. -/
def overlappingHost : Host := ⟨"db0", ["10.0.1.4", "10.0.3.20", "10.0.3.5"], ["hana"], .none⟩

/-- A landscape with that host, looked at from a host that it does not know. -/
def overlappingLandscape : Rendering where
  deployment := { Deployment.ofRecord .empty with sapFqdn := "contoso.com", scaleOut := true }
  subnets := ⟨some "10.0.3.0/28", some "10.0.2.0/24", some "10.0.3.0/24"⟩
  inventory := ⟨1, [overlappingHost]⟩
  viewer := some ⟨"jumpbox", false⟩

/-- The first of the two addresses is the primary one, and the other one has an entry too. -/
theorem overlappingHost_entries_confined :
    overlappingLandscape.deployment.scaleOut = true
      ∧ overlappingLandscape.viewer = some ⟨"jumpbox", false⟩
      ∧ (∀ e ∈ overlappingHost.entries overlappingLandscape.deployment
          overlappingLandscape.subnets overlappingLandscape.isolation,
        overlappingLandscape.subnets.contains .client e.address = true)
      ∧ overlappingHost.entries overlappingLandscape.deployment overlappingLandscape.subnets
          overlappingLandscape.isolation
        = [⟨"10.0.3.20", "db0.contoso.com", "db0"⟩,
          ⟨"10.0.3.5", "db0-hana.contoso.com", "db0-hana"⟩] := by
  obtain ⟨hhosts, -, -⟩ :=
    hana_entries_confined overlappingLandscape (v := ⟨"jumpbox", false⟩) rfl rfl rfl
  obtain ⟨hclient, -⟩ := hhosts overlappingHost (by decide) (by decide)
  exact ⟨rfl, rfl, hclient ⟨"10.0.3.20", by decide, by decide⟩, by decide⟩

/-! ## Noninterference -/

theorem Host.isHana_congr {h k : Host} (htiers : h.tiers = k.tiers) : h.isHana = k.isHana := by
  unfold isHana hasTier
  rw [htiers]

/-- Hosts of one name with the same tiers. -/
def Host.SameTiers (h k : Host) : Prop := h.name = k.name ∧ h.tiers = k.tiers

/-- Whether a viewer is a database host depends on the names and the tiers of hosts only. -/
theorem Viewer.resolve_congr {i j : Inventory}
    (h : List.Forall₂ Host.SameTiers i.hosts j.hosts) (name : String) :
    Viewer.resolve i name = Viewer.resolve j name := by
  have hfound : ∀ {hs ks : List Host}, List.Forall₂ Host.SameTiers hs ks →
      (Keyed.find? Host.name name hs).any Host.isHana
        = (Keyed.find? Host.name name ks).any Host.isHana := by
    intro hs ks h
    unfold Keyed.find?
    induction h with
    | nil => rfl
    | cons hk _ ih =>
        rw [List.find?_cons, List.find?_cons, hk.1]
        split
        · rw [Option.any_some, Option.any_some, Host.isHana_congr hk.2]
        · exact ih
  unfold resolve Inventory.find?
  rw [hfound h]

theorem flatMap_eq_of_forall₂ {α β : Type} {R : α → α → Prop} {f : α → List β}
    (hf : ∀ x y, R x y → f x = f y) {xs ys : List α} (h : List.Forall₂ R xs ys) :
    xs.flatMap f = ys.flatMap f := by
  induction h with
  | nil => rfl
  | cons hxy _ ih => rw [List.flatMap_cons, List.flatMap_cons, hf _ _ hxy, ih]

/-- Two texts in one position of a list of addresses between which the restricted view makes no
difference: equal ones, or two outside the client subnet. -/
def Subnets.Hidden (s : Subnets) (a b : String) : Prop :=
  a = b ∨ s.contains .client a = false ∧ s.contains .client b = false

/-- Hosts that may be exchanged without a viewer outside the database noticing. -/
structure Host.Alike (s : Subnets) (h k : Host) : Prop where
  name : h.name = k.name
  tiers : h.tiers = k.tiers
  custom : h.custom = k.custom
  /-- A host outside the database is shown with all its addresses. -/
  outside : h.isHana = false → h = k
  /-- A database host without an address in the client subnet is shown with its first address. -/
  fallback : h.isHana = true → (∀ a ∈ h.addresses, s.contains .client a = false) → h = k
  /-- Of any other database host, the addresses in the client subnet are shown. -/
  hidden : h.isHana = true → (∃ a ∈ h.addresses, s.contains .client a = true) →
    List.Forall₂ s.Hidden h.addresses k.addresses

section

variable {d : Deployment} {s : Subnets}

theorem find?_eq_of_hidden {as bs : List String} (h : List.Forall₂ s.Hidden as bs) :
    as.find? (s.contains .client) = bs.find? (s.contains .client) := by
  induction h with
  | nil => rfl
  | cons hab _ ih =>
      rcases hab with rfl | ⟨ha, hb⟩
      · rw [List.find?_cons, List.find?_cons, ih]
      · rw [List.find?_cons, List.find?_cons, ha, hb, ih]

theorem filter_eq_of_hidden {as bs : List String} (h : List.Forall₂ s.Hidden as bs) :
    as.filter (s.contains .client) = bs.filter (s.contains .client) := by
  induction h with
  | nil => rfl
  | cons hab _ ih =>
      rcases hab with rfl | ⟨ha, hb⟩
      · rw [List.filter_cons, List.filter_cons, ih]
      · rw [List.filter_cons_of_neg (by simp [ha]), List.filter_cons_of_neg (by simp [hb]), ih]

/-- The first address matters only where there is none in the client subnet. -/
theorem shownAddresses_eq_of_hidden {as bs : List String} (h : List.Forall₂ s.Hidden as bs)
    (hclient : ∃ a ∈ as, s.contains .client a = true) :
    ShownAddresses.of? s true as = ShownAddresses.of? s true bs := by
  cases h with
  | nil => rfl
  | @cons a b as bs hab htail =>
      -- both searches find the same address, so neither falls back on the first one
      obtain ⟨shown, hfind⟩ := Option.isSome_iff_exists.mp (List.find?_isSome.mpr hclient)
      have hfind' := hfind
      rw [find?_eq_of_hidden (List.Forall₂.cons hab htail)] at hfind'
      simp only [ShownAddresses.of?, hfind, hfind', filter_eq_of_hidden htail, if_true,
        Option.getD_some]

/-- **Hosts that are alike have the same entries** in the restricted view. -/
theorem Host.Alike.entries_eq {h k : Host} (hk : Host.Alike s h k) :
    h.entries d s (some .filtered) = k.entries d s (some .filtered) := by
  cases hhana : h.isHana with
  | false => rw [hk.outside hhana]
  | true =>
      by_cases hclient : ∃ a ∈ h.addresses, s.contains .client a = true
      · -- all that the entries take from the addresses is what is shown of them
        refine Host.entries_congr hk.name hk.tiers hk.custom ?_
        rw [Host.shown?_filtered hhana, Host.shown?_filtered (Host.isHana_congr hk.tiers ▸ hhana)]
        exact shownAddresses_eq_of_hidden (hk.hidden hhana hclient) hclient
      · have hnone : ∀ a ∈ h.addresses, s.contains .client a = false := fun a ha =>
          Bool.eq_false_iff.mpr fun hmember => hclient ⟨a, ha, hmember⟩
        rw [hk.fallback hhana hnone]

theorem flatMap_entries_eq_of_alike {hs ks : List Host}
    (h : List.Forall₂ (Host.Alike s) hs ks) :
    hs.flatMap (fun h => h.entries d s (some .filtered))
      = ks.flatMap (fun h => h.entries d s (some .filtered)) :=
  flatMap_eq_of_forall₂ (fun _ _ hk => hk.entries_eq) h

/-- Whether a viewer is a database host does not depend on hidden addresses. -/
theorem resolve_eq_of_alike {i j : Inventory}
    (h : List.Forall₂ (Host.Alike s) i.hosts j.hosts) (name : String) :
    Viewer.resolve i name = Viewer.resolve j name :=
  Viewer.resolve_congr (h.imp fun _ _ hk => ⟨hk.name, hk.tiers⟩) name

/--
**Isolation hides what it should.** Two inventories whose hosts are alike one by one give the same
block to a viewer outside the database.
-/
theorem lines_eq_of_alike (d : Deployment) (s : Subnets) {i j : Inventory} {name : String}
    (hscale : d.scaleOut = true) (hviewer : (Viewer.resolve i name).isHana = false)
    (hcount : i.playHostCount = j.playHostCount)
    (hhosts : List.Forall₂ (Host.Alike s) i.hosts j.hosts) :
    ((Rendering.mk d s i none).withViewer name).lines
      = ((Rendering.mk d s j none).withViewer name).lines := by
  have hisolation := Isolation.forViewer?_eq_filtered hscale hviewer
  have hentries := flatMap_entries_eq_of_alike (d := d) hhosts
  unfold Rendering.lines Rendering.mainLines Rendering.virtualLines Rendering.header
    Rendering.hostEntries Rendering.isolation Rendering.withViewer Inventory.entries
  dsimp only
  rw [← resolve_eq_of_alike hhosts name, hisolation, hcount, hentries]

/-- The landscape from above does not change for the unknown host when the address outside the
client subnet is replaced by a text that is no address. -/
theorem overlappingLandscape_lines_eq :
    overlappingLandscape.deployment.scaleOut = true
      ∧ (Viewer.resolve overlappingLandscape.inventory "jumpbox").isHana = false
      ∧ List.Forall₂ (Host.Alike overlappingLandscape.subnets) [overlappingHost]
        [{ overlappingHost with addresses := ["unknown", "10.0.3.20", "10.0.3.5"] }]
      ∧ ((Rendering.mk overlappingLandscape.deployment overlappingLandscape.subnets
            ⟨1, [overlappingHost]⟩ none).withViewer "jumpbox").lines
        = ((Rendering.mk overlappingLandscape.deployment overlappingLandscape.subnets
            ⟨1, [{ overlappingHost with addresses := ["unknown", "10.0.3.20", "10.0.3.5"] }]⟩
            none).withViewer "jumpbox").lines := by
  have halike : Host.Alike overlappingLandscape.subnets overlappingHost
      { overlappingHost with addresses := ["unknown", "10.0.3.20", "10.0.3.5"] } :=
    { name := rfl
      tiers := rfl
      custom := rfl
      outside := fun houtside => absurd houtside (by decide)
      fallback := fun _ hnone => absurd (hnone "10.0.3.20" (by decide)) (by decide)
      hidden := fun _ _ => .cons (Or.inr ⟨by decide, by decide⟩)
        (.cons (Or.inl rfl) (.cons (Or.inl rfl) .nil)) }
  have hhosts := List.Forall₂.cons halike .nil
  exact ⟨rfl, by decide, hhosts, lines_eq_of_alike _ _ rfl (by decide) rfl hhosts⟩

end

end HostsBlock
