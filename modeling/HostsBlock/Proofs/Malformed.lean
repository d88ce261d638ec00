import HostsBlock.Proofs.Isolation

/-!
# What malformed texts do to a block

A subnet's text may stand for no network, and a host's address may be none. A block comes out all
the same, and this file says what such texts do to it.

**A text that stands for no network is as good as a missing one.** It holds no address, so no entry
depends on it, and only the comment that tells whether the text was given knows the difference.

**An address behind the first that is none is as good as left out.** It lies in no subnet, and
behind the first address everything asks for a subnet.

The first address is different. It is shown whether it lies in a subnet or not, and if it is none,
it takes the whole host with it: also the entries for other addresses, which have nothing to do with
it. The restricted view is the exception, since the other addresses that it shows are in the client
subnet, and then the first of those stands in for the first address. The last part says exactly when
the entries for other addresses survive.
-/

namespace HostsBlock

open Section

theorem Subnets.contains_eq_false_of_malformed {s : Subnets} {address : String}
    (h : Address.parse? address = .none) (kind : Subnet) : s.contains kind address = false := by
  cases hcontains : s.contains kind address with
  | false => rfl
  | true =>
      have hparse := parse?_isSome_of_contains hcontains
      rw [h] at hparse
      exact absurd hparse (by simp)

theorem scaleOutSuffix?_of_malformed {d : Deployment} {s : Subnets} {address : String}
    (h : Address.parse? address = none) : scaleOutSuffix? d s address = none := by
  have hout : ∀ kind, ¬ s.contains kind address = true := fun kind =>
    Bool.eq_false_iff.mp (Subnets.contains_eq_false_of_malformed h kind)
  unfold scaleOutSuffix?
  rw [if_neg (hout .database), if_neg (hout .storage)]

/-! ## Networks that are none -/

namespace Subnets

variable {s t : Subnets} {gone : Subnet → Bool}

/-- The subnets with some texts taken away. -/
def without (s : Subnets) (gone : Subnet → Bool) : Subnets where
  database := if gone .database then .none else s.database
  storage := if gone .storage then .none else s.storage
  client := if gone .client then .none else s.client

theorem given?_without (s : Subnets) (gone : Subnet → Bool) (kind : Subnet) :
    (s.without gone).given? kind = if gone kind then .none else s.given? kind := by
  cases kind <;> rfl

theorem cidr?_without_of_gone {kind : Subnet} (h : gone kind = true) :
    (s.without gone).cidr? kind = .none := by
  unfold cidr?
  rw [given?_without, if_pos h]
  rfl

theorem cidr?_without_of_kept {kind : Subnet} (h : gone kind = false) :
    (s.without gone).cidr? kind = s.cidr? kind := by
  unfold cidr?
  rw [given?_without, if_neg (by simp [h])]

/-- None of the texts that are taken away stands for a network. -/
def Unreadable (s : Subnets) (gone : Subnet → Bool) : Prop :=
  ∀ kind, gone kind = true → ∀ text, s.given? kind = some text → Network.parse? text = .none

theorem contains_without (h : s.Unreadable gone) (kind : Subnet) (address : String) :
    (s.without gone).contains kind address = s.contains kind address := by
  cases hgone : gone kind with
  | false =>
      unfold contains membership
      rw [cidr?_without_of_kept hgone]
  | true =>
      -- a text that stands for no network holds nothing, and neither does a missing one
      have hafter : (s.without gone).contains kind address = false := by
        refine contains_eq_false_of_unreadable (fun cidr hcidr => ?_) address
        rw [cidr?_without_of_gone hgone] at hcidr
        exact absurd hcidr (by simp)
      have hbefore : s.contains kind address = false := by
        refine contains_eq_false_of_unreadable (fun cidr hcidr => ?_) address
        exact h kind hgone cidr (Option.filter_eq_some_iff.mp hcidr).1
      rw [hafter, hbefore]

end Subnets

/-- Entries depend on subnets only through the question which addresses lie in them. -/
theorem Host.entries_congr_subnets {d : Deployment} {s t : Subnets}
    (h : ∀ kind address, t.contains kind address = s.contains kind address)
    (isolation : Option Isolation) (k : Host) :
    k.entries d t isolation = k.entries d s isolation := by
  have hcontains : ∀ kind, t.contains kind = s.contains kind := fun kind => funext (h kind)
  have hshown : k.shown? t isolation = k.shown? s isolation := by
    unfold shown? ShownAddresses.of?
    simp only [hcontains]
  have hsuffix : scaleOutSuffix? d t = scaleOutSuffix? d s := by
    funext address
    unfold scaleOutSuffix?
    simp only [hcontains]
  unfold entries suffixedEntries
  rw [hshown, hsuffix]

/-- Where the comment on a subnet stands in a block. -/
def Subnet.place : Subnet → Nat
  | .database => 5
  | .storage => 6
  | .client => 7

/-- The comment on a subnet. -/
def Subnet.comment (kind : Subnet) (present : Bool) : String :=
  "# Subnet " ++ kind.label ++ " valid: " ++ flag present

namespace Rendering

variable {r : Rendering} {t : Subnets}

theorem lines_place (r : Rendering) (kind : Subnet) :
    r.lines[kind.place]? = some (kind.comment (r.subnets.isPresent kind)) := by
  cases kind <;> rfl

/-- The rendering with other subnets. -/
def withSubnets (r : Rendering) (t : Subnets) : Rendering := { r with subnets := t }

theorem hostEntries_withSubnets
    (h : ∀ kind address, t.contains kind address = r.subnets.contains kind address) :
    (r.withSubnets t).hostEntries = r.hostEntries :=
  List.flatMap_congr fun k _ => Host.entries_congr_subnets h r.isolation k

/-- Besides the entries, the subnets have three lines of the block. -/
theorem lines_withSubnets (hentries : (r.withSubnets t).hostEntries = r.hostEntries) :
    (r.withSubnets t).lines
      = ((r.lines.set Subnet.database.place (Subnet.database.comment (t.isPresent .database))).set
          Subnet.storage.place (Subnet.storage.comment (t.isPresent .storage))).set
            Subnet.client.place (Subnet.client.comment (t.isPresent .client)) := by
  unfold lines mainLines
  rw [hentries]
  rfl

/-- A line that is not the comment on a subnet whose presence changes stays as it is. -/
theorem getElem?_lines_withSubnets (hentries : (r.withSubnets t).hostEntries = r.hostEntries)
    {n : Nat} (hn : ∀ kind, n = kind.place → t.isPresent kind = r.subnets.isPresent kind) :
    (r.withSubnets t).lines[n]? = r.lines[n]? := by
  by_cases hplace : ∃ kind : Subnet, n = kind.place
  · obtain ⟨kind, rfl⟩ := hplace
    rw [lines_place, lines_place, ← hn kind rfl]
    rfl
  · have hne : ∀ kind : Subnet, kind.place ≠ n := fun kind heq => hplace ⟨kind, heq.symm⟩
    rw [lines_withSubnets hentries, List.getElem?_set_ne (hne .client),
      List.getElem?_set_ne (hne .storage), List.getElem?_set_ne (hne .database)]

end Rendering

/-! ## Other addresses that are none -/

/-- A list of addresses and what is left of it when some that are none are deleted. -/
inductive Thinned : List String → List String → Prop
  | nil : Thinned [] []
  | keep (a : String) {as bs : List String} : Thinned as bs → Thinned (a :: as) (a :: bs)
  | drop {a : String} {as bs : List String} (h : Address.parse? a = none) :
      Thinned as bs → Thinned (a :: as) bs

theorem Thinned.filterMap_eq {β : Type} {f : String → Option β}
    (hf : ∀ a, Address.parse? a = none → f a = none) {as bs : List String} (h : Thinned as bs) :
    as.filterMap f = bs.filterMap f := by
  induction h with
  | nil => rfl
  | keep a _ ih => rw [List.filterMap_cons, List.filterMap_cons, ih]
  | drop ha _ ih => rw [List.filterMap_cons_none (hf _ ha), ih]

theorem Thinned.filter_eq {p : String → Bool}
    (hp : ∀ a, Address.parse? a = none → p a = false) {as bs : List String} (h : Thinned as bs) :
    as.filter p = bs.filter p := by
  rw [← List.filterMap_eq_filter]
  exact h.filterMap_eq fun a ha => by simp [Option.guard, hp a ha]

/-- A host and what is left of it when some of its addresses behind the first are deleted, all of
which are none. -/
structure Host.Thinned (h k : Host) : Prop where
  name : h.name = k.name
  tiers : h.tiers = k.tiers
  custom : h.custom = k.custom
  first : h.addresses.head? = k.addresses.head?
  others : HostsBlock.Thinned h.addresses.tail k.addresses.tail

namespace Host

variable {d : Deployment} {s : Subnets} {h k : Host}

theorem suffixedEntries_of_thinned {as bs : List String} (hthin : HostsBlock.Thinned as bs) :
    h.suffixedEntries d s as = h.suffixedEntries d s bs := by
  unfold suffixedEntries
  rw [hthin.filterMap_eq fun a ha => by rw [scaleOutSuffix?_of_malformed ha]; rfl]

/-- In either view, hosts that differ in such addresses are shown with the same primary address and
with other addresses that have the same entries. -/
theorem shown_of_thinned (filtered : Bool) (first : String) {as bs : List String}
    (hthin : HostsBlock.Thinned as bs) :
    ∃ a b, ShownAddresses.of? s filtered (first :: as) = some a
      ∧ ShownAddresses.of? s filtered (first :: bs) = some b
      ∧ a.primary = b.primary
      ∧ h.suffixedEntries d s a.others = h.suffixedEntries d s b.others := by
  cases filtered with
  | false => exact ⟨_, _, rfl, rfl, rfl, suffixedEntries_of_thinned hthin⟩
  | true =>
      -- this view picks addresses in the client subnet, where none of the deleted ones is
      have hclient : ∀ a, Address.parse? a = none → s.contains .client a = false := fun a ha =>
        Subnets.contains_eq_false_of_malformed ha .client
      have hfind : (first :: as).find? (s.contains .client)
          = (first :: bs).find? (s.contains .client) := by
        rw [← List.head?_filter, ← List.head?_filter, (hthin.keep first).filter_eq hclient]
      have hfilter : as.filter (s.contains .client) = bs.filter (s.contains .client) :=
        hthin.filter_eq hclient
      have hprimary : ((first :: as).find? (s.contains .client)).getD first
          = ((first :: bs).find? (s.contains .client)).getD first := by rw [hfind]
      have hothers : h.suffixedEntries d s (as.filter (s.contains .client))
          = h.suffixedEntries d s (bs.filter (s.contains .client)) := by rw [hfilter]
      exact ⟨_, _, rfl, rfl, hprimary, hothers⟩

/-- **Such addresses make no difference to the entries of a host**, whoever views it. -/
theorem Thinned.entries_eq (hk : h.Thinned k) (isolation : Option Isolation) :
    h.entries d s isolation = k.entries d s isolation := by
  have hhana : h.isHana = k.isHana := isHana_congr hk.tiers
  have hfirst := hk.first
  have hthin := hk.others
  -- either both hosts have no addresses, or both begin with the same one
  cases hh : h.addresses with
  | nil =>
      rw [hh, List.head?_nil] at hfirst
      have hk' : k.addresses = [] := List.head?_eq_none_iff.mp hfirst.symm
      unfold entries shown?
      rw [hh, hk']
      rfl
  | cons first as =>
      rw [hh, List.head?_cons] at hfirst
      obtain ⟨bs, hk'⟩ : ∃ bs, k.addresses = first :: bs :=
        List.head?_eq_some_iff.mp hfirst.symm
      rw [hh, hk'] at hthin
      obtain ⟨a, b, ha, hb, hprimary, hsuffixed⟩ :=
        shown_of_thinned (d := d) (s := s) (h := h) (isolation.any (·.filters h)) first hthin
      have hfilters : isolation.any (·.filters k) = isolation.any (·.filters h) := by
        simp only [Isolation.filters, hhana]
      have hshown : h.shown? s isolation = some a := by
        unfold shown?
        rw [hh]
        exact ha
      have hshown' : k.shown? s isolation = some b := by
        unfold shown?
        rw [hk', hfilters]
        exact hb
      exact entries_congr_suffixed hk.name hk.tiers hk.custom hshown hshown' hprimary
        (hsuffixed.trans (suffixedEntries_congr hk.name hk.tiers b.others))

end Host

namespace Rendering

variable {r : Rendering} {hosts : List Host}

/-- The rendering with other hosts, but the same number of play hosts. -/
def withHosts (r : Rendering) (hosts : List Host) : Rendering :=
  { r with inventory := ⟨r.inventory.playHostCount, hosts⟩ }

theorem lines_withHosts (h : List.Forall₂ Host.Thinned r.inventory.hosts hosts) :
    (r.withHosts hosts).lines = r.lines := by
  have hentries : (r.withHosts hosts).hostEntries = r.hostEntries :=
    (flatMap_eq_of_forall₂ (fun _ _ hk => hk.entries_eq r.isolation) h).symm
  unfold lines mainLines
  rw [hentries]
  rfl

theorem withViewer_withHosts (h : List.Forall₂ Host.Thinned r.inventory.hosts hosts)
    (name : String) :
    (r.withHosts hosts).withViewer name = (r.withViewer name).withHosts hosts := by
  have hresolve : Viewer.resolve r.inventory name
      = Viewer.resolve ⟨r.inventory.playHostCount, hosts⟩ name :=
    Viewer.resolve_congr (h.imp fun _ _ hk => ⟨hk.name, hk.tiers⟩) name
  unfold withViewer withHosts
  rw [hresolve]

end Rendering

/--
**Malformed texts match nothing.** Take any block, for any viewer or for none.

Take away the texts of some subnets that stand for no network. The entries of hosts are the same,
and so are all lines but the comments on these subnets, which tell whether a text was given.

Delete some addresses that are none, of any hosts and anywhere behind their first address. The whole
block is the same, also for a viewer who is looked up among the hosts that have lost addresses.
-/
theorem malformed_matches_nothing (r : Rendering) :
    (∀ gone : Subnet → Bool, r.subnets.Unreadable gone →
      (r.withSubnets (r.subnets.without gone)).hostEntries = r.hostEntries
      ∧ (∀ n, (∀ kind, gone kind = true → n ≠ kind.place) →
        (r.withSubnets (r.subnets.without gone)).lines[n]? = r.lines[n]?)
      ∧ ∀ kind, gone kind = true →
        r.lines[kind.place]?
          = some ("# Subnet " ++ kind.label ++ " valid: " ++ flag (r.subnets.isPresent kind))
        ∧ (r.withSubnets (r.subnets.without gone)).lines[kind.place]?
          = some ("# Subnet " ++ kind.label ++ " valid: " ++ "False"))
    ∧ ∀ hosts, List.Forall₂ Host.Thinned r.inventory.hosts hosts →
      (r.withHosts hosts).lines = r.lines
      ∧ ∀ name, ((r.withHosts hosts).withViewer name).lines = (r.withViewer name).lines := by
  refine ⟨fun gone hgone => ?_, fun hosts hhosts => ⟨Rendering.lines_withHosts hhosts, ?_⟩⟩
  · -- the question which addresses lie in the subnets has the same answers
    have hentries : (r.withSubnets (r.subnets.without gone)).hostEntries = r.hostEntries :=
      Rendering.hostEntries_withSubnets (Subnets.contains_without hgone)
    refine ⟨hentries, fun n hn => ?_, fun kind hkind => ⟨r.lines_place kind, ?_⟩⟩
    · refine Rendering.getElem?_lines_withSubnets hentries fun kind hplace => ?_
      have hkept : gone kind = false := Bool.eq_false_iff.mpr fun hkind => hn kind hkind hplace
      unfold Subnets.isPresent
      rw [Subnets.cidr?_without_of_kept hkept]
    · have habsent : (r.subnets.without gone).isPresent kind = false := by
        unfold Subnets.isPresent
        rw [Subnets.cidr?_without_of_gone hkind]
        rfl
      have hline := (r.withSubnets (r.subnets.without gone)).lines_place kind
      rw [hline]
      exact congrArg (some <| kind.comment ·) habsent
  · intro name
    rw [Rendering.withViewer_withHosts hhosts]
    exact Rendering.lines_withHosts hhosts

/-- The landscape with the overlapping subnets, now with a storage subnet that is no network. Its
host has another address that is none. -/
def malformedLandscape : Rendering :=
  { overlappingLandscape with
    subnets := ⟨some "10.0.3.0/28", some "10.0.2.0/99", some "10.0.3.0/24"⟩
    inventory := ⟨1, [{ overlappingHost with
      addresses := ["10.0.1.4", "unknown", "10.0.3.20", "10.0.3.5"] }]⟩ }

/-- Without the text of the storage subnet one comment is another one, and without the address
nothing is. -/
theorem malformedLandscape_matches_nothing :
    malformedLandscape.subnets.Unreadable (· == .storage)
      ∧ (malformedLandscape.withSubnets
          (malformedLandscape.subnets.without (· == .storage))).hostEntries
        = [⟨"10.0.3.20", "db0.contoso.com", "db0"⟩,
          ⟨"10.0.3.5", "db0-hana.contoso.com", "db0-hana"⟩]
      ∧ malformedLandscape.lines[6]? = some "# Subnet Storage valid: True"
      ∧ (malformedLandscape.withSubnets
          (malformedLandscape.subnets.without (· == .storage))).lines[6]?
        = some "# Subnet Storage valid: False"
      ∧ List.Forall₂ Host.Thinned malformedLandscape.inventory.hosts [overlappingHost]
      ∧ (malformedLandscape.withHosts [overlappingHost]).lines = malformedLandscape.lines := by
  have hgone : malformedLandscape.subnets.Unreadable (· == .storage) := by
    intro kind hkind text htext
    obtain rfl := beq_iff_eq.mp hkind
    obtain rfl := Option.some.inj htext
    decide
  have hthinned : Host.Thinned { overlappingHost with
      addresses := ["10.0.1.4", "unknown", "10.0.3.20", "10.0.3.5"] } overlappingHost :=
    { name := rfl
      tiers := rfl
      custom := rfl
      first := rfl
      others := .drop (by decide) (.keep _ (.keep _ .nil)) }
  have hhosts := List.Forall₂.cons hthinned .nil
  obtain ⟨hsubnets, hlost⟩ := malformed_matches_nothing malformedLandscape
  obtain ⟨hentries, -, hcomments⟩ := hsubnets _ hgone
  obtain ⟨hbefore, hafter⟩ := hcomments .storage rfl
  refine ⟨hgone, ?_, hbefore, hafter, hhosts, (hlost _ hhosts).1⟩
  rw [hentries]
  decide +kernel

/-! ## A first address that is none -/

namespace Host

variable {d : Deployment} {s : Subnets} {isolation : Option Isolation} {h : Host}

/-- The host with other addresses. -/
def withAddresses (h : Host) (addresses : List String) : Host := { h with addresses }

/-- The entries of a host behind those under its own name and under the names of its roles. -/
def otherEntries (d : Deployment) (s : Subnets) (isolation : Option Isolation) (h : Host) :
    List Entry :=
  (h.entries d s isolation).drop (1 + (h.roleNames d).length)

theorem length_unsuffixed (primary : String) :
    (entry d primary h.name :: h.roleEntries d primary).length = 1 + (h.roleNames d).length := by
  rw [List.length_cons, roleEntries, List.length_map, Nat.add_comm]

theorem otherEntries_of_checked {shown : ShownAddresses}
    (hshown : h.shown? s isolation = some shown) (hblank : Text.isBlankText h.name = false)
    (haddress : (Address.parse? shown.primary).isSome = true) :
    h.otherEntries d s isolation = h.suffixedEntries d s shown.others := by
  unfold otherEntries
  rw [entries_eq_of_checked hshown hblank haddress]
  exact List.drop_left' (length_unsuffixed shown.primary)

theorem entries_of_malformed {shown : ShownAddresses} (hshown : h.shown? s isolation = some shown)
    (hbad : Address.parse? shown.primary = none) : h.entries d s isolation = [] := by
  rcases entries_cases d s isolation h with hnil | ⟨shown', hshown', -, haddress, -⟩
  · exact hnil
  · obtain rfl := Option.some.inj (hshown.symm.trans hshown')
    rw [hbad] at haddress
    exact absurd haddress (by simp)

theorem otherEntries_of_malformed {shown : ShownAddresses}
    (hshown : h.shown? s isolation = some shown) (hbad : Address.parse? shown.primary = none) :
    h.otherEntries d s isolation = [] := by
  unfold otherEntries
  rw [entries_of_malformed hshown hbad, List.drop_nil]

theorem suffixedEntries_eq_nil_iff (hscale : d.scaleOut = true) (hhana : h.isHana = true)
    {others : List String} :
    h.suffixedEntries d s others = [] ↔ ∀ a ∈ others, scaleOutSuffix? d s a = none := by
  unfold suffixedEntries
  rw [hscale, hhana, Bool.and_self, if_pos rfl, List.filterMap_eq_nil_iff]
  simp only [Option.map_eq_none_iff]

theorem otherEntries_of_no_client (hhana : h.isHana = true)
    (hclient : ∀ a ∈ h.addresses, s.contains .client a = false) :
    h.otherEntries d s (some .filtered) = [] := by
  unfold otherEntries
  rcases entries_of_no_client (d := d) hhana hclient with hnil | ⟨first, -, hentries⟩
  · rw [hnil, List.drop_nil]
  · refine List.drop_eq_nil_iff.mpr ?_
    rw [hentries, List.length_cons, roleEntries, List.length_map]
    omega

/-- The restricted view does not care which address outside the client subnet is the first, as far
as the entries for other addresses go. -/
theorem otherEntries_filtered {first first' : String} (rest : List String)
    (hhana : h.isHana = true) (hout : s.contains .client first = false)
    (hout' : s.contains .client first' = false) :
    (h.withAddresses (first :: rest)).otherEntries d s (some .filtered)
      = (h.withAddresses (first' :: rest)).otherEntries d s (some .filtered) := by
  have hhana' : ∀ addresses, (h.withAddresses addresses).isHana = true := fun _ => hhana
  by_cases hclient : ∃ a ∈ rest, s.contains .client a = true
  · -- an address in the client subnet stands in for the first one, and all entries are the same
    obtain ⟨a, ha, hin⟩ := hclient
    have hhidden : List.Forall₂ s.Hidden (first :: rest) (first' :: rest) :=
      .cons (Or.inr ⟨hout, hout'⟩) (List.forall₂_same.mpr fun _ _ => Or.inl rfl)
    have hshown := shownAddresses_eq_of_hidden hhidden ⟨a, List.mem_cons_of_mem _ ha, hin⟩
    have hentries : (h.withAddresses (first :: rest)).entries d s (some .filtered)
        = (h.withAddresses (first' :: rest)).entries d s (some .filtered) := by
      refine entries_congr rfl rfl rfl ?_
      rw [shown?_filtered (hhana' _), shown?_filtered (hhana' _)]
      exact hshown
    have hroles : (h.withAddresses (first :: rest)).roleNames d
        = (h.withAddresses (first' :: rest)).roleNames d := rfl
    unfold otherEntries
    rw [hentries, hroles]
  · -- without one there are no entries for other addresses
    have hnone : ∀ a ∈ rest, s.contains .client a = false := fun a ha =>
      Bool.eq_false_iff.mpr fun hin => hclient ⟨a, ha, hin⟩
    have hfirst : ∀ a ∈ first :: rest, s.contains .client a = false :=
      List.forall_mem_cons.mpr ⟨hout, hnone⟩
    have hfirst' : ∀ a ∈ first' :: rest, s.contains .client a = false :=
      List.forall_mem_cons.mpr ⟨hout', hnone⟩
    rw [otherEntries_of_no_client (hhana' _) hfirst, otherEntries_of_no_client (hhana' _) hfirst']

/-- All other views show the addresses as they are. -/
theorem shown?_unfiltered (h : Host) (first : String) (rest : List String)
    (hview : isolation ≠ some .filtered) :
    (h.withAddresses (first :: rest)).shown? s isolation = some ⟨first, rest⟩ := by
  unfold shown?
  cases isolation with
  | none => rfl
  | some isolation =>
      cases isolation with
      | filtered => exact absurd rfl hview
      | full => rfl

end Host

/--
**What a bad first address takes with it.** Take a database host in a landscape whose database is on
several hosts, and put an address outside the client subnet in the place of a first address that is
none. The entries for the addresses behind it stay the same exactly if the view is the restricted
one or if none of these addresses lies in the database or the storage subnet. In every other view,
the host has no entries at all as long as its first address is none.
-/
theorem kept_with_bad_first_iff (d : Deployment) (s : Subnets) (isolation : Option Isolation)
    (h : Host) {bad good : String} (rest : List String) (hscale : d.scaleOut = true)
    (hhana : h.isHana = true) (hblank : Text.isBlankText h.name = false)
    (hbad : Address.parse? bad = none) (hgood : (Address.parse? good).isSome = true)
    (hout : s.contains .client good = false) :
    ((h.withAddresses (bad :: rest)).otherEntries d s isolation
        = (h.withAddresses (good :: rest)).otherEntries d s isolation ↔
      isolation = some .filtered ∨ ∀ a ∈ rest, scaleOutSuffix? d s a = none)
    ∧ (isolation ≠ some .filtered →
      (h.withAddresses (bad :: rest)).entries d s isolation = []) := by
  by_cases hview : isolation = some .filtered
  · subst hview
    have hbadOut := Subnets.contains_eq_false_of_malformed (s := s) hbad .client
    exact ⟨iff_of_true (Host.otherEntries_filtered rest hhana hbadOut hout) (Or.inl rfl),
      fun hne => absurd rfl hne⟩
  · -- the bad address is the primary one here, and without it nothing is left to compare
    have hshownBad := Host.shown?_unfiltered (s := s) h bad rest hview
    have hshownGood := Host.shown?_unfiltered (s := s) h good rest hview
    have hlost := Host.otherEntries_of_malformed (d := d) hshownBad hbad
    have hkept := Host.otherEntries_of_checked (d := d) hshownGood hblank hgood
    refine ⟨?_, fun _ => Host.entries_of_malformed hshownBad hbad⟩
    have hempty : h.suffixedEntries d s rest = [] ↔ ∀ a ∈ rest, scaleOutSuffix? d s a = none :=
      Host.suffixedEntries_eq_nil_iff hscale hhana
    rw [hlost, hkept, or_iff_right hview, ← hempty]
    exact eq_comm

/-- The overlapping host keeps the entry for its address in the database subnet in the restricted
view, and loses it in the other ones. -/
theorem overlappingHost_kept_with_bad_first :
    overlappingLandscape.deployment.scaleOut = true
      ∧ overlappingHost.isHana = true
      ∧ Text.isBlankText overlappingHost.name = false
      ∧ Address.parse? "unknown" = none
      ∧ (Address.parse? "10.0.9.9").isSome = true
      ∧ overlappingLandscape.subnets.contains .client "10.0.9.9" = false
      ∧ (overlappingHost.withAddresses ["unknown", "10.0.3.20", "10.0.3.5"]).otherEntries
          overlappingLandscape.deployment overlappingLandscape.subnets (some .filtered)
        = [⟨"10.0.3.5", "db0-hana.contoso.com", "db0-hana"⟩]
      ∧ (overlappingHost.withAddresses ["unknown", "10.0.3.20", "10.0.3.5"]).otherEntries
          overlappingLandscape.deployment overlappingLandscape.subnets none
        ≠ (overlappingHost.withAddresses ["10.0.9.9", "10.0.3.20", "10.0.3.5"]).otherEntries
          overlappingLandscape.deployment overlappingLandscape.subnets none := by
  have hbad : Address.parse? "unknown" = none := by decide
  have hgood : (Address.parse? "10.0.9.9").isSome = true := by decide
  have hout : overlappingLandscape.subnets.contains .client "10.0.9.9" = false := by decide
  obtain ⟨hfiltered, -⟩ := kept_with_bad_first_iff overlappingLandscape.deployment
    overlappingLandscape.subnets (some .filtered) overlappingHost ["10.0.3.20", "10.0.3.5"] rfl
    (by decide) (by decide) hbad hgood hout
  obtain ⟨hnobody, -⟩ := kept_with_bad_first_iff overlappingLandscape.deployment
    overlappingLandscape.subnets none overlappingHost ["10.0.3.20", "10.0.3.5"] rfl
    (by decide) (by decide) hbad hgood hout
  refine ⟨rfl, by decide, by decide, hbad, hgood, hout, ?_, fun heq => ?_⟩
  · rw [hfiltered.mpr (Or.inl rfl)]
    decide +kernel
  · rcases hnobody.mp heq with hview | hnone
    · exact absurd hview (by decide)
    · exact absurd (hnone "10.0.3.5" (by decide)) (by decide)

/-- The entry that is lost, although its address is a good one. -/
theorem overlappingHost_loses_good_address :
    Address.parse? "unknown" = none
      ∧ (Address.parse? "10.0.9.9").isSome = true
      ∧ overlappingLandscape.subnets.contains .client "10.0.9.9" = false
      ∧ (overlappingHost.withAddresses ["unknown", "10.0.3.5"]).otherEntries
          overlappingLandscape.deployment overlappingLandscape.subnets none = []
      ∧ (overlappingHost.withAddresses ["10.0.9.9", "10.0.3.5"]).otherEntries
          overlappingLandscape.deployment overlappingLandscape.subnets none
        = [⟨"10.0.3.5", "db0-hana.contoso.com", "db0-hana"⟩] :=
  ⟨by decide, by decide, by decide, by decide +kernel, by decide +kernel⟩

end HostsBlock
