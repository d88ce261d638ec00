import HostsBlock.Proofs.Blocks
import HostsBlock.Validation.Network

/-!
# What the check of the subnets reports

The check goes through the subnets once and keeps two things: a report, which collects the texts
that stand for no network, and the networks it could read. Afterwards it compares each of these
networks with the ones behind it.

This file says what comes out, without the loops. An error is there for a subnet exactly when its
text is given and stands for no network. A warning is there for two subnets exactly when both their
texts stand for networks and **some address lies in both**, which `Network.overlaps_iff` takes from
the comparison of lowest addresses. Both lists follow the order of the subnets, so nothing is
reported twice; and one subnet's text has no influence on what is said of the others.
-/

namespace HostsBlock

/-! ## Pairs in order -/

/-- The pairs of an element and one behind it. -/
def laterPairs {α : Type} : List α → List (α × α)
  | [] => []
  | x :: xs => xs.map (fun y => (x, y)) ++ laterPairs xs

/-- Choosing from a list in a way that can be undone keeps the order. -/
theorem map_filterMap_sublist {α β : Type} {f : α → Option β} {g : β → α}
    (h : ∀ a b, f a = some b → g b = a) (l : List α) : ((l.filterMap f).map g).Sublist l := by
  induction l with
  | nil => exact List.Sublist.refl []
  | cons a l ih =>
      cases hf : f a with
      | none =>
          rw [List.filterMap_cons_none hf]
          exact List.Sublist.cons a ih
      | some b =>
          rw [List.filterMap_cons_some hf, List.map_cons, h a b hf]
          exact List.Sublist.cons_cons a ih

namespace Subnets

/-! ## What there is to find -/

/-- The text of a subnet is given but stands for no network. -/
def Rejects (s : Subnets) (kind : Subnet) (cidr : String) : Prop :=
  s.cidr? kind = some cidr ∧ Network.parse? cidr = Option.none

/-- The text of a subnet is given and stands for a network. -/
def Reads (s : Subnets) (kind : Subnet) (cidr : String) (n : Network) : Prop :=
  s.cidr? kind = some cidr ∧ Network.parse? cidr = some n

/-- The texts of two subnets stand for networks with an address in common. -/
def Shares (s : Subnets) (first : Subnet) (firstCidr : String) (second : Subnet)
    (secondCidr : String) : Prop :=
  ∃ m n : Network, s.Reads first firstCidr m ∧ s.Reads second secondCidr n
    ∧ ∃ x : Address, m.contains x = true ∧ n.contains x = true

/-- The error of one subnet. -/
def error? (s : Subnets) (kind : Subnet) : Option BadNetwork :=
  (s.cidr? kind).bind fun cidr =>
    if Network.parse? cidr = Option.none then some ⟨kind, cidr⟩ else Option.none

/-- The network of one subnet. -/
def read? (s : Subnets) (kind : Subnet) : Option ReadSubnet :=
  (s.cidr? kind).bind fun cidr => (Network.parse? cidr).map fun n => ⟨kind, cidr, n⟩

/-- The warning about two subnets. -/
def overlap? (s : Subnets) (kinds : Subnet × Subnet) : Option Overlap :=
  (s.read? kinds.1).bind fun a => (s.read? kinds.2).bind fun b => a.overlap? b

variable {s : Subnets}

theorem error?_eq_some_iff {kind : Subnet} {e : BadNetwork} :
    s.error? kind = some e ↔ e.subnet = kind ∧ s.Rejects e.subnet e.cidr := by
  unfold error? Rejects
  rw [Option.bind_eq_some_iff]
  constructor
  · rintro ⟨cidr, hcidr, he⟩
    split at he
    · rename_i hparse
      obtain rfl := Option.some.inj he
      exact ⟨rfl, hcidr, hparse⟩
    · exact absurd he (by simp)
  · rintro ⟨rfl, hcidr, hparse⟩
    exact ⟨e.cidr, hcidr, if_pos hparse⟩

theorem read?_eq_some_iff {kind : Subnet} {p : ReadSubnet} :
    s.read? kind = some p ↔ p.subnet = kind ∧ s.Reads p.subnet p.cidr p.network := by
  unfold read? Reads
  rw [Option.bind_eq_some_iff]
  constructor
  · rintro ⟨cidr, hcidr, hp⟩
    obtain ⟨n, hparse, rfl⟩ := Option.map_eq_some_iff.mp hp
    exact ⟨rfl, hcidr, hparse⟩
  · rintro ⟨rfl, hcidr, hparse⟩
    exact ⟨p.cidr, hcidr, by rw [hparse]; rfl⟩

theorem overlap?_eq_some_iff {kinds : Subnet × Subnet} {o : Overlap} :
    s.overlap? kinds = some o ↔
      (o.first, o.second) = kinds ∧ s.Shares o.first o.firstCidr o.second o.secondCidr := by
  unfold overlap?
  rw [Option.bind_eq_some_iff]
  constructor
  · rintro ⟨a, ha, h⟩
    obtain ⟨b, hb, ho⟩ := Option.bind_eq_some_iff.mp h
    obtain ⟨hakind, haread⟩ := read?_eq_some_iff.mp ha
    obtain ⟨hbkind, hbread⟩ := read?_eq_some_iff.mp hb
    unfold ReadSubnet.overlap? at ho
    split at ho
    · rename_i hoverlaps
      obtain rfl := Option.some.inj ho
      exact ⟨by rw [hakind, hbkind], a.network, b.network, haread, hbread,
        (Network.overlaps_iff _ _).mp hoverlaps⟩
    · exact absurd ho (by simp)
  · rintro ⟨rfl, m, n, hm, hn, hx⟩
    refine ⟨⟨o.first, o.firstCidr, m⟩, read?_eq_some_iff.mpr ⟨rfl, hm⟩, ?_⟩
    refine Option.bind_eq_some_iff.mpr ⟨⟨o.second, o.secondCidr, n⟩,
      read?_eq_some_iff.mpr ⟨rfl, hn⟩, ?_⟩
    unfold ReadSubnet.overlap?
    exact if_pos ((Network.overlaps_iff m n).mpr hx)

/-! ## The pass over the subnets -/

/-- What is known after the subnets `seen` were looked at. -/
structure Inspected (s : Subnets) (seen : List Subnet)
    (found : NetworkReport × List ReadSubnet) : Prop where
  /-- The report is valid as long as it has no errors. -/
  valid : found.1.isValid = true ↔ found.1.errors = []
  /-- It has the errors of the subnets seen so far, in their order. -/
  errors : found.1.errors = seen.filterMap s.error?
  /-- It has no warnings yet. -/
  warnings : found.1.warnings = []
  /-- The networks of all other subnets that have a text are there, in the same order. -/
  read : found.2 = seen.filterMap s.read?

theorem inspected_init (s : Subnets) : Inspected s [] (.clean, []) where
  valid := by simp [NetworkReport.clean]
  errors := rfl
  warnings := rfl
  read := rfl

theorem inspect_of_none {kind : Subnet} (h : s.cidr? kind = Option.none)
    (found : NetworkReport × List ReadSubnet) : s.inspect found kind = found := by
  unfold inspect
  rw [h]

theorem inspect_of_reads {kind : Subnet} {cidr : String} {n : Network} (h : s.Reads kind cidr n)
    (found : NetworkReport × List ReadSubnet) :
    s.inspect found kind = (found.1, found.2 ++ [⟨kind, cidr, n⟩]) := by
  unfold inspect
  rw [h.1]
  dsimp only
  rw [h.2]

theorem inspect_of_rejects {kind : Subnet} {cidr : String} (h : s.Rejects kind cidr)
    (found : NetworkReport × List ReadSubnet) :
    s.inspect found kind = (found.1.addError ⟨kind, cidr⟩, found.2) := by
  unfold inspect
  rw [h.1]
  dsimp only
  rw [h.2]

/-- **Looking at one more subnet adds its error or its network, and nothing else.** -/
theorem inspected_step {seen : List Subnet} {found : NetworkReport × List ReadSubnet}
    (h : Inspected s seen found) (kind : Subnet) :
    Inspected s (seen ++ [kind]) (s.inspect found kind) := by
  cases hcidr : s.cidr? kind with
  | none =>
      have herror : s.error? kind = Option.none := by unfold error?; rw [hcidr]; rfl
      have hread : s.read? kind = Option.none := by unfold read?; rw [hcidr]; rfl
      rw [inspect_of_none hcidr]
      -- no text: neither list gets longer
      refine ⟨h.valid, ?_, h.warnings, ?_⟩
      · rw [h.errors, List.filterMap_append, List.filterMap_cons_none herror]; simp
      · rw [h.read, List.filterMap_append, List.filterMap_cons_none hread]; simp
  | some cidr =>
      cases hparse : Network.parse? cidr with
      | none =>
          have herror : s.error? kind = some ⟨kind, cidr⟩ :=
            error?_eq_some_iff.mpr ⟨rfl, hcidr, hparse⟩
          have hread : s.read? kind = Option.none := by
            unfold read?; rw [hcidr, Option.bind_some, hparse]; rfl
          rw [inspect_of_rejects ⟨hcidr, hparse⟩]
          -- no network: an error more, and the report is no longer valid
          refine ⟨by simp [NetworkReport.addError], ?_, h.warnings, ?_⟩
          · rw [List.filterMap_append, List.filterMap_cons_some herror, ← h.errors]; rfl
          · rw [h.read, List.filterMap_append, List.filterMap_cons_none hread]; simp
      | some n =>
          have herror : s.error? kind = Option.none := by
            unfold error?; rw [hcidr, Option.bind_some, hparse]; rfl
          have hread : s.read? kind = some ⟨kind, cidr, n⟩ :=
            read?_eq_some_iff.mpr ⟨rfl, hcidr, hparse⟩
          rw [inspect_of_reads ⟨hcidr, hparse⟩]
          -- a network: it comes behind those read before
          refine ⟨h.valid, ?_, h.warnings, ?_⟩
          · rw [h.errors, List.filterMap_append, List.filterMap_cons_none herror]; simp
          · rw [List.filterMap_append, List.filterMap_cons_some hread, ← h.read]; rfl

theorem inspected_foldl (kinds : List Subnet) {seen : List Subnet}
    {found : NetworkReport × List ReadSubnet} (h : Inspected s seen found) :
    Inspected s (seen ++ kinds) (kinds.foldl s.inspect found) := by
  induction kinds generalizing seen found with
  | nil => rw [List.append_nil]; exact h
  | cons kind kinds ih =>
      have hstep := ih (inspected_step h kind)
      rwa [List.append_assoc] at hstep

/-! ## The comparisons -/

/-- Comparing each network that was read with the later ones is comparing the subnets in pairs. -/
theorem overlaps_filterMap_read? (kinds : List Subnet) :
    ReadSubnet.overlaps (kinds.filterMap s.read?) = (laterPairs kinds).filterMap s.overlap? := by
  induction kinds with
  | nil => rfl
  | cons kind kinds ih =>
      rw [laterPairs, List.filterMap_append, List.filterMap_map, ← ih]
      -- a subnet without a network is skipped on the left and gives no pair on the right
      cases hread : s.read? kind with
      | none =>
          have hnone : ∀ y ∈ kinds, (s.overlap? ∘ fun y => (kind, y)) y = Option.none := by
            intro y _
            simp only [Function.comp_apply, overlap?, hread, Option.bind_none]
          rw [List.filterMap_cons_none hread, List.filterMap_eq_nil_iff.mpr hnone]
          rfl
      | some a =>
          rw [List.filterMap_cons_some hread, ReadSubnet.overlaps, List.filterMap_filterMap]
          congr 2
          funext y
          simp only [Function.comp_apply, overlap?, hread, Option.bind_some]

/-- The report, without the loops. -/
theorem validate_eq (s : Subnets) :
    s.validate.errors = Subnet.all.filterMap s.error?
      ∧ (s.validate.isValid = true ↔ s.validate.errors = [])
      ∧ s.validate.warnings = (laterPairs Subnet.all).filterMap s.overlap? := by
  have h := inspected_foldl Subnet.all (inspected_init s)
  rw [List.nil_append] at h
  refine ⟨h.errors, h.valid, ?_⟩
  unfold validate
  dsimp only
  rw [h.warnings, h.read, overlaps_filterMap_read?, List.nil_append]

/--
**The report is exact.** There is one error for each subnet whose text is given and stands for no
network, and one warning for each two subnets whose networks have an address in common; both come
in the order of the subnets, and there is nothing else. Without errors, and only then, the report is
valid. No warning joins networks of different families.
-/
theorem validate_reports_exactly (s : Subnets) :
    ((s.validate.errors.map fun e => e.subnet).Sublist [.database, .storage, .client]
      ∧ ∀ e : BadNetwork, e ∈ s.validate.errors ↔ s.Rejects e.subnet e.cidr)
    ∧ (s.validate.isValid = true ↔ s.validate.errors = [])
    ∧ ((s.validate.warnings.map fun o => (o.first, o.second)).Sublist
        [(.database, .storage), (.database, .client), (.storage, .client)]
      ∧ ∀ o : Overlap, o ∈ s.validate.warnings ↔
        (o.first, o.second) ∈
            [(Subnet.database, Subnet.storage), (.database, .client), (.storage, .client)]
          ∧ s.Shares o.first o.firstCidr o.second o.secondCidr)
    ∧ ∀ o ∈ s.validate.warnings, ∀ m n : Network, s.Reads o.first o.firstCidr m →
        s.Reads o.second o.secondCidr n → m.isV4 = n.isV4 := by
  obtain ⟨herrors, hvalid, hwarnings⟩ := validate_eq s
  have hmem : ∀ o : Overlap, o ∈ s.validate.warnings ↔
      (o.first, o.second) ∈ laterPairs Subnet.all
        ∧ s.Shares o.first o.firstCidr o.second o.secondCidr := by
    intro o
    rw [hwarnings, List.mem_filterMap]
    constructor
    · rintro ⟨kinds, hkinds, ho⟩
      obtain ⟨rfl, hshares⟩ := overlap?_eq_some_iff.mp ho
      exact ⟨hkinds, hshares⟩
    · rintro ⟨hkinds, hshares⟩
      exact ⟨_, hkinds, overlap?_eq_some_iff.mpr ⟨rfl, hshares⟩⟩
  refine ⟨⟨?_, ?_⟩, hvalid, ⟨?_, hmem⟩, ?_⟩
  · rw [herrors]
    exact map_filterMap_sublist (fun _ _ h => (error?_eq_some_iff.mp h).1) Subnet.all
  · intro e
    rw [herrors, List.mem_filterMap]
    constructor
    · rintro ⟨kind, -, he⟩
      exact (error?_eq_some_iff.mp he).2
    · intro hrejects
      refine ⟨e.subnet, ?_, error?_eq_some_iff.mpr ⟨rfl, hrejects⟩⟩
      cases e.subnet <;> decide
  · rw [hwarnings]
    exact map_filterMap_sublist (fun _ _ h => (overlap?_eq_some_iff.mp h).1)
      (laterPairs Subnet.all)
  · intro o ho m n hm hn
    obtain ⟨-, m', n', hm', hn', x, hmx, hnx⟩ := (hmem o).mp ho
    -- a text stands for one network at most, so these are the networks that share `x`
    obtain rfl : m' = m := Option.some.inj (hm'.2.symm.trans hm.2)
    obtain rfl : n' = n := Option.some.inj (hn'.2.symm.trans hn.2)
    exact Network.isV4_eq_of_common hmx hnx

end Subnets

end HostsBlock
