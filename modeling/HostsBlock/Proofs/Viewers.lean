import HostsBlock.Proofs.Isolation

/-!
# What a viewer changes in a block

A block is made for somebody or for nobody, and this file compares the two. Nothing in a block
depends on the name of its viewer. What counts is one bit, whether the viewer is a database host,
and that only in a landscape whose database is spread over several hosts.

`Rendering.linesWith` cuts a block where it matters: it is the block that comes out if each host has
a given group of entries and nothing else changes. **A viewer adds the line on the isolation, and
one outside the database besides replaces the groups of database hosts.** So the groups of other
hosts, the order of all groups and everything around them are as they are for nobody.
-/

namespace HostsBlock

open Section

/-- The inventory has a database host of this name. -/
def Inventory.NamesHana (i : Inventory) (name : String) : Prop :=
  ∃ h, i.find? name = some h ∧ h.isHana = true

theorem Viewer.isHana_resolve_iff {i : Inventory} {name : String} :
    (Viewer.resolve i name).isHana = true ↔ i.NamesHana name :=
  Option.any_eq_true _ _

theorem Viewer.isHana_resolve_congr {i : Inventory} {a b : String}
    (h : i.NamesHana a ↔ i.NamesHana b) :
    (Viewer.resolve i a).isHana = (Viewer.resolve i b).isHana := by
  rw [Bool.eq_iff_iff, isHana_resolve_iff, isHana_resolve_iff]
  exact h

namespace Isolation

variable {d : Deployment} {v w : Viewer}

theorem forViewer?_of_scaleUp (hscale : d.scaleOut = false) (viewer : Option Viewer) :
    forViewer? d viewer = none := by
  unfold forViewer?
  rw [hscale]
  rfl

theorem forViewer?_eq_full (hscale : d.scaleOut = true) (hv : v.isHana = true) :
    forViewer? d (some v) = some .full := by
  unfold forViewer?
  rw [if_pos hscale, Option.map_some, hv]
  rfl

theorem forViewer?_congr (h : v.isHana = w.isHana) :
    forViewer? d (some v) = forViewer? d (some w) := by
  unfold forViewer?
  rw [Option.map_some, Option.map_some, h]

end Isolation

namespace Host

variable {d : Deployment} {s : Subnets} {h : Host}

/-- Isolation matters to a host only in so far as its addresses are filtered. -/
theorem entries_congr_isolation {a b : Option Isolation}
    (hab : a.any (·.filters h) = b.any (·.filters h)) : h.entries d s a = h.entries d s b := by
  have hshown : h.shown? s a = h.shown? s b := by
    unfold shown?
    rw [hab]
  unfold entries
  rw [hshown]

theorem entries_full : h.entries d s (some .full) = h.entries d s none :=
  entries_congr_isolation rfl

theorem entries_of_outside (hout : h.isHana = false) (isolation : Option Isolation) :
    h.entries d s isolation = h.entries d s none := by
  refine entries_congr_isolation ?_
  cases isolation with
  | none => rfl
  | some isolation =>
      rw [Option.any_some, Isolation.filters, hout, Bool.and_false]
      rfl

end Host

/-- Inserting behind the first of two lists. -/
theorem insertIdx_length_append {α : Type} (xs ys : List α) (x : α) :
    (xs ++ ys).insertIdx xs.length x = xs ++ x :: ys := by
  induction xs with
  | nil => rfl
  | cons y xs ih =>
      rw [List.cons_append, List.length_cons, List.insertIdx_succ_cons, ih, List.cons_append]

namespace Rendering

variable {r : Rendering} {name : String}

/-- The lines of a block in which each host has the given entries. -/
def linesWith (r : Rendering) (group : Host → List Entry) : List String :=
  r.header ++ "" :: (r.inventory.hosts.flatMap group).map Entry.line
    ++ [endLine (mainTitle r.deployment)] ++ r.virtualLines

theorem lines_eq_linesWith (r : Rendering) :
    r.lines = r.linesWith (·.entries r.deployment r.subnets r.isolation) := rfl

theorem linesWith_congr {f g : Host → List Entry} (h : ∀ k ∈ r.inventory.hosts, f k = g k) :
    r.linesWith f = r.linesWith g := by
  have hgroups : r.inventory.hosts.flatMap f = r.inventory.hosts.flatMap g :=
    List.flatMap_congr h
  unfold linesWith
  rw [hgroups]

theorem isolation_withoutViewer (r : Rendering) : r.withoutViewer.isolation = none := by
  unfold isolation Isolation.forViewer? withoutViewer
  split <;> rfl

/-- For nobody the block has all entries. -/
theorem lines_withoutViewer (r : Rendering) :
    r.withoutViewer.lines = r.withoutViewer.linesWith (·.entries r.deployment r.subnets none) := by
  rw [lines_eq_linesWith, isolation_withoutViewer]
  rfl

/-- The line on the isolation is the ninth. -/
theorem header_some (d : Deployment) (s : Subnets) (n : Nat) (isolation : Isolation) :
    Section.header d s n (some isolation)
      = Section.header d s n none ++ [isolationLine isolation] := rfl

theorem length_header_none (d : Deployment) (s : Subnets) (n : Nat) :
    (Section.header d s n none).length = 8 := rfl

theorem lines_withViewer {isolation : Isolation}
    (h : (r.withViewer name).isolation = some isolation) :
    (r.withViewer name).lines
      = (r.withoutViewer.linesWith (·.entries r.deployment r.subnets (some isolation))).insertIdx 8
          (isolationLine isolation) := by
  have hviewer : (r.withViewer name).header
      = Section.header r.deployment r.subnets r.inventory.playHostCount none
        ++ [isolationLine isolation] := by
    unfold header
    rw [h]
    exact header_some _ _ _ _
  have hnobody : r.withoutViewer.header
      = Section.header r.deployment r.subnets r.inventory.playHostCount none := by
    unfold header
    rw [isolation_withoutViewer]
    rfl
  -- the line comes directly behind the header for nobody
  rw [lines_eq_linesWith, h, ← length_header_none r.deployment r.subnets]
  unfold linesWith
  rw [hviewer, hnobody]
  simp only [List.append_assoc]
  exact (insertIdx_length_append _ _ _).symm

end Rendering

/--
**The viewer's effect is confined.** Take any landscape with any hosts, and compare the block made
for a viewer with the one made for nobody.

Two viewers get the same block if both are database hosts of the inventory or both are not. If the
database is on one host, every viewer gets the block for nobody. If it is on several, a database
host gets the block for nobody with one line put in behind the first eight. Any other viewer gets a
line there too, and of the rest only the groups of database hosts are other ones: with the groups
left as they are for hosts outside the database, it is the block for nobody.
-/
theorem viewer_effect_confined (r : Rendering) :
    (∀ a b, (r.inventory.NamesHana a ↔ r.inventory.NamesHana b) →
      (r.withViewer a).lines = (r.withViewer b).lines)
    ∧ (r.deployment.scaleOut = false → ∀ a, (r.withViewer a).lines = r.withoutViewer.lines)
    ∧ (r.deployment.scaleOut = true → ∀ a, r.inventory.NamesHana a →
      (r.withViewer a).lines
        = r.withoutViewer.lines.insertIdx 8 "# Network isolation: full view (database host)")
    ∧ (r.deployment.scaleOut = true → ∀ a, ¬ r.inventory.NamesHana a →
      (r.withViewer a).lines
        = (r.withoutViewer.linesWith fun h => h.entries r.deployment r.subnets
            (if h.isHana then some .filtered else none)).insertIdx 8
              "# Network isolation: filtered view (client subnet only)")
    ∧ r.withoutViewer.lines
        = r.withoutViewer.linesWith (·.entries r.deployment r.subnets none) := by
  -- a block depends on its viewer through the isolation, so each part begins with that
  refine ⟨fun a b hab => ?_, fun hscale a => ?_, fun hscale a ha => ?_, fun hscale a ha => ?_,
    r.lines_withoutViewer⟩
  · have hisolation : (r.withViewer a).isolation = (r.withViewer b).isolation :=
      Isolation.forViewer?_congr (Viewer.isHana_resolve_congr hab)
    unfold Rendering.lines Rendering.mainLines Rendering.header Rendering.hostEntries
    rw [hisolation]
    rfl
  · have hisolation : (r.withViewer a).isolation = r.withoutViewer.isolation := by
      rw [r.isolation_withoutViewer]
      exact Isolation.forViewer?_of_scaleUp hscale _
    unfold Rendering.lines Rendering.mainLines Rendering.header Rendering.hostEntries
    rw [hisolation]
    rfl
  · -- a database host is shown what nobody in particular is
    have hisolation : (r.withViewer a).isolation = some .full :=
      Isolation.forViewer?_eq_full hscale (Viewer.isHana_resolve_iff.mpr ha)
    rw [Rendering.lines_withViewer hisolation, r.lines_withoutViewer]
    simp only [Host.entries_full]
    rfl
  · have houtside : (Viewer.resolve r.inventory a).isHana = false :=
      Bool.eq_false_iff.mpr fun hhana => ha (Viewer.isHana_resolve_iff.mp hhana)
    have hisolation : (r.withViewer a).isolation = some .filtered :=
      Isolation.forViewer?_eq_filtered hscale houtside
    rw [Rendering.lines_withViewer hisolation, isolationLine]
    -- the view only makes a difference for the groups of database hosts
    refine congrArg (List.insertIdx · 8 _) (Rendering.linesWith_congr fun h _ => ?_)
    split
    · rfl
    · rename_i hout
      exact Host.entries_of_outside (Bool.eq_false_iff.mpr hout) _

/-- A landscape with a host outside the database and the database host from above. -/
def twoTierLandscape : Rendering :=
  { overlappingLandscape with
    inventory := ⟨2, [⟨"app0", ["10.0.3.10"], ["app"], .none⟩, overlappingHost]⟩ }

/-- The host outside the database and a host that is not known get the same block. It has the line
on the isolation and other addresses for the database host, but the same entry of the host outside.
With the database on one host there is no difference. -/
theorem twoTierLandscape_viewers :
    twoTierLandscape.inventory.NamesHana "db0"
      ∧ ¬ twoTierLandscape.inventory.NamesHana "app0"
      ∧ (twoTierLandscape.withViewer "app0").lines = (twoTierLandscape.withViewer "jumpbox").lines
      ∧ (twoTierLandscape.withViewer "db0").lines
        = twoTierLandscape.withoutViewer.lines.insertIdx 8
          "# Network isolation: full view (database host)"
      ∧ (twoTierLandscape.withViewer "app0").lines.drop 10
        = [Entry.line ⟨"10.0.3.10", "app0.contoso.com", "app0"⟩,
          Entry.line ⟨"10.0.3.20", "db0.contoso.com", "db0"⟩,
          Entry.line ⟨"10.0.3.5", "db0-hana.contoso.com", "db0-hana"⟩,
          "# END ANSIBLE MANAGED BLOCK - "]
      ∧ ({ twoTierLandscape with deployment := .ofRecord .empty }.withViewer "app0").lines
        = { twoTierLandscape with
            deployment := .ofRecord .empty : Rendering }.withoutViewer.lines := by
  have hdb : twoTierLandscape.inventory.NamesHana "db0" := ⟨overlappingHost, by decide, by decide⟩
  have happ : ¬ twoTierLandscape.inventory.NamesHana "app0" := fun h =>
    absurd (Viewer.isHana_resolve_iff.mpr h) (by decide)
  have hunknown : ¬ twoTierLandscape.inventory.NamesHana "jumpbox" := fun h =>
    absurd (Viewer.isHana_resolve_iff.mpr h) (by decide)
  obtain ⟨hsame, -, hfull, hfiltered, -⟩ := viewer_effect_confined twoTierLandscape
  obtain ⟨-, hscaleUp, -, -, -⟩ :=
    viewer_effect_confined { twoTierLandscape with deployment := .ofRecord .empty }
  refine ⟨hdb, happ, hsame _ _ (iff_of_false happ hunknown), hfull rfl _ hdb, ?_,
    hscaleUp (by decide) _⟩
  rw [hfiltered rfl _ happ]
  decide +kernel

end HostsBlock
