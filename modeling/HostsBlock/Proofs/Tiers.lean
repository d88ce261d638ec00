import HostsBlock.Proofs.RoleNames
import Mathlib.Data.List.Induction

/-!
# Tiers that are named more than once

A host says what it is used for in a list of tiers, in which a tier may come again. The tiers of the
host are that list without the repetitions: each text once, in the place where it came first,
`Host.hasTiers_ofVariables`. This is what makes a list that is written by hand or put together by a
program safe. **To name a tier again changes nothing**, wherever in the list that is, as long as it
is behind the first time, `Record.RepeatsTier.sameOutcome`.

Three of the tiers stand for roles. Since a tier counts once, a host plays each of them once, and
has one entry at most under the name of each role, `Host.entries_by_role`.
-/

namespace HostsBlock

/-! ## Lists without repetitions -/

section FirstAppearance

variable {α : Type} [DecidableEq α]

/-- The last element of a list counts only if it is not there before. -/
theorem eraseDups_concat (l : List α) (a : α) :
    (l ++ [a]).eraseDups = if a ∈ l then l.eraseDups else l.eraseDups ++ [a] := by
  split
  · rename_i hmem
    rw [eraseDups_append_cons_of_mem hmem, List.append_nil]
  · rename_i hnew
    have hkept : [a].removeAll l = [a] := by
      rw [List.cons_removeAll, List.contains_eq_mem, decide_eq_false hnew, if_pos rfl]
      rfl
    rw [List.eraseDups_append, hkept]
    rfl

/-- **What is left stands in the order of first appearance.** -/
theorem pairwise_idxOf_eraseDups (l : List α) :
    l.eraseDups.Pairwise fun a b => l.idxOf a < l.idxOf b := by
  induction l using List.reverseRecOn with
  | nil => exact List.Pairwise.nil
  | append_singleton l a ih =>
      -- what is found in the front is found there as well when the list grows
      have hfront : l.eraseDups.Pairwise fun b c => (l ++ [a]).idxOf b < (l ++ [a]).idxOf c := by
        refine ih.imp_of_mem fun {b c} hb hc hlt => ?_
        rw [List.idxOf_append_of_mem (List.mem_eraseDups.mp hb),
          List.idxOf_append_of_mem (List.mem_eraseDups.mp hc)]
        exact hlt
      rw [eraseDups_concat]
      split
      · exact hfront
      · rename_i hnew
        refine List.pairwise_append.mpr ⟨hfront, List.pairwise_singleton _ _, ?_⟩
        intro b hb c hc
        have hmem : b ∈ l := List.mem_eraseDups.mp hb
        obtain rfl := List.mem_singleton.mp hc
        rw [List.idxOf_append_of_mem hmem, List.idxOf_append_of_notMem hnew]
        exact Nat.lt_add_right _ (List.idxOf_lt_length_of_mem hmem)

theorem nodup_eraseDups (l : List α) : l.eraseDups.Nodup := by
  refine (pairwise_idxOf_eraseDups l).imp ?_
  rintro a b hlt rfl
  exact absurd hlt (Nat.lt_irrefl _)

end FirstAppearance

/-! ## The tiers of a host -/

/-- Each of the texts is a tier once, in the order in which they came first. -/
structure Host.HasTiers (h : Host) (texts : List String) : Prop where
  once : h.tiers.Nodup
  all : ∀ tier, tier ∈ h.tiers ↔ tier ∈ texts
  ordered : h.tiers.Pairwise fun s t => texts.idxOf s < texts.idxOf t

theorem Host.hasTiers_ofVariables (name : String) {value x : Value}
    (hx : ((Record.ofValue? value).getD .empty).raw? Key.tiers.name = some x) :
    (ofVariables name value).HasTiers x.texts := by
  have htiers : (ofVariables name value).tiers = x.texts.eraseDups :=
    congrArg List.eraseDups (Record.texts_ofName hx)
  refine ⟨?_, fun tier => ?_, ?_⟩
  · rw [htiers]
    exact nodup_eraseDups _
  · rw [htiers]
    exact List.mem_eraseDups
  · rw [htiers]
    exact pairwise_idxOf_eraseDups _

namespace Host

variable {d : Deployment} {s : Subnets} {h : Host}

/-- The roles that a host plays. -/
def roles (h : Host) : List Role := h.tiers.filterMap Role.ofTier?

theorem mem_roles {role : Role} :
    role ∈ h.roles ↔ role ∈ [Role.pas, .app, .web] ∧ role.name ∈ h.tiers := by
  unfold roles
  rw [List.mem_filterMap]
  constructor
  · rintro ⟨tier, htier, hrole⟩
    obtain ⟨hthree, rfl⟩ := Role.ofTier?_eq_some hrole
    exact ⟨hthree, htier⟩
  · rintro ⟨hthree, htier⟩
    exact ⟨role.name, htier, Role.ofTier?_name hthree⟩

/-- No two tiers stand for one role. -/
theorem nodup_roles (htiers : h.tiers.Nodup) : h.roles.Nodup := by
  refine htiers.filterMap fun s t role hs ht => ?_
  obtain ⟨-, rfl⟩ := Role.ofTier?_eq_some hs
  obtain ⟨-, rfl⟩ := Role.ofTier?_eq_some ht
  rfl

/-- The entry of a host for a role, if there is a name for it. -/
def entryFor? (d : Deployment) (h : Host) (primary : String) (role : Role) : Option Entry :=
  ((d.custom.get? role).or (h.custom.get? role)).map (entry d primary)

theorem roleEntries_eq_filterMap (primary : String) :
    h.roleEntries d primary = h.roles.filterMap (h.entryFor? d primary) := by
  unfold roleEntries roleNames
  rw [List.map_filterMap]
  rfl

/-- **The entries of a host role by role.** -/
theorem entries_by_role (isolation : Option Isolation) :
    h.entries d s isolation = [] ∨ ∃ primary others,
      h.entries d s isolation = entry d primary h.name
        :: h.roles.filterMap (h.entryFor? d primary) ++ h.suffixedEntries d s others := by
  rcases entries_cases d s isolation h with hnil | ⟨shown, -, -, -, hentries⟩
  · exact Or.inl hnil
  · refine Or.inr ⟨shown.primary, shown.others, ?_⟩
    rw [hentries, roleEntries_eq_filterMap]

end Host

/-! ## A tier that is named again -/

namespace Record

variable {v w : Record} {name : String}

/-- The second record is the first one in which a host names one of its tiers again, behind the
first time. -/
structure RepeatsTier (v w : Record) (name : String) : Prop where
  elsewhere : v.AgreeBesides w "hostvars"
  others : ∀ n, n ≠ name → v.hostVariables? n = w.hostVariables? n
  besides : (v.variablesOf name).AgreeBesides (w.variablesOf name) "supported_tiers"
  again : ∃ front tier back, tier ∈ front
    ∧ (v.variablesOf name).texts .tiers = front ++ back
    ∧ (w.variablesOf name).texts .tiers = front ++ tier :: back

/-- In a list of values, what reads like an earlier one is a tier that is named again. -/
theorem texts_tiers_again {front back : List Value} {again : Value}
    (hv : v.raw? Key.tiers.name = some (.list (front ++ back)))
    (hw : w.raw? Key.tiers.name = some (.list (front ++ again :: back)))
    (hvalue : again.isNull = false) (hknown : again.text ∈ (Value.list front).texts) :
    ∃ front tier back, tier ∈ front ∧ v.texts .tiers = front ++ back
      ∧ w.texts .tiers = front ++ tier :: back := by
  refine ⟨(Value.list front).texts, again.text, (Value.list back).texts, hknown, ?_, ?_⟩
  · refine (texts_ofName hv).trans ?_
    simp only [Value.texts, List.filter_append, List.map_append]
  · have hkept : (again :: back).filter (!·.isNull) = again :: back.filter (!·.isNull) :=
      List.filter_cons_of_pos (by rw [hvalue, Bool.not_false])
    refine (texts_ofName hw).trans ?_
    simp only [Value.texts, List.filter_append, hkept, List.map_append, List.map_cons]

theorem host_eq_mk (vars : Record) (n : String) :
    vars.host n =
      { name := n
        addresses := (vars.variablesOf n).texts .addresses
        tiers := ((vars.variablesOf n).texts .tiers).eraseDups
        custom := .ofRecord (vars.variablesOf n) } := rfl

theorem RepeatsTier.host_eq (h : v.RepeatsTier w name) (n : String) : v.host n = w.host n := by
  by_cases hn : n = name
  · subst hn
    obtain ⟨front, tier, back, hmem, hv, hw⟩ := h.again
    -- the tiers are read from another list, and everything else from the same variables
    have haddresses : (v.variablesOf n).texts .addresses = (w.variablesOf n).texts .addresses :=
      texts_congr (h.besides.find?_eq (by decide))
    have htiers : ((v.variablesOf n).texts .tiers).eraseDups
        = ((w.variablesOf n).texts .tiers).eraseDups := by
      rw [hv, hw, eraseDups_append_cons_of_mem hmem]
    have hcustom : CustomNames.ofRecord (v.variablesOf n) = .ofRecord (w.variablesOf n) :=
      CustomNames.ofRecord_congr fun role =>
        nonBlank?_congr (h.besides.find?_eq (by cases role <;> decide))
    rw [host_eq_mk, host_eq_mk, haddresses, htiers, hcustom]
  · unfold host
    rw [h.others n hn]

theorem RepeatsTier.sameOutcome (h : v.RepeatsTier w name) : v.SameOutcome w := by
  have hread : v.ReadAlike w :=
    ⟨sameSettings_of_hosts h.elsewhere, texts_congr (h.elsewhere.find?_eq (by decide)),
      fun n _ => h.host_eq n⟩
  exact hread.sameOutcome

end Record

/--
**A tier counts once.** Take any variables of a host. The texts that they have for its tiers, in
whatever way these are written, are its tiers: each of them once, in the order in which they came
first.

Take any record, and any host in it. If one of the host's tiers is named again, at any later place
of the list, the blocks stay the same, whoever they are made for, and so do the report on the
subnets and the report on each stage.

The roles of the host are those of the three whose names are tiers, each of them once. Among its
entries, between its own name and the names with suffixes, each role has one entry, or none if there
is no name for it.
-/
theorem tiers_count_once (v w : Record) (name : String) :
    (∀ value x, ((Record.ofValue? value).getD .empty).raw? "supported_tiers" = some x →
      (Host.ofVariables name value).HasTiers x.texts)
    ∧ (v.RepeatsTier w name → v.SameOutcome w)
    ∧ (v.host name).roles.Nodup
    ∧ (∀ role, role ∈ (v.host name).roles
        ↔ role ∈ [Role.pas, .app, .web] ∧ role.name ∈ (v.host name).tiers)
    ∧ ∀ a, (Rendering.forAudience v a).group (v.host name) = []
      ∨ ∃ primary others, (Rendering.forAudience v a).group (v.host name)
        = Host.entry (.ofRecord v) primary name
          :: (v.host name).roles.filterMap ((v.host name).entryFor? (.ofRecord v) primary)
            ++ (v.host name).suffixedEntries (.ofRecord v) (.ofRecord v) others := by
  refine ⟨fun value x hx => Host.hasTiers_ofVariables name hx, fun h => h.sameOutcome,
    Host.nodup_roles (nodup_eraseDups _), fun role => Host.mem_roles, fun a => ?_⟩
  unfold Rendering.group
  rw [Rendering.deployment_forAudience, Rendering.subnets_forAudience]
  exact Host.entries_by_role _

/-- A landscape with one application server of the given tiers, and a name for one role. -/
def tieredRecord (tiers : List Value) : Record := (Record.ofList dialogSettings).insert "hostvars"
  (.object [("app0",
    .object [("ipadd", .string "10.0.0.5"), ("supported_tiers", .list tiers)])])

theorem tieredRecord_repeatsTier (front back : List Value) {again : Value}
    (hvalue : again.isNull = false) (hknown : again.text ∈ (Value.list front).texts) :
    (tieredRecord (front ++ back)).RepeatsTier (tieredRecord (front ++ again :: back)) "app0" where
  elsewhere := Record.agreeBesides_insert_insert _ _ _ _
  others := by
    intro n hn
    exact (Value.member?_append_cons [] [] _ hn).trans (Value.member?_append_cons [] [] _ hn).symm
  besides := Record.agreeBesides_insert
    (.ofList [("ipadd", .string "10.0.0.5"), ("supported_tiers", .list (front ++ back))])
    "supported_tiers" _
  again := Record.texts_tiers_again rfl rfl hvalue hknown

/-- A role for which the run has a name is named twice, and a tier is written as a number and as a
text. -/
theorem tieredRecord_tiers_count_once :
    (tieredRecord [.string "app", .int 7]).RepeatsTier
        (tieredRecord [.string "app", .int 7, .string "app"]) "app0"
      ∧ (tieredRecord [.string "app", .int 7]).SameOutcome
        (tieredRecord [.string "app", .int 7, .string "app"])
      ∧ ((tieredRecord [.string "app", .int 7, .string "7"]).host "app0").HasTiers ["app", "7", "7"]
      ∧ (Rendering.forAudience (tieredRecord [.string "app", .int 7, .string "app"])
        .nobody).hostEntries
          = [⟨"10.0.0.5", "app0.contoso.com", "app0"⟩,
            ⟨"10.0.0.5", "dialog.contoso.com", "dialog"⟩] := by
  have hagain : (tieredRecord [.string "app", .int 7]).RepeatsTier
      (tieredRecord [.string "app", .int 7, .string "app"]) "app0" :=
    tieredRecord_repeatsTier [.string "app", .int 7] [] rfl (by decide +kernel)
  obtain ⟨-, hsame, -⟩ := tiers_count_once (tieredRecord [.string "app", .int 7])
    (tieredRecord [.string "app", .int 7, .string "app"]) "app0"
  obtain ⟨htiers, -⟩ := tiers_count_once .empty .empty "app0"
  refine ⟨hagain, hsame hagain, ?_, by decide +kernel⟩
  exact htiers _ (.list [.string "app", .int 7, .string "7"]) rfl

end HostsBlock
