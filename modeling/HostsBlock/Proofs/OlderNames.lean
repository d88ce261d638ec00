import HostsBlock.Proofs.Outcome
import HostsBlock.Proofs.Records

/-!
# Settings that have an older name

Two settings of the database were once called otherwise, `Key.renamed`. The older name still counts
where the current one has no value. Which of the two values is taken is decided before it is known
whether the value makes any sense, so a current value that makes none stands in the way of the older
one.

This gives two rules for who brings a record up to date. **Where the current name has no value, the
older value may be moved to it. Where it has one, the older name may be dropped**, and nothing that
comes out of the record changes, `older_names_give_way`. Both rest on the fact that a key is looked
up under both names of a renamed setting or under neither.
-/

namespace HostsBlock

/-- The settings that have an older name, by the current name and the older one. -/
def Key.renamed : List (String × String) :=
  [("database_high_availability", "db_high_availability"),
    ("database_loadbalancer_ip", "db_lb_ip")]

/-- A key has both names of a renamed setting, the current one first, or neither of them. -/
theorem Key.names_of_renamed : ∀ p ∈ renamed, ∀ k ∈ Record.keys,
    k.names = [p.1, p.2] ∨ p.1 ∉ k.names ∧ p.2 ∉ k.names := by
  decide

namespace Record

variable {v w : Record} {current older : String}

/-- The second record is the first one with the value of the older name under the current one. -/
structure Moved (older current : String) (v w : Record) : Prop where
  value : w.get? current = v.get? older
  gone : w.raw? older = none
  elsewhere : ∀ name, name ≠ older → name ≠ current → v.raw? name = w.raw? name

theorem find?_eq_or {k : Key} (hk : k.names = [current, older]) :
    v.find? k = (v.get? current).or (v.get? older) := by
  unfold find?
  rw [hk]
  cases hcurrent : v.get? current with
  | none =>
      rw [List.findSome?_cons, hcurrent, List.findSome?_singleton, Option.none_or]
  | some x =>
      rw [List.findSome?_cons, hcurrent, Option.some_or]

theorem find?_of_current {k : Key} (hk : k.names = [current, older]) {x : Value}
    (hx : v.get? current = some x) : v.find? k = some x := by
  rw [find?_eq_or hk, hx, Option.some_or]

/-- Records are read alike if the same is found under all keys. -/
theorem readAlike_of_find?_eq (h : ∀ k ∈ keys, v.find? k = w.find? k) : v.ReadAlike w := by
  unfold keys at h
  obtain ⟨hsettings, hhosts⟩ := List.forall_mem_append.mp h
  have hplayHosts : v.find? .playHosts = w.find? .playHosts := hhosts _ (by simp)
  have hvariables : v.find? .hostVariables = w.find? .hostVariables := hhosts _ (by simp)
  exact ⟨hsettings, texts_congr hplayHosts, fun name _ => host_congr hvariables name⟩

/-- What is asked of the names of one renamed setting decides about all keys. -/
theorem readAlike_of_renamed (h : (current, older) ∈ Key.renamed)
    (hsame : (v.get? current).or (v.get? older) = (w.get? current).or (w.get? older))
    (helse : ∀ name, name ≠ older → name ≠ current → v.raw? name = w.raw? name) :
    v.ReadAlike w := by
  refine readAlike_of_find?_eq fun k hk => ?_
  rcases Key.names_of_renamed _ h k hk with hnames | ⟨hcurrent, holder⟩
  · rw [find?_eq_or hnames, find?_eq_or hnames, hsame]
  · -- the key is asked under neither of the two names
    refine find?_congr fun name hname => get?_congr (helse name ?_ ?_)
    · rintro rfl
      exact holder hname
    · rintro rfl
      exact hcurrent hname

theorem Moved.readAlike (h : Moved older current v w) (hrenamed : (current, older) ∈ Key.renamed)
    (hmissing : v.get? current = none) : v.ReadAlike w := by
  refine readAlike_of_renamed hrenamed ?_ h.elsewhere
  rw [hmissing, h.value, get?_eq_none_of_raw? (.inl h.gone), Option.none_or, Option.or_none]

theorem AgreeBesides.readAlike (h : v.AgreeBesides w older)
    (hrenamed : (current, older) ∈ Key.renamed) {x : Value} (hcurrent : v.get? current = some x) :
    v.ReadAlike w := by
  have hne : current ≠ older := by
    have hall : ∀ p ∈ Key.renamed, p.1 ≠ p.2 := by decide
    exact hall _ hrenamed
  refine readAlike_of_renamed hrenamed ?_ fun name holder _ => h name holder
  rw [← h.get?_eq hne, hcurrent, Option.some_or, Option.some_or]

end Record

/--
**Older names give way.** Take any record and a setting of the database that has an older name.

If there is no value under the current name, the value of the older name may be moved there: the
blocks stay the same, whoever they are made for, and so do the report on the subnets and the report
on each stage. If there is a value under the current name, whatever it is, anything may be done to
the older name in the same way.

What is set is then what the value under the current name says. If it makes no sense, the database
is not highly available or has no load balancer, even if there is a better value under the older
name.
-/
theorem older_names_give_way (v w : Record) :
    (∀ p ∈ Key.renamed,
      (v.get? p.1 = none → v.Moved p.2 p.1 w → v.SameOutcome w)
      ∧ ∀ x, v.get? p.1 = some x → v.AgreeBesides w p.2 → v.SameOutcome w)
    ∧ (∀ x, v.get? "database_high_availability" = some x →
      (Deployment.ofRecord v).dbHighAvailability = x.bool?.getD false)
    ∧ (∀ x, v.get? "database_loadbalancer_ip" = some x →
      (Deployment.ofRecord v).dbLoadBalancer = x.nonBlank?) := by
  refine ⟨fun p hp => ⟨fun hmissing hmoved => ?_, fun x hx hagree => ?_⟩, fun x hx => ?_,
    fun x hx => ?_⟩
  · exact (hmoved.readAlike hp hmissing).sameOutcome
  · exact (hagree.readAlike hp hx).sameOutcome
  · show ((v.find? .dbHighAvailability).bind Value.bool?).getD false = _
    rw [Record.find?_of_current rfl hx, Option.bind_some]
  · show (v.find? .dbLoadBalancer).bind Value.nonBlank? = _
    rw [Record.find?_of_current rfl hx, Option.bind_some]

/-- Settings of a landscape, with a blank value under the current name of an address. -/
def unaddressedSettings : List Variable :=
  [("sap_sid", .string "x00"), ("db_sid", .string "hdb"), ("sap_fqdn", .string "contoso.com"),
    ("database_loadbalancer_ip", .string " ")]

/-- The landscape with the older name of a flag. -/
def olderRecord : Record := .ofList
  (("db_high_availability", .string "yes") :: ("database_high_availability", .null)
    :: unaddressedSettings)

/-- The landscape with the current name of the flag. -/
def currentRecord : Record := .ofList
  (("database_high_availability", .string "yes") :: unaddressedSettings)

theorem olderRecord_moved :
    olderRecord.Moved "db_high_availability" "database_high_availability" currentRecord where
  value := rfl
  gone := rfl
  elsewhere := by
    intro name holder hcurrent
    show List.lookup name (("db_high_availability", Value.string "yes")
        :: ("database_high_availability", .null) :: unaddressedSettings)
      = List.lookup name (("database_high_availability", Value.string "yes") :: unaddressedSettings)
    rw [lookup_cons_eq, if_neg holder.symm, lookup_cons_eq, if_neg hcurrent.symm, lookup_cons_eq,
      if_neg hcurrent.symm]

/-- The flag moves to its current name. An address under the other older name changes nothing, since
there is a value under the current one, though a blank one. -/
theorem olderRecord_sameOutcome :
    olderRecord.get? "database_high_availability" = none
      ∧ olderRecord.Moved "db_high_availability" "database_high_availability" currentRecord
      ∧ olderRecord.SameOutcome currentRecord
      ∧ olderRecord.SameOutcome (olderRecord.insert "db_lb_ip" (.string "10.0.1.10"))
      ∧ (Deployment.ofRecord currentRecord).dbHighAvailability = true
      ∧ (Deployment.ofRecord
          (olderRecord.insert "db_lb_ip" (.string "10.0.1.10"))).dbLoadBalancer = none := by
  obtain ⟨hmove, -, -⟩ := older_names_give_way olderRecord currentRecord
  obtain ⟨hchange, -, -⟩ :=
    older_names_give_way olderRecord (olderRecord.insert "db_lb_ip" (.string "10.0.1.10"))
  obtain ⟨-, hflag, -⟩ := older_names_give_way currentRecord currentRecord
  obtain ⟨-, -, hbalancer⟩ :=
    older_names_give_way (olderRecord.insert "db_lb_ip" (.string "10.0.1.10")) olderRecord
  refine ⟨rfl, olderRecord_moved, ?_, ?_, ?_, ?_⟩
  · exact (hmove _ List.mem_cons_self).1 rfl olderRecord_moved
  · refine (hchange _ (List.mem_cons_of_mem _ List.mem_cons_self)).2 (.string " ") rfl ?_
    exact Record.agreeBesides_insert _ _ _
  · rw [hflag (.string "yes") rfl]
    decide +kernel
  · rw [hbalancer (.string " ") rfl]
    decide +kernel

end HostsBlock
